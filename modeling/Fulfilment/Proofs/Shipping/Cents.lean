import Fulfilment.Proofs.Shipping.Arithmetic

/-! Costs in whole cents.

Prices for weight and percentages are rounded, so that every cost is a whole number of cents.
Prices for units are multiplied and added up only: they keep the fraction of a cent that the
units add up to, unless the digits have no room for it. -/
namespace Fulfilment

/-- A whole number of hundredths. -/
def WholeCents (x : ℚ) : Prop := ∃ cents : ℤ, x * 100 = cents

namespace WholeCents

variable {x y result : ℚ}

theorem zero : WholeCents 0 := ⟨0, by simp⟩

theorem add (first : WholeCents x) (second : WholeCents y) : WholeCents (x + y) := by
  obtain ⟨cents, whole⟩ := first
  obtain ⟨more, other⟩ := second
  exact ⟨cents + more, by rw [add_mul, whole, other, Int.cast_add]⟩

theorem mul_natCast (whole : WholeCents x) (count : Nat) : WholeCents (x * count) := by
  obtain ⟨cents, whole⟩ := whole
  refine ⟨cents * count, ?_⟩
  rw [mul_right_comm, whole]
  push_cast
  rfl

theorem of_rounded (rounded : Rounded 2 x result) : WholeCents result := by
  obtain ⟨units, _, rfl⟩ := rounded
  refine ⟨units, ?_⟩
  norm_num

/-- Dropping digits for which there is no room leaves no fraction of a cent where there was none. -/
theorem of_fitted (whole : WholeCents x) (fitted : Fitted x result) : WholeCents result := by
  obtain ⟨places, mantissa, _, _, nearest, rfl, _⟩ := fitted
  rcases Nat.le_total places 2 with coarse | fine
  · refine ⟨mantissa * 10 ^ (2 - places), ?_⟩
    have power : (100 : ℚ) = 10 ^ (2 - places) * 10 ^ places := by
      rw [← pow_add, Nat.sub_add_cancel coarse]
      norm_num
    rw [power]
    push_cast
    field_simp
  -- With two places or more the whole cents are among the digits that are kept.
  · obtain ⟨cents, whole⟩ := whole
    have power : (10 : ℚ) ^ places = 100 * 10 ^ (places - 2) := by
      rw [← Nat.add_sub_cancel' fine, pow_add, Nat.add_sub_cancel_left]
      norm_num
    have digits : x * 10 ^ places = (cents * 10 ^ (places - 2) : ℤ) := by
      rw [power, ← mul_assoc, whole]
      push_cast
      rfl
    rw [digits] at nearest
    have same : (mantissa : ℚ) = cents * 10 ^ (places - 2) := by
      exact_mod_cast nearest.unique (.intCast _)
    refine ⟨cents, ?_⟩
    rw [same, power]
    field_simp

end WholeCents

namespace FlexiRate

variable {p : Preferences} (first : 0 ≤ p.firstItem.value) (additional : 0 ≤ p.additionalItem.value)
  {cost : Decimal}

include first additional

theorem cost?_wholeCents {quantity : Nat} (ok : cost? p quantity = some cost)
    (firstWhole : WholeCents p.firstItem.value) (additionalWhole : WholeCents p.additionalItem.value) :
    WholeCents cost.value := by
  cases units : charged p quantity with
  | zero =>
    rw [cost?_of_charged_zero units] at ok
    cases ok
    rw [Decimal.value_zero]
    exact .zero
  | succ further =>
    rw [cost?_of_charged_succ units] at ok
    obtain ⟨extra, multiplied, added⟩ := price?_fitted first additional ok
    exact (((additionalWhole.mul_natCast further).of_fitted multiplied).add firstWhole).of_fitted added

theorem cost?_eq_total {quantity : Nat} (ok : cost? p quantity = some cost)
    (small : total p quantity * 10 ^ max p.firstItem.scale p.additionalItem.scale <
      Decimal.mantissaLimit) : cost.value = total p quantity := by
  cases quantity with
  | zero =>
    rw [cost?_of_charged_zero (charged_zero p)] at ok
    cases ok
    rw [Decimal.value_zero, total]
  | succ more =>
    obtain ⟨further, units⟩ := Nat.exists_eq_succ_of_ne_zero (charged_pos p more).ne'
    rw [cost?_of_charged_succ units] at ok
    rw [total_succ, units, Nat.succ_sub_one] at small ⊢
    obtain ⟨_, multiplied, _⟩ := Option.bind_eq_some_iff.mp ok
    obtain ⟨_, counted, _⟩ := Option.bind_eq_some_iff.mp multiplied
    obtain ⟨price, found, exact⟩ :=
      price?_exact first additional (Decimal.lt_of_ofNat? counted) small
    cases ok.symm.trans found
    exact exact

end FlexiRate

/-- A percentage and a price for weight are whole cents for every parcel. A price for units is
whole cents where the exact price is, and, as long as the digits of that fit, only there. -/
theorem Calculator.multiplied_costs_in_cents (stored : Json.Value) (parcel : Parcel)
    (cost : Decimal) :
    (∀ p, ItemTotalPercent.tariff.accept stored = .ok p →
      (ItemTotalPercent.tariff.calculator p).compute parcel = .ok (some cost) →
      WholeCents cost.value) ∧
    (∀ p, ByWeight.tariff.accept stored = .ok p →
      (ByWeight.tariff.calculator p).compute parcel = .ok (some cost) → WholeCents cost.value) ∧
    (∀ p, PerItem.tariff.accept stored = .ok p →
      (PerItem.tariff.calculator p).compute parcel = .ok (some cost) →
      (WholeCents (p.amount.value * parcel.quantity) → WholeCents cost.value) ∧
      (p.amount.value * parcel.quantity * 10 ^ p.amount.scale < Decimal.mantissaLimit →
        (WholeCents cost.value ↔ WholeCents (p.amount.value * parcel.quantity)))) ∧
    ∀ p, FlexiRate.tariff.accept stored = .ok p →
      (FlexiRate.tariff.calculator p).compute parcel = .ok (some cost) →
      (WholeCents p.firstItem.value → WholeCents p.additionalItem.value → WholeCents cost.value) ∧
      (FlexiRate.total p parcel.quantity * 10 ^ max p.firstItem.scale p.additionalItem.scale <
          Decimal.mantissaLimit →
        (WholeCents cost.value ↔ WholeCents (FlexiRate.total p parcel.quantity))) := by
  refine ⟨?percent, ?weight, ?units, ?steps⟩
  case percent =>
    intro p _ computed
    rw [Tariff.compute_ok, ItemTotalPercent.compute_ok] at computed
    obtain ⟨total, _, priced⟩ := computed
    obtain ⟨product, _, rfl⟩ := Option.map_eq_some_iff.mp priced
    exact .of_rounded product.hundredth.rounded_roundCents
  case weight =>
    intro p _ computed
    rw [Tariff.compute_ok, ByWeight.compute_ok] at computed
    obtain ⟨weight, _, _, priced⟩ := computed
    obtain ⟨product, _, rfl⟩ := Option.map_eq_some_iff.mp priced
    exact .of_rounded product.rounded_roundCents
  case units =>
    intro p accepted computed
    rw [Tariff.compute_ok, PerItem.compute_ok] at computed
    have amount := PerItem.amount_nonneg accepted
    refine ⟨fun whole => whole.of_fitted (PerItem.cost?_fitted amount computed), ?_⟩
    intro small
    rw [PerItem.cost?_exact amount computed small]
  case steps =>
    intro p accepted computed
    rw [Tariff.compute_ok, FlexiRate.compute_ok] at computed
    obtain ⟨first, additional⟩ := FlexiRate.prices_nonneg accepted
    refine ⟨FlexiRate.cost?_wholeCents first additional computed, ?_⟩
    intro small
    rw [FlexiRate.cost?_eq_total first additional computed small]

def twoHalves : Parcel := ⟨2, some (.ofDigits 5 1), some (.ofDigits 5 1), .usd⟩

/-- Eighths are rounded and two half cents make a whole one, but half a cent more for the first
unit stays. -/
theorem Calculator.twoHalves_in_cents :
    (∃ cost, (ItemTotalPercent.tariff.calculator ⟨.ofDigits 25 0, none⟩).compute twoHalves =
      .ok (some cost) ∧ WholeCents cost.value) ∧
    (∃ cost, (ByWeight.tariff.calculator ⟨.ofDigits 25 2, none, none⟩).compute twoHalves =
      .ok (some cost) ∧ WholeCents cost.value) ∧
    (∃ cost, (PerItem.tariff.calculator ⟨.ofDigits 5 3, none⟩).compute twoHalves =
      .ok (some cost) ∧ WholeCents cost.value) ∧
    ∃ cost, (FlexiRate.tariff.calculator ⟨.ofDigits 505 3, .ofDigits 25 2, 0, none⟩).compute
      twoHalves = .ok (some cost) ∧ ¬ WholeCents cost.value := by
  refine ⟨?percent, ?weight, ?units, ?steps⟩
  case percent =>
    have law := (multiplied_costs_in_cents (.object [("flat_percent", .integer 25)]) twoHalves
      (.ofDigits 12 2)).1
    exact ⟨.ofDigits 12 2, rfl, law ⟨.ofDigits 25 0, none⟩ rfl rfl⟩
  case weight =>
    have law := (multiplied_costs_in_cents (.object [("per_unit", .string "0.25")]) twoHalves
      (.ofDigits 12 2)).2.1
    exact ⟨.ofDigits 12 2, rfl, law ⟨.ofDigits 25 2, none, none⟩ rfl rfl⟩
  case units =>
    have law := (multiplied_costs_in_cents (.object [("amount", .string "0.005")]) twoHalves
      (.ofDigits 10 3)).2.2.1
    refine ⟨.ofDigits 10 3, rfl, (law ⟨.ofDigits 5 3, none⟩ rfl rfl).1 ⟨1, ?_⟩⟩
    rw [Decimal.value_ofDigits (by decide) (by decide)]
    norm_num [twoHalves]
  case steps =>
    have law := (multiplied_costs_in_cents (.object [("additional_item", .string "0.25"),
      ("first_item", .string "0.505")]) twoHalves (.ofDigits 755 3)).2.2.2
    have sum : FlexiRate.total ⟨.ofDigits 505 3, .ofDigits 25 2, 0, none⟩ twoHalves.quantity =
        755 / 1000 := by
      change FlexiRate.total ⟨.ofDigits 505 3, .ofDigits 25 2, .zero, none⟩ 2 = _
      simp only [FlexiRate.total, FlexiRate.unitPrice, Units.count_zero]
      rw [Decimal.value_ofDigits (by decide) (by decide),
        Decimal.value_ofDigits (by decide) (by decide)]
      norm_num
    have exact := (law ⟨.ofDigits 505 3, .ofDigits 25 2, 0, none⟩ rfl rfl).2 (by
      rw [sum]
      norm_num [Decimal.ofDigits, Decimal.mantissaLimit])
    refine ⟨.ofDigits 755 3, rfl, ?_⟩
    rw [exact, sum]
    rintro ⟨cents, whole⟩
    have halves : (151 : ℚ) = (2 * cents : ℤ) := by
      push_cast
      linarith
    have : (151 : ℤ) = 2 * cents := by exact_mod_cast halves
    omega

/-- Two units at a price of a thousandth more than a cent. -/
theorem Calculator.unitPrice_leaves_fraction : ∃ calculator cost,
    Registry.builtIn.build "per_item" (.object [("amount", .string "1.234")]) = .ok calculator ∧
      calculator.compute ⟨2, none, none, .usd⟩ = .ok (some cost) ∧ ¬ WholeCents cost.value := by
  refine ⟨PerItem.tariff.calculator ⟨.ofDigits 1234 3, none⟩, .ofDigits 2468 3, rfl, rfl, ?_⟩
  rintro ⟨cents, whole⟩
  rw [Decimal.value_ofDigits (by decide) (by decide)] at whole
  have tenths : (2468 : ℚ) = (10 * cents : ℤ) := by
    push_cast
    linarith
  have : (2468 : ℤ) = 10 * cents := by exact_mod_cast tenths
  omega

end Fulfilment
