import Fulfilment.Proofs.Shipping.Growth

/-! Costs as arithmetic defines them.

As long as the digits of the exact product fit, a price for weight and a percentage are rounded
once, from the exact value to cents. A price for units is what the units add one after another. -/
namespace Fulfilment

theorem Decimal.hundredth_exact {d : Decimal} {units : ℤ} (whole : d.value * 10 ^ 26 = units) :
    d.hundredth.value = d.value / 100 := by
  apply (rounded_hundredth d).eq_of_whole
  rw [← whole]
  ring

theorem ByWeight.cost?_rounded {p : Preferences} {weight : Decimal}
    (small : weight.mantissa * p.perUnit.mantissa < Decimal.mantissaLimit)
    (fine : weight.scale + p.perUnit.scale ≤ 28) :
    ∃ cost, cost? p weight = some cost ∧ Rounded 2 (weight.value * p.perUnit.value) cost.value := by
  obtain ⟨product, multiplied, exact⟩ := Decimal.mul?_exact small fine
  refine ⟨product.roundCents, by rw [cost?, multiplied, Option.map_some], ?_⟩
  rw [← exact]
  exact product.rounded_roundCents

theorem ItemTotalPercent.cost?_rounded {p : Preferences} {total : Decimal}
    (small : total.mantissa * p.flatPercent.mantissa < Decimal.mantissaLimit)
    (fine : total.scale + p.flatPercent.scale ≤ 26) :
    ∃ cost, cost? p total = some cost ∧
      Rounded 2 (total.value * p.flatPercent.value / 100) cost.value := by
  obtain ⟨product, multiplied, exact⟩ := Decimal.mul?_exact small (by omega)
  refine ⟨product.hundredth.roundCents, by rw [cost?, multiplied, Option.map_some], ?_⟩
  -- The digits that the total leaves of the twenty-six are enough for those of the percentage.
  have whole : product.value * 10 ^ 26 =
      (total.mantissaAt total.scale * p.flatPercent.mantissaAt (26 - total.scale) : ℤ) := by
    have power : (10 : ℚ) ^ 26 = 10 ^ total.scale * 10 ^ (26 - total.scale) := by
      rw [← pow_add, Nat.add_sub_cancel' (by omega)]
    rw [Int.cast_mul, Decimal.cast_mantissaAt le_rfl, Decimal.cast_mantissaAt (by omega), exact, power]
    ring
  rw [← exact, ← Decimal.hundredth_exact whole]
  exact product.hundredth.rounded_roundCents

namespace PerItem

variable {p : Preferences} {quantity : Nat} {cost : Decimal}

theorem cost?_fitted (nonneg : 0 ≤ p.amount.value) (ok : cost? p quantity = some cost) :
    Fitted (p.amount.value * quantity) cost.value := by
  obtain ⟨factor, counted, multiplied⟩ := Option.bind_eq_some_iff.mp ok
  have times := Decimal.value_of_ofNat? counted
  rw [← times]
  exact (Decimal.computes_mul? nonneg (times.symm ▸ Nat.cast_nonneg quantity)).fitted cost multiplied

theorem cost?_exact (nonneg : 0 ≤ p.amount.value) (ok : cost? p quantity = some cost)
    (small : p.amount.value * quantity * 10 ^ p.amount.scale < Decimal.mantissaLimit) :
    cost.value = p.amount.value * quantity := by
  obtain ⟨digits, whole⟩ : ∃ digits : Nat, p.amount.value * 10 ^ p.amount.scale = digits :=
    ⟨_, (Decimal.measures_of_nonneg le_rfl nonneg).whole⟩
  have product : p.amount.value * quantity * 10 ^ p.amount.scale = (digits * quantity : Nat) := by
    rw [mul_right_comm, whole, Nat.cast_mul]
  rw [product] at small
  exact (cost?_fitted nonneg ok).eq_of_digits product (by exact_mod_cast small) p.amount.scale_le

end PerItem

namespace FlexiRate

/-- What one unit adds, counted from one. -/
def unitPrice (p : Preferences) (unit : Nat) : ℚ :=
  if unit = 1 then p.firstItem.value
  else if 1 < unit ∧ (p.maxItems.count = 0 ∨ unit ≤ p.maxItems.count) then p.additionalItem.value
  else 0

/-- What so many units add one after another. -/
def total (p : Preferences) : (units : Nat) → ℚ
  | 0 => 0
  | units + 1 => total p units + unitPrice p (units + 1)

theorem charged_succ (p : Preferences) (quantity : Nat) : charged p (quantity + 1) =
    if p.maxItems.count = 0 ∨ quantity + 1 ≤ p.maxItems.count then charged p quantity + 1
    else charged p quantity := by
  unfold charged
  split <;> split <;> omega

theorem charged_le (p : Preferences) (quantity : Nat) : charged p quantity ≤ quantity := by
  unfold charged
  split <;> omega

theorem charged_zero (p : Preferences) : charged p 0 = 0 := Nat.le_zero.mp (charged_le p 0)

theorem charged_pos (p : Preferences) (quantity : Nat) : 0 < charged p (quantity + 1) := by
  unfold charged
  split <;> omega

theorem total_succ (p : Preferences) (quantity : Nat) : total p (quantity + 1) =
    p.firstItem.value + (charged p (quantity + 1) - 1 : Nat) * p.additionalItem.value := by
  induction quantity with
  | zero =>
    have one : charged p 1 = 1 := le_antisymm (charged_le p 1) (charged_pos p 0)
    simp [total, unitPrice, one]
  | succ quantity ih =>
    have some := charged_pos p quantity
    rw [total, ih, charged_succ p (quantity + 1), unitPrice, if_neg (by omega)]
    by_cases counts : p.maxItems.count = 0 ∨ quantity + 1 + 1 ≤ p.maxItems.count
    · have one_more : charged p (quantity + 1) + 1 - 1 = charged p (quantity + 1) - 1 + 1 := by omega
      rw [if_pos ⟨by omega, counts⟩, if_pos counts, one_more, Nat.cast_add]
      ring
    · rw [if_neg fun both => counts both.2, if_neg counts, add_zero]

theorem price?_fitted {p : Preferences} (first : 0 ≤ p.firstItem.value)
    (additional : 0 ≤ p.additionalItem.value) {further : Nat} {cost : Decimal}
    (ok : price? p further = some cost) :
    ∃ extra, Fitted (p.additionalItem.value * further) extra ∧
      Fitted (extra + p.firstItem.value) cost.value := by
  obtain ⟨extra, multiplied, added⟩ := Option.bind_eq_some_iff.mp ok
  obtain ⟨factor, counted, product⟩ := Option.bind_eq_some_iff.mp multiplied
  have times := Decimal.value_of_ofNat? counted
  have computed := Decimal.computes_mul? additional (times.symm ▸ Nat.cast_nonneg further)
  have nonneg := computed.nonneg extra product
  refine ⟨extra.value, ?_, (Decimal.computes_add? nonneg first).fitted cost added⟩
  rw [← times]
  exact computed.fitted extra product

theorem price?_exact {p : Preferences} (first : 0 ≤ p.firstItem.value)
    (additional : 0 ≤ p.additionalItem.value) {further : Nat} (few : further < Decimal.mantissaLimit)
    (small : (p.firstItem.value + further * p.additionalItem.value) *
      10 ^ max p.firstItem.scale p.additionalItem.scale < Decimal.mantissaLimit) :
    ∃ price, price? p further = some price ∧
      price.value = p.firstItem.value + further * p.additionalItem.value := by
  obtain ⟨factor, counted⟩ : ∃ factor, Decimal.ofNat? further = some factor := ⟨_, dif_pos few⟩
  have times := Decimal.value_of_ofNat? counted
  -- Both prices are whole numbers of the last digits of the finer one.
  let places := max p.firstItem.scale p.additionalItem.scale
  have fine : places ≤ 28 := Nat.max_le.mpr ⟨p.firstItem.scale_le, p.additionalItem.scale_le⟩
  obtain ⟨units, whole⟩ : ∃ units : Nat, p.firstItem.value * 10 ^ places = units :=
    ⟨_, (Decimal.measures_of_nonneg (Nat.le_max_left _ _) first).whole⟩
  obtain ⟨more, other⟩ : ∃ more : Nat, p.additionalItem.value * 10 ^ places = more :=
    ⟨_, (Decimal.measures_of_nonneg (Nat.le_max_right _ _) additional).whole⟩
  have sum : (p.firstItem.value + further * p.additionalItem.value) * 10 ^ places =
      (units + further * more : Nat) := by
    rw [add_mul, mul_assoc, whole, other]
    push_cast
    rfl
  have below : units + further * more < Decimal.mantissaLimit := by
    rw [sum] at small
    exact_mod_cast small
  have product : p.additionalItem.value * factor.value * 10 ^ places = (further * more : Nat) := by
    rw [times, mul_right_comm, other]
    push_cast
    ring
  obtain ⟨extra, multiplied, exact⟩ :=
    (Decimal.computes_mul? additional (times.symm ▸ Nat.cast_nonneg further)).exact product
      (by omega) fine
  have nonneg : 0 ≤ extra.value := by
    rw [exact, times]
    positivity
  have result : (extra.value + p.firstItem.value) * 10 ^ places = (units + further * more : Nat) := by
    rw [exact, times, ← sum]
    ring
  obtain ⟨price, added, same⟩ := (Decimal.computes_add? nonneg first).exact result below fine
  refine ⟨price, ?_, ?_⟩
  · rw [price?, counted, Option.bind_some, multiplied, Option.bind_some, added]
  · rw [same, exact, times]
    ring

theorem cost?_exact {p : Preferences} (first : 0 ≤ p.firstItem.value)
    (additional : 0 ≤ p.additionalItem.value) {quantity : Nat} (few : quantity < Decimal.mantissaLimit)
    (small : total p quantity * 10 ^ max p.firstItem.scale p.additionalItem.scale <
      Decimal.mantissaLimit) :
    ∃ cost, cost? p quantity = some cost ∧ cost.value = total p quantity := by
  cases quantity with
  | zero => exact ⟨.zero, cost?_of_charged_zero (charged_zero p), by rw [Decimal.value_zero, total]⟩
  | succ more =>
    obtain ⟨further, units⟩ := Nat.exists_eq_succ_of_ne_zero (charged_pos p more).ne'
    have le := charged_le p (more + 1)
    rw [total_succ, units, Nat.succ_sub_one] at small ⊢
    obtain ⟨price, found, exact⟩ := price?_exact first additional (by omega) small
    exact ⟨price, by rw [cost?_of_charged_succ units, found], exact⟩

end FlexiRate

/-- What costs are by arithmetic: for weight and for a percentage the exact value rounded once, for
units their sum one by one. A parcel holds fewer than 2^64 units. -/
theorem Calculator.costs_follow_arithmetic (stored : Json.Value) (parcel : Parcel) :
    (∀ p weight, ByWeight.tariff.accept stored = .ok p → parcel.weight = some weight →
      weight.mantissa ≠ 0 → weight.mantissa * p.perUnit.mantissa < Decimal.mantissaLimit →
      weight.scale + p.perUnit.scale ≤ 28 →
      ∃ cost, (ByWeight.tariff.calculator p).compute parcel = .ok (some cost) ∧
        Rounded 2 (weight.value * p.perUnit.value) cost.value) ∧
    (∀ p total, ItemTotalPercent.tariff.accept stored = .ok p → parcel.itemTotal = some total →
      total.mantissa * p.flatPercent.mantissa < Decimal.mantissaLimit →
      total.scale + p.flatPercent.scale ≤ 26 →
      ∃ cost, (ItemTotalPercent.tariff.calculator p).compute parcel = .ok (some cost) ∧
        Rounded 2 (total.value * p.flatPercent.value / 100) cost.value) ∧
    (∀ p, FlexiRate.tariff.accept stored = .ok p → parcel.quantity < 2 ^ 64 →
      FlexiRate.total p parcel.quantity * 10 ^ max p.firstItem.scale p.additionalItem.scale <
        Decimal.mantissaLimit →
      ∃ cost, (FlexiRate.tariff.calculator p).compute parcel = .ok (some cost) ∧
        cost.value = FlexiRate.total p parcel.quantity) := by
  refine ⟨?weight, ?percent, ?units⟩
  case weight =>
    intro p weight _ carried heavy small fine
    obtain ⟨cost, priced, rounded⟩ := ByWeight.cost?_rounded small fine
    refine ⟨cost, ?_, rounded⟩
    rw [Tariff.compute_ok, ByWeight.compute_ok]
    exact ⟨weight, carried, heavy, priced⟩
  case percent =>
    intro p total _ summed small fine
    obtain ⟨cost, priced, rounded⟩ := ItemTotalPercent.cost?_rounded small fine
    refine ⟨cost, ?_, rounded⟩
    rw [Tariff.compute_ok, ItemTotalPercent.compute_ok]
    exact ⟨total, summed, priced⟩
  case units =>
    intro p accepted range small
    obtain ⟨first, additional⟩ := FlexiRate.prices_nonneg accepted
    have few : parcel.quantity < Decimal.mantissaLimit := range.trans (by decide)
    obtain ⟨cost, priced, exact⟩ := FlexiRate.cost?_exact first additional few small
    refine ⟨cost, ?_, exact⟩
    rw [Tariff.compute_ok, FlexiRate.compute_ok]
    exact priced

/-- An eighth is rounded down to the even cent, and of three units the last one is free. -/
theorem Calculator.smallParcel_costs :
    let parcel : Parcel := ⟨3, some (.ofDigits 5 1), some (.ofDigits 5 1), .usd⟩
    let quarter : ByWeight.Preferences := ⟨.ofDigits 25 2, none, none⟩
    let percent : ItemTotalPercent.Preferences := ⟨.ofDigits 25 0, none⟩
    let steps : FlexiRate.Preferences := ⟨.ofDigits 500 2, .ofDigits 25 1, 2, none⟩
    (∃ cost, (ByWeight.tariff.calculator quarter).compute parcel = .ok (some cost) ∧
      Rounded 2 (1 / 8) cost.value) ∧
    (∃ cost, (ItemTotalPercent.tariff.calculator percent).compute parcel = .ok (some cost) ∧
      Rounded 2 (1 / 8) cost.value) ∧
    ∃ cost, (FlexiRate.tariff.calculator steps).compute parcel = .ok (some cost) ∧
      cost.value = 15 / 2 := by
  intro parcel quarter percent steps
  have half : (Decimal.ofDigits 5 1).value = 1 / 2 := by
    rw [Decimal.value_ofDigits (by decide) (by decide)]
    norm_num
  have perUnit : quarter.perUnit.value = 1 / 4 := by
    rw [Decimal.value_ofDigits (by decide) (by decide)]
    norm_num
  have rate : percent.flatPercent.value = 25 := by
    rw [Decimal.value_ofDigits (by decide) (by decide)]
    norm_num
  have first : steps.firstItem.value = 5 := by
    rw [Decimal.value_ofDigits (by decide) (by decide)]
    norm_num
  have further : steps.additionalItem.value = 5 / 2 := by
    rw [Decimal.value_ofDigits (by decide) (by decide)]
    norm_num
  have sum : FlexiRate.total steps parcel.quantity = 15 / 2 := by
    change FlexiRate.total steps 3 = 15 / 2
    have two : steps.maxItems.count = 2 := rfl
    simp only [FlexiRate.total, FlexiRate.unitPrice, first, further, two]
    norm_num
  refine ⟨?weight, ?percent, ?units⟩
  case weight =>
    obtain ⟨byWeight, _, _⟩ := costs_follow_arithmetic (.object [("per_unit", .string "0.25")]) parcel
    obtain ⟨cost, computed, rounded⟩ := byWeight quarter _ rfl rfl (by decide) (by decide) (by decide)
    rw [half, perUnit] at rounded
    norm_num at rounded
    exact ⟨cost, computed, rounded⟩
  case percent =>
    obtain ⟨_, byTotal, _⟩ := costs_follow_arithmetic (.object [("flat_percent", .integer 25)]) parcel
    obtain ⟨cost, computed, rounded⟩ := byTotal percent _ rfl rfl (by decide) (by decide)
    rw [half, rate] at rounded
    norm_num at rounded
    exact ⟨cost, computed, rounded⟩
  case units =>
    obtain ⟨_, _, byUnits⟩ := costs_follow_arithmetic (.object [("additional_item", .string "2.5"),
      ("first_item", .string "5.00"), ("max_items", .integer 2)]) parcel
    obtain ⟨cost, computed, exact⟩ := byUnits steps rfl (by decide) (by
      rw [sum]
      norm_num [steps, Decimal.ofDigits, Decimal.mantissaLimit])
    exact ⟨cost, computed, exact.trans sum⟩

end Fulfilment
