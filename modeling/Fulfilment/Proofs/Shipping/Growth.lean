import Fulfilment.Proofs.Decimal.Fitting
import Fulfilment.Proofs.Shipping.Tariff

/-! Costs of parcels that grow.

A calculator that charges by units, by weight or by the item total asks no less for a larger
parcel. Where it has a cost for the larger one it has one for the smaller one, however their
digits are rounded. -/
namespace Fulfilment

/-- When one parcel is at least as large as another in what the calculators of a kind charge
for. -/
inductive Parcel.Grows (small large : Parcel) : (kind : String) → Prop
  | perItem (quantity : small.quantity ≤ large.quantity) : Grows small large "per_item"
  | flexiRate (quantity : small.quantity ≤ large.quantity) : Grows small large "flexi_rate"
  | byWeight (light heavy : Decimal) (first : small.weight = some light)
      (second : large.weight = some heavy) (positive : 0 < light.value)
      (weight : light.value ≤ heavy.value) : Grows small large "weight"
  | itemTotalPercent (less more : Decimal) (first : small.itemTotal = some less)
      (second : large.itemTotal = some more) (nonneg : 0 ≤ less.value)
      (total : less.value ≤ more.value) : Grows small large "flat_percent_item_total"

namespace FlexiRate

/-- The price of a first unit and further ones. -/
def price? (p : Preferences) (further : Nat) : Option Decimal :=
  ((Decimal.ofNat? further).bind p.additionalItem.mul?).bind fun additional =>
    additional.add? p.firstItem

theorem cost?_of_charged_succ {p : Preferences} {quantity further : Nat}
    (units : charged p quantity = further + 1) : cost? p quantity = price? p further := by
  rw [cost?, units, price?, Option.bind_assoc]
  rfl

theorem cost?_of_charged_zero {p : Preferences} {quantity : Nat} (units : charged p quantity = 0) :
    cost? p quantity = some .zero := by
  rw [cost?, units]

theorem charged_mono (p : Preferences) {m n : Nat} (le : m ≤ n) : charged p m ≤ charged p n := by
  unfold charged
  split <;> omega

section Costs

variable {p : Preferences} (first : 0 ≤ p.firstItem.value) (additional : 0 ≤ p.additionalItem.value)

include first additional

theorem price?_mono {m n : Nat} (le : m ≤ n) {high : Decimal} (ok : price? p n = some high) :
    ∃ low, price? p m = some low ∧ 0 ≤ low.value ∧ low.value ≤ high.value := by
  obtain ⟨larger, multiplied, added⟩ := Option.bind_eq_some_iff.mp ok
  obtain ⟨smaller, found, nonneg, less⟩ := Decimal.multiple_mono additional le multiplied
  obtain ⟨low, sum, above, below⟩ := Decimal.add?_mono nonneg first less le_rfl added
  exact ⟨low, by rw [price?, found, Option.bind_some, sum], above, below⟩

theorem cost?_mono {m n : Nat} (le : m ≤ n) {high : Decimal} (ok : cost? p n = some high) :
    ∃ low, cost? p m = some low ∧ low.value ≤ high.value := by
  have more := charged_mono p le
  cases fewer : charged p m with
  | zero =>
    refine ⟨.zero, cost?_of_charged_zero fewer, ?_⟩
    rw [Decimal.value_zero]
    cases units : charged p n with
    | zero =>
      rw [cost?_of_charged_zero units] at ok
      cases ok
      exact Decimal.value_zero.ge
    | succ further =>
      rw [cost?_of_charged_succ units] at ok
      obtain ⟨low, _, above, below⟩ := price?_mono first additional le_rfl ok
      exact above.trans below
  | succ few =>
    obtain ⟨further, units⟩ : ∃ further, charged p n = further + 1 :=
      Nat.exists_eq_succ_of_ne_zero (by omega)
    rw [cost?_of_charged_succ units] at ok
    have le_further : few ≤ further := by omega
    obtain ⟨low, found, _, below⟩ := price?_mono first additional le_further ok
    exact ⟨low, by rw [cost?_of_charged_succ fewer, found], below⟩

end Costs

end FlexiRate

theorem ByWeight.cost?_mono {p : Preferences} (nonneg : 0 ≤ p.perUnit.value) {light heavy : Decimal}
    (positive : 0 ≤ light.value) (le : light.value ≤ heavy.value) {high : Decimal}
    (ok : cost? p heavy = some high) :
    ∃ low, cost? p light = some low ∧ low.value ≤ high.value := by
  obtain ⟨larger, multiplied, rfl⟩ := Option.map_eq_some_iff.mp ok
  obtain ⟨smaller, found, _, less⟩ := Decimal.mul?_mono positive nonneg le le_rfl multiplied
  exact ⟨smaller.roundCents, by rw [cost?, found, Option.map_some], Decimal.roundCents_mono less⟩

theorem ItemTotalPercent.cost?_mono {p : Preferences} (nonneg : 0 ≤ p.flatPercent.value)
    {less more : Decimal} (positive : 0 ≤ less.value) (le : less.value ≤ more.value) {high : Decimal}
    (ok : cost? p more = some high) :
    ∃ low, cost? p less = some low ∧ low.value ≤ high.value := by
  obtain ⟨larger, multiplied, rfl⟩ := Option.map_eq_some_iff.mp ok
  obtain ⟨smaller, found, _, fewer⟩ := Decimal.mul?_mono positive nonneg le le_rfl multiplied
  exact ⟨smaller.hundredth.roundCents, by rw [cost?, found, Option.map_some],
    Decimal.roundCents_mono (Decimal.hundredth_mono fewer)⟩

/-- No calculator asks less for a larger parcel, or fails for a smaller one only. -/
theorem Calculator.cost_grows {kind : String} {stored : Json.Value} {calculator : Calculator}
    (built : Registry.builtIn.build kind stored = .ok calculator) {small large : Parcel}
    (grows : small.Grows large kind) {high : Decimal}
    (ok : calculator.compute large = .ok (some high)) :
    ∃ low, calculator.compute small = .ok (some low) ∧ low.value ≤ high.value := by
  cases grows with
  | perItem quantity =>
    obtain ⟨p, accepted, rfl⟩ := (Tariff.built_ok .perItem).mp built
    have amount := PerItem.amount_nonneg accepted
    simp only [Tariff.compute_ok, PerItem.compute_ok] at ok ⊢
    obtain ⟨low, found, _, below⟩ := Decimal.multiple_mono amount quantity ok
    exact ⟨low, found, below⟩
  | flexiRate quantity =>
    obtain ⟨p, accepted, rfl⟩ := (Tariff.built_ok .flexiRate).mp built
    obtain ⟨first, additional⟩ := FlexiRate.prices_nonneg accepted
    simp only [Tariff.compute_ok, FlexiRate.compute_ok] at ok ⊢
    exact FlexiRate.cost?_mono first additional quantity ok
  | byWeight light heavy first second positive weight =>
    obtain ⟨p, accepted, rfl⟩ := (Tariff.built_ok .byWeight).mp built
    have perUnit := ByWeight.perUnit_nonneg accepted
    simp only [Tariff.compute_ok, ByWeight.compute_ok] at ok ⊢
    obtain ⟨_, found, _, priced⟩ := ok
    cases found.symm.trans second
    obtain ⟨low, cheaper, below⟩ := ByWeight.cost?_mono perUnit positive.le weight priced
    have some : light.mantissa ≠ 0 := by
      intro none
      rw [Decimal.value_of_mantissa_eq_zero none] at positive
      exact lt_irrefl 0 positive
    exact ⟨low, ⟨light, first, some, cheaper⟩, below⟩
  | itemTotalPercent less more first second nonneg total =>
    obtain ⟨p, accepted, rfl⟩ := (Tariff.built_ok .itemTotalPercent).mp built
    have percent := ItemTotalPercent.percent_nonneg accepted
    simp only [Tariff.compute_ok, ItemTotalPercent.compute_ok] at ok ⊢
    obtain ⟨_, found, priced⟩ := ok
    cases found.symm.trans second
    obtain ⟨low, cheaper, below⟩ := ItemTotalPercent.cost?_mono percent nonneg total priced
    exact ⟨low, ⟨less, first, cheaper⟩, below⟩

/-- The product with the larger weight has no room for its digits. -/
theorem Calculator.heavyCrate_costs_more :
    let crate (weight : Decimal) : Parcel := ⟨1, some weight, none, .usd⟩
    let heavy := Decimal.ofDigits 12345678901234567890123456789 1
    let high := Decimal.ofDigits 8230864123453086412345308641 1
    ∃ calculator low, Registry.builtIn.build "weight" (.object [("per_unit", .string "0.6667")]) =
        .ok calculator ∧ calculator.compute (crate heavy) = .ok (some high) ∧
      calculator.compute (crate (.ofDigits 5 1)) = .ok (some low) ∧ low.value ≤ high.value := by
  intro crate heavy high
  let calculator := ByWeight.tariff.calculator ⟨.ofDigits 6667 4, none, none⟩
  have built : Registry.builtIn.build "weight" (.object [("per_unit", .string "0.6667")]) =
      .ok calculator := rfl
  have priced : calculator.compute (crate heavy) = .ok (some high) := by
    rw [Tariff.compute_ok, ByWeight.compute_ok]
    exact ⟨heavy, rfl, by decide, by decide⟩
  have weights : (Decimal.ofDigits 5 1).value = 1 / 2 ∧
      heavy.value = 12345678901234567890123456789 / 10 := by
    constructor
    · rw [Decimal.value_ofDigits (by decide) (by decide)]
      norm_num
    · rw [Decimal.value_ofDigits (by decide) (by decide)]
      norm_num
  have grows : (crate (.ofDigits 5 1)).Grows (crate heavy) "weight" := by
    refine .byWeight _ _ rfl rfl ?_ ?_
    · rw [weights.1]
      norm_num
    · rw [weights.1, weights.2]
      norm_num
  obtain ⟨low, cheaper, below⟩ := cost_grows built grows priced
  exact ⟨calculator, low, built, priced, cheaper, below⟩

end Fulfilment
