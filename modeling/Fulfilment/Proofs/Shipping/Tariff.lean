import Fulfilment.Proofs.Decimal.Rounding
import Fulfilment.Proofs.Outcome
import Fulfilment.Shipping.Registry

/-! What a built calculator is: a tariff with preferences that it accepted.

Accepted preferences are decoded ones without negative amounts. The registry that comes with the
marketplace builds the calculators of its tariffs and no others. -/
namespace Fulfilment

namespace Tariff

inductive BuiltIn : {P : Type} → Tariff P → Prop
  | flatRate : BuiltIn FlatRate.tariff
  | perItem : BuiltIn PerItem.tariff
  | itemTotalPercent : BuiltIn ItemTotalPercent.tariff
  | flexiRate : BuiltIn FlexiRate.tariff
  | priceSack : BuiltIn PriceSack.tariff
  | byWeight : BuiltIn ByWeight.tariff

variable {P : Type} {tariff : Tariff P} {stored : Json.Value} {preferences : P}
  {calculator : Calculator}

theorem firstNegative?_eq_none_iff {amounts : List (String × Decimal)} :
    firstNegative? amounts = none ↔ ∀ amount ∈ amounts, 0 ≤ amount.2.value := by
  have nonneg (d : Decimal) : d.less .zero = false ↔ 0 ≤ d.value := by
    rw [Decimal.not_less_iff, Decimal.atoms_le_iff, Decimal.value_zero]
  simp only [firstNegative?, List.find?_eq_none, Bool.not_eq_true, nonneg]

theorem accept_ok : tariff.accept stored = .ok preferences ↔
    tariff.decode stored = .ok preferences ∧
      ∀ amount ∈ tariff.amounts preferences, 0 ≤ amount.2.value := by
  rw [← firstNegative?_eq_none_iff, accept]
  cases tariff.decode stored with
  | error reason => simp
  | ok decoded =>
    dsimp only
    constructor
    · intro accepted
      split at accepted
      · contradiction
      · rename_i none
        cases accepted
        exact ⟨rfl, none⟩
    · rintro ⟨same, none⟩
      cases same
      rw [none]

theorem build_ok : tariff.build stored = .ok calculator ↔
    ∃ preferences, tariff.accept stored = .ok preferences ∧
      tariff.calculator preferences = calculator := by
  unfold build
  cases tariff.accept stored <;> simp

theorem compute_ok {parcel : Parcel} {outcome : Option Decimal} :
    (tariff.calculator preferences).compute parcel = .ok outcome ↔
      tariff.compute preferences parcel = .ok outcome := by
  simp only [calculator]
  cases tariff.compute preferences parcel <;> simp [Except.mapError]

theorem compute_error {parcel : Parcel} {error : CalculatorError} :
    (tariff.calculator preferences).compute parcel = .error error ↔
      ∃ fault, tariff.compute preferences parcel = .error fault ∧
        .computeFailed tariff.kind fault = error := by
  simp only [calculator]
  cases tariff.compute preferences parcel <;> simp [Except.mapError]

theorem orOverflow_ok {α : Type} {amount : Amount} {computed : Option α} {value : α} :
    orOverflow amount computed = .ok value ↔ computed = some value := by
  cases computed <;> simp [orOverflow]

theorem orOverflow_error {α : Type} {amount : Amount} {computed : Option α} {fault : ComputeFault} :
    orOverflow amount computed = .error fault ↔ computed = none ∧ fault = .overflow amount := by
  cases computed <;> simp [orOverflow, eq_comm]

theorem map_orOverflow_ok {amount : Amount} {computed : Option Decimal} {value : Decimal} :
    (orOverflow amount computed).map some = .ok (some value) ↔ computed = some value := by
  cases computed <;> simp [orOverflow, Except.map]

theorem map_orOverflow_error {amount : Amount} {computed : Option Decimal} {fault : ComputeFault} :
    (orOverflow amount computed).map some = .error fault ↔
      computed = none ∧ fault = .overflow amount := by
  cases computed <;> simp [orOverflow, Except.map, eq_comm]

theorem build_builtIn (builtIn : BuiltIn tariff) (stored : Json.Value) :
    Registry.builtIn.build tariff.kind stored = tariff.build stored := by
  cases builtIn <;> rfl

theorem built_ok (builtIn : BuiltIn tariff) : Registry.builtIn.build tariff.kind stored = .ok calculator ↔
    ∃ preferences, tariff.accept stored = .ok preferences ∧
      tariff.calculator preferences = calculator := by
  rw [build_builtIn builtIn, build_ok]

theorem exists_builtIn {kind : String} (built : Registry.builtIn.build kind stored = .ok calculator) :
    ∃ (P : Type) (tariff : Tariff P), BuiltIn tariff ∧ tariff.kind = kind := by
  by_contra missing
  have other {P : Type} {tariff : Tariff P} (builtIn : BuiltIn tariff) :
      (kind == tariff.kind) = false := by
    rw [beq_eq_false_iff_ne]
    rintro rfl
    exact missing ⟨P, tariff, builtIn, rfl⟩
  have unknown : Registry.builtIn.factory? kind = none := by
    simp only [Registry.factory?, Registry.builtIn, List.lookup_cons, other .flatRate,
      other .perItem, other .itemTotalPercent, other .flexiRate, other .priceSack, other .byWeight,
      List.lookup_nil]
  rw [Registry.build, unknown] at built
  contradiction

end Tariff

/-! Amounts that were accepted. -/

section Accepted

variable {stored : Json.Value}

theorem FlatRate.amount_nonneg {p : Preferences} (accepted : tariff.accept stored = .ok p) :
    0 ≤ p.amount.value :=
  (Tariff.accept_ok.mp accepted).2 ("amount", _) (by simp [tariff])

theorem PerItem.amount_nonneg {p : Preferences} (accepted : tariff.accept stored = .ok p) :
    0 ≤ p.amount.value :=
  (Tariff.accept_ok.mp accepted).2 ("amount", _) (by simp [tariff])

theorem ItemTotalPercent.percent_nonneg {p : Preferences} (accepted : tariff.accept stored = .ok p) :
    0 ≤ p.flatPercent.value :=
  (Tariff.accept_ok.mp accepted).2 ("flat_percent", _) (by simp [tariff])

theorem FlexiRate.prices_nonneg {p : Preferences} (accepted : tariff.accept stored = .ok p) :
    0 ≤ p.firstItem.value ∧ 0 ≤ p.additionalItem.value := by
  have amounts := (Tariff.accept_ok.mp accepted).2
  exact ⟨amounts ("first_item", _) (by simp [tariff]),
    amounts ("additional_item", _) (by simp [tariff])⟩

theorem PriceSack.prices_nonneg {p : Preferences} (accepted : tariff.accept stored = .ok p) :
    0 ≤ p.normalAmount.value ∧ 0 ≤ p.discountAmount.value := by
  have amounts := (Tariff.accept_ok.mp accepted).2
  exact ⟨amounts ("normal_amount", _) (by simp [tariff]),
    amounts ("discount_amount", _) (by simp [tariff])⟩

theorem ByWeight.perUnit_nonneg {p : Preferences} (accepted : tariff.accept stored = .ok p) :
    0 ≤ p.perUnit.value :=
  (Tariff.accept_ok.mp accepted).2 ("per_unit", _) (by simp [tariff])

end Accepted

/-! What the tariffs that charge for what a parcel holds compute, and when they fail. -/

variable {parcel : Parcel} {cost : Decimal} {fault : ComputeFault}

theorem PerItem.compute_ok {p : Preferences} :
    tariff.compute p parcel = .ok (some cost) ↔ cost? p parcel.quantity = some cost :=
  Tariff.map_orOverflow_ok

theorem FlexiRate.compute_ok {p : Preferences} :
    tariff.compute p parcel = .ok (some cost) ↔ cost? p parcel.quantity = some cost :=
  Tariff.map_orOverflow_ok

theorem ItemTotalPercent.compute_ok {p : Preferences} :
    tariff.compute p parcel = .ok (some cost) ↔
      ∃ total, parcel.itemTotal = some total ∧ cost? p total = some cost := by
  simp only [tariff, bind_eq_ok, Tariff.orOverflow_ok]
  constructor
  · rintro ⟨total, found, computed, priced, returned⟩
    cases returned
    exact ⟨total, found, priced⟩
  · rintro ⟨total, found, priced⟩
    exact ⟨total, found, cost, priced, rfl⟩

theorem ItemTotalPercent.compute_error {p : Preferences} :
    tariff.compute p parcel = .error fault ↔
      parcel.itemTotal = none ∧ fault = .overflow .itemTotal ∨
      ∃ total, parcel.itemTotal = some total ∧ cost? p total = none ∧ fault = .overflow .cost := by
  simp only [tariff, bind_eq_error, Tariff.orOverflow_error, Tariff.orOverflow_ok]
  apply or_congr_right
  apply exists_congr
  intro total
  apply and_congr_right
  intro _
  constructor
  · intro either
    rcases either with missing | ⟨_, _, returned⟩
    · exact missing
    · contradiction
  · exact .inl

theorem PriceSack.compute_ok {p : Preferences} :
    tariff.compute p parcel = .ok (some cost) ↔ ∃ total, parcel.itemTotal = some total ∧
      (if total.less p.minimalAmount then p.normalAmount else p.discountAmount) = cost := by
  simp only [tariff, bind_eq_ok, Tariff.orOverflow_ok, pure, Except.pure, Except.ok.injEq,
    Option.some.injEq]

theorem PriceSack.compute_error {p : Preferences} : tariff.compute p parcel = .error fault ↔
    parcel.itemTotal = none ∧ fault = .overflow .itemTotal := by
  simp only [tariff, bind_eq_error, Tariff.orOverflow_error]
  constructor
  · intro either
    rcases either with missing | ⟨_, _, returned⟩
    · exact missing
    · contradiction
  · exact .inl

theorem ByWeight.compute_ok {p : Preferences} :
    tariff.compute p parcel = .ok (some cost) ↔
      ∃ weight, parcel.weight = some weight ∧ weight.mantissa ≠ 0 ∧ cost? p weight = some cost := by
  simp only [tariff, bind_eq_ok, Tariff.orOverflow_ok]
  constructor
  · rintro ⟨weight, found, computed⟩
    split at computed
    · cases computed
    · rename_i heavy
      simp only [bind_eq_ok, Tariff.orOverflow_ok] at computed
      obtain ⟨_, priced, returned⟩ := computed
      cases returned
      exact ⟨weight, found, by simpa [Decimal.isZero] using heavy, priced⟩
  · rintro ⟨weight, found, heavy, priced⟩
    refine ⟨weight, found, ?_⟩
    rw [if_neg (by simpa [Decimal.isZero] using heavy), priced]
    rfl

theorem ByWeight.compute_none {p : Preferences} : tariff.compute p parcel = .ok none ↔
    ∃ weight, parcel.weight = some weight ∧ weight.isZero = true := by
  simp only [tariff, bind_eq_ok, Tariff.orOverflow_ok]
  apply exists_congr
  intro weight
  apply and_congr_right
  intro _
  by_cases nothing : weight.isZero = true
  · simp [nothing, pure, Except.pure]
  · rw [if_neg nothing]
    simp [nothing, bind_eq_ok, pure, Except.pure]

theorem ByWeight.compute_error {p : Preferences} : tariff.compute p parcel = .error fault ↔
    parcel.weight = none ∧ fault = .overflow .weight ∨
    ∃ weight, parcel.weight = some weight ∧ weight.mantissa ≠ 0 ∧ cost? p weight = none ∧
      fault = .overflow .cost := by
  simp only [tariff, bind_eq_error, Tariff.orOverflow_error, Tariff.orOverflow_ok]
  apply or_congr_right
  apply exists_congr
  intro weight
  apply and_congr_right
  intro _
  by_cases nothing : weight.mantissa = 0
  · simp [Decimal.isZero, nothing, pure, Except.pure]
  · rw [if_neg (by simpa [Decimal.isZero] using nothing)]
    simp [nothing, bind_eq_error, Tariff.orOverflow_error, pure, Except.pure]

end Fulfilment
