import Fulfilment.Proofs.Shipping.Arithmetic

/-! Why a calculator of the registry can fail.

It has no cost where an amount is as large as the largest decimal, and for no other reason. No
cost is negative, as neither the preferences nor the totals of a parcel are. -/
namespace Fulfilment

/-- At least the largest decimal. -/
def Roomless (x : ℚ) : Prop := (Decimal.mantissaLimit : ℚ) ≤ x + 1

theorem Roomless.mono {x y : ℚ} (large : Roomless x) (le : x ≤ y) : Roomless y :=
  le_trans large (add_le_add_left le 1)

theorem Computes.roomless {x : ℚ} (computes : Computes x none) : Roomless x := by
  by_contra room
  have most : ((Decimal.mantissaLimit - 1 : Nat) : ℚ) * 10 ^ 0 = (Decimal.mantissaLimit - 1 : Nat) := by
    rw [pow_zero, mul_one]
  have below : x ≤ (Decimal.mantissaLimit - 1 : Nat) := by
    rw [Roomless, not_le] at room
    push_cast [Decimal.mantissaLimit] at room ⊢
    linarith
  obtain ⟨d, found⟩ := computes.succeeds _ _ below (.of_digits most (by decide) (by decide))
  contradiction

theorem Decimal.roomless_of_mul? {a b : Decimal} (first : 0 ≤ a.value) (second : 0 ≤ b.value)
    (missing : a.mul? b = none) : Roomless (a.value * b.value) := by
  have computes := computes_mul? first second
  rw [missing] at computes
  exact computes.roomless

theorem Decimal.roomless_of_ofNat? {n : Nat} (missing : ofNat? n = none) : Roomless n := by
  have computes := computes_ofNat? n
  rw [missing] at computes
  exact computes.roomless

namespace Fitted

variable {x result : ℚ}

theorem nonneg (fitted : Fitted x result) : 0 ≤ result := by
  obtain ⟨places, mantissa, _, _, _, rfl, _⟩ := fitted
  positivity

/-- Rounding adds at most half a unit. -/
theorem le_add_half (fitted : Fitted x result) : result ≤ x + 1 / 2 := by
  obtain ⟨places, mantissa, _, _, nearest, rfl, _⟩ := fitted
  have near := (abs_le.mp nearest.near).1
  rw [Int.cast_natCast] at near
  have wide : (1 : ℚ) ≤ 10 ^ places := one_le_pow₀ (by norm_num)
  rw [div_le_iff₀ (by positivity), add_mul]
  linarith

end Fitted

theorem Decimal.roundCents_nonneg {d : Decimal} (nonneg : 0 ≤ d.value) : 0 ≤ d.roundCents.value := by
  have above := roundCents_mono (value_zero.trans_le nonneg)
  have least : zero.roundCents = zero := rfl
  rwa [least, value_zero] at above

theorem Decimal.hundredth_nonneg {d : Decimal} (nonneg : 0 ≤ d.value) : 0 ≤ d.hundredth.value := by
  have above := hundredth_mono (value_zero.trans_le nonneg)
  have least : zero.hundredth = zero := rfl
  rwa [least, value_zero] at above

structure Parcel.Nonneg (parcel : Parcel) : Prop where
  weight : ∀ weight, parcel.weight = some weight → 0 ≤ weight.value
  itemTotal : ∀ total, parcel.itemTotal = some total → 0 ≤ total.value

/-- An amount that is too large for a calculator to compute a cost for a parcel. -/
inductive Calculator.Overflows (parcel : Parcel) : Calculator → Amount → Prop
  | perItem {p : PerItem.Preferences}
      (large : Roomless parcel.quantity ∨ Roomless (p.amount.value * parcel.quantity)) :
      Overflows parcel (PerItem.tariff.calculator p) .cost
  /-- The price of further units is rounded before that of the first is added. -/
  | flexiRate {p : FlexiRate.Preferences}
      (large : Roomless parcel.quantity ∨ Roomless (FlexiRate.total p parcel.quantity + 1 / 2)) :
      Overflows parcel (FlexiRate.tariff.calculator p) .cost
  | itemTotal {p : ItemTotalPercent.Preferences} (missing : parcel.itemTotal = none) :
      Overflows parcel (ItemTotalPercent.tariff.calculator p) .itemTotal
  | percent {p : ItemTotalPercent.Preferences} {total : Decimal}
      (summed : parcel.itemTotal = some total) (large : Roomless (total.value * p.flatPercent.value)) :
      Overflows parcel (ItemTotalPercent.tariff.calculator p) .cost
  | threshold {p : PriceSack.Preferences} (missing : parcel.itemTotal = none) :
      Overflows parcel (PriceSack.tariff.calculator p) .itemTotal
  | weight {p : ByWeight.Preferences} (missing : parcel.weight = none) :
      Overflows parcel (ByWeight.tariff.calculator p) .weight
  | byWeight {p : ByWeight.Preferences} {weight : Decimal} (weighed : parcel.weight = some weight)
      (large : Roomless (weight.value * p.perUnit.value)) :
      Overflows parcel (ByWeight.tariff.calculator p) .cost

theorem Calculator.Overflows.kind_ne {parcel : Parcel} {calculator : Calculator} {amount : Amount}
    (overflows : calculator.Overflows parcel amount) : calculator.kind ≠ "flat_rate" := by
  cases overflows <;> simp [Tariff.calculator, PerItem.tariff, FlexiRate.tariff,
    ItemTotalPercent.tariff, PriceSack.tariff, ByWeight.tariff]

section Failures

variable {parcel : Parcel} {fault : ComputeFault}

theorem PerItem.roomless {p : Preferences} (nonneg : 0 ≤ p.amount.value) {quantity : Nat}
    (missing : cost? p quantity = none) :
    Roomless quantity ∨ Roomless (p.amount.value * quantity) := by
  cases counted : Decimal.ofNat? quantity with
  | none => exact .inl (Decimal.roomless_of_ofNat? counted)
  | some factor =>
    right
    have times := Decimal.value_of_ofNat? counted
    rw [cost?, counted, Option.bind_some] at missing
    rw [← times]
    exact Decimal.roomless_of_mul? nonneg (times.symm ▸ Nat.cast_nonneg quantity) missing

theorem FlexiRate.roomless {p : Preferences} (first : 0 ≤ p.firstItem.value)
    (additional : 0 ≤ p.additionalItem.value) {quantity : Nat} (missing : cost? p quantity = none) :
    Roomless quantity ∨ Roomless (total p quantity + 1 / 2) := by
  cases quantity with
  | zero =>
    rw [cost?_of_charged_zero (charged_zero p)] at missing
    contradiction
  | succ more =>
    obtain ⟨further, units⟩ := Nat.exists_eq_succ_of_ne_zero (charged_pos p more).ne'
    have le := charged_le p (more + 1)
    rw [cost?_of_charged_succ units, price?] at missing
    rw [total_succ, units, Nat.succ_sub_one]
    cases counted : Decimal.ofNat? further with
    | none =>
      left
      have fewer : further ≤ more + 1 := by omega
      exact (Decimal.roomless_of_ofNat? counted).mono (by exact_mod_cast fewer)
    | some factor =>
      right
      have times := Decimal.value_of_ofNat? counted
      have product := Decimal.computes_mul? additional (times.symm ▸ Nat.cast_nonneg further)
      rw [counted, Option.bind_some] at missing
      rw [times, mul_comm] at product
      cases multiplied : p.additionalItem.mul? factor with
      | none =>
        rw [multiplied] at product
        exact product.roomless.mono (by linarith)
      | some extra =>
        have rounded := (product.fitted extra multiplied).le_add_half
        have sum := Decimal.computes_add? (product.nonneg extra multiplied) first
        rw [multiplied, Option.bind_some] at missing
        rw [missing] at sum
        exact sum.roomless.mono (by linarith)

theorem FlexiRate.cost?_nonneg {p : Preferences} (first : 0 ≤ p.firstItem.value)
    (additional : 0 ≤ p.additionalItem.value) {quantity : Nat} {cost : Decimal}
    (ok : cost? p quantity = some cost) : 0 ≤ cost.value := by
  cases units : charged p quantity with
  | zero =>
    rw [cost?_of_charged_zero units] at ok
    cases ok
    exact Decimal.value_zero.ge
  | succ further =>
    rw [cost?_of_charged_succ units] at ok
    obtain ⟨_, _, added⟩ := price?_fitted first additional ok
    exact added.nonneg

namespace Tariff.BuiltIn

variable {P : Type} {tariff : Tariff P} {p : P} {stored : Json.Value}

theorem compute_error (builtIn : tariff.BuiltIn) (accepted : tariff.accept stored = .ok p)
    (nonneg : parcel.Nonneg) (failed : tariff.compute p parcel = .error fault) :
    ∃ amount, fault = .overflow amount ∧ (tariff.calculator p).Overflows parcel amount := by
  cases builtIn with
  | flatRate => contradiction
  | perItem =>
    obtain ⟨missing, rfl⟩ := map_orOverflow_error.mp failed
    exact ⟨_, rfl, .perItem (PerItem.roomless (PerItem.amount_nonneg accepted) missing)⟩
  | itemTotalPercent =>
    rcases ItemTotalPercent.compute_error.mp failed with ⟨missing, rfl⟩ | ⟨total, summed, missing, rfl⟩
    · exact ⟨_, rfl, .itemTotal missing⟩
    · have large := Decimal.roomless_of_mul? (nonneg.itemTotal total summed)
        (ItemTotalPercent.percent_nonneg accepted) (Option.map_eq_none_iff.mp missing)
      exact ⟨_, rfl, .percent summed large⟩
  | flexiRate =>
    obtain ⟨missing, rfl⟩ := map_orOverflow_error.mp failed
    obtain ⟨first, additional⟩ := FlexiRate.prices_nonneg accepted
    exact ⟨_, rfl, .flexiRate (FlexiRate.roomless first additional missing)⟩
  | priceSack =>
    obtain ⟨missing, rfl⟩ := PriceSack.compute_error.mp failed
    exact ⟨_, rfl, .threshold missing⟩
  | byWeight =>
    rcases ByWeight.compute_error.mp failed with ⟨missing, rfl⟩ | ⟨weight, weighed, _, missing, rfl⟩
    · exact ⟨_, rfl, .weight missing⟩
    · have large := Decimal.roomless_of_mul? (nonneg.weight weight weighed)
        (ByWeight.perUnit_nonneg accepted) (Option.map_eq_none_iff.mp missing)
      exact ⟨_, rfl, .byWeight weighed large⟩

theorem cost_nonneg (builtIn : tariff.BuiltIn) (accepted : tariff.accept stored = .ok p)
    (nonneg : parcel.Nonneg) {cost : Decimal} (computed : tariff.compute p parcel = .ok (some cost)) :
    0 ≤ cost.value := by
  cases builtIn with
  | flatRate =>
    cases computed
    exact FlatRate.amount_nonneg accepted
  | perItem =>
    have amount := PerItem.amount_nonneg accepted
    exact (PerItem.cost?_fitted amount (PerItem.compute_ok.mp computed)).nonneg
  | itemTotalPercent =>
    obtain ⟨total, summed, priced⟩ := ItemTotalPercent.compute_ok.mp computed
    obtain ⟨product, multiplied, rfl⟩ := Option.map_eq_some_iff.mp priced
    have computes := Decimal.computes_mul? (nonneg.itemTotal total summed)
      (ItemTotalPercent.percent_nonneg accepted)
    exact Decimal.roundCents_nonneg (Decimal.hundredth_nonneg (computes.nonneg product multiplied))
  | flexiRate =>
    obtain ⟨first, additional⟩ := FlexiRate.prices_nonneg accepted
    exact FlexiRate.cost?_nonneg first additional (FlexiRate.compute_ok.mp computed)
  | priceSack =>
    obtain ⟨total, _, chosen⟩ := PriceSack.compute_ok.mp computed
    obtain ⟨normal, discount⟩ := PriceSack.prices_nonneg accepted
    subst chosen
    split
    · exact normal
    · exact discount
  | byWeight =>
    obtain ⟨weight, weighed, _, priced⟩ := ByWeight.compute_ok.mp computed
    obtain ⟨product, multiplied, rfl⟩ := Option.map_eq_some_iff.mp priced
    have computes := Decimal.computes_mul? (nonneg.weight weight weighed)
      (ByWeight.perUnit_nonneg accepted)
    exact Decimal.roundCents_nonneg (computes.nonneg product multiplied)

end Tariff.BuiltIn

namespace Calculator

variable {kind : String} {stored : Json.Value} {calculator : Calculator}

theorem available_ok (built : Registry.builtIn.build kind stored = .ok calculator) (parcel : Parcel) :
    ∃ answer, calculator.available parcel = .ok answer := by
  obtain ⟨P, tariff, builtIn, rfl⟩ := Tariff.exists_builtIn built
  obtain ⟨p, _, rfl⟩ := (Tariff.built_ok builtIn).mp built
  exact ⟨_, rfl⟩

theorem compute_error (built : Registry.builtIn.build kind stored = .ok calculator)
    (nonneg : parcel.Nonneg) {error : CalculatorError} (failed : calculator.compute parcel = .error error) :
    ∃ amount, error = .computeFailed calculator.kind (.overflow amount) ∧
      calculator.Overflows parcel amount := by
  obtain ⟨P, tariff, builtIn, rfl⟩ := Tariff.exists_builtIn built
  obtain ⟨p, accepted, rfl⟩ := (Tariff.built_ok builtIn).mp built
  obtain ⟨fault, faulty, rfl⟩ := Tariff.compute_error.mp failed
  obtain ⟨amount, rfl, overflows⟩ := builtIn.compute_error accepted nonneg faulty
  exact ⟨amount, rfl, overflows⟩

theorem cost_nonneg (built : Registry.builtIn.build kind stored = .ok calculator)
    (nonneg : parcel.Nonneg) {cost : Decimal} (computed : calculator.compute parcel = .ok (some cost)) :
    0 ≤ cost.value := by
  obtain ⟨P, tariff, builtIn, rfl⟩ := Tariff.exists_builtIn built
  obtain ⟨p, accepted, rfl⟩ := (Tariff.built_ok builtIn).mp built
  exact builtIn.cost_nonneg accepted nonneg (Tariff.compute_ok.mp computed)

end Calculator

theorem ByWeight.available_limited {p : Preferences} {limit : Decimal}
    (limited : p.maxWeight = some limit) : (tariff.calculator p).available parcel = .ok true ↔
      ∃ weight, parcel.weight = some weight ∧ weight.value ≤ limit.value := by
  simp only [Tariff.calculator, tariff, carries, limited, Option.all_some, Except.ok.injEq,
    Option.any_eq_true, Decimal.atMost, decide_eq_true_eq, Decimal.atoms_le_iff]

end Failures

end Fulfilment
