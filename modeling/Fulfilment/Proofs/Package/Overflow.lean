import Fulfilment.Proofs.Package.Failure
import Fulfilment.Proofs.Package.Totals
import Fulfilment.Proofs.Shipping.Overflow

/-! Pricing with the calculators of the registry.

The totals of a package whose variants have no negative price or weight are not negative, so that
no cost is. What is left to fail is a cost, or a total, as large as the largest decimal; and a
method with a limit is not even asked for a cost where the weight is. -/
namespace Fulfilment

theorem Decimal.sum?_nonneg {terms : List (Option Decimal)} (nonneg : ∀ d, some d ∈ terms → 0 ≤ d.value)
    {total : Decimal} (ok : sum? terms = some total) : 0 ≤ total.value := by
  -- The invariant of the run: the total so far is not negative.
  suffices run : ∀ start : Decimal, 0 ≤ start.value →
      terms.foldlM (fun total term => term.bind total.add?) start = some total →
      0 ≤ total.value from run zero value_zero.ge ok
  clear ok
  induction terms with
  | nil =>
    intro start positive ended
    cases ended
    exact positive
  | cons term rest ih =>
    intro start positive added
    obtain ⟨next, summed, later⟩ := Option.bind_eq_some_iff.mp added
    obtain ⟨d, rfl, sum⟩ := Option.bind_eq_some_iff.mp summed
    have computes := computes_add? positive (nonneg d List.mem_cons_self)
    exact ih (fun d inside => nonneg d (List.mem_cons_of_mem _ inside)) next
      (computes.nonneg next sum) later

theorem Content.total?_nonneg {amount : Variant → Decimal} {contents : List Content}
    (nonneg : ∀ content ∈ contents, 0 ≤ (amount content.variant).value) {total : Decimal}
    (ok : total? amount contents = some total) : 0 ≤ total.value := by
  apply Decimal.sum?_nonneg _ ok
  intro d inside
  obtain ⟨content, member, product⟩ := List.mem_map.mp inside
  have units : 0 ≤ (Decimal.ofUnits content.quantity).value := Decimal.value_nonneg rfl
  exact (Decimal.computes_mul? (nonneg content member) units).nonneg d product

namespace Package

variable {package : Package}

theorem parcel_nonneg (nonneg : ∀ content ∈ package.contents,
    0 ≤ content.variant.price.value ∧ 0 ≤ content.variant.weight.value) : package.parcel.Nonneg where
  weight weight found := by
    rw [parcel, weight?_eq] at found
    exact Content.total?_nonneg (fun content member => (nonneg content member).2) found
  itemTotal total found := by
    rw [parcel, itemTotal?_eq] at found
    exact Content.total?_nonneg (fun content member => (nonneg content member).1) found

/-- A method of the registry fails for a package because it is eligible and an amount overflows,
which the weight does not where it is limited. -/
structure Overloads (package : Package) (applyTags : Bool) (method : ShippingMethod)
    (amount : Amount) : Prop extends package.Eligible applyTags method where
  overflows : method.calculator.Overflows package.parcel amount
  unlimited : amount = .weight → ∃ p : ByWeight.Preferences,
    method.calculator = ByWeight.tariff.calculator p ∧ p.maxWeight = none

theorem overloads_of_overflows {applyTags : Bool} {method : ShippingMethod} {amount : Amount}
    (eligible : package.Eligible applyTags method)
    (overflows : method.calculator.Overflows package.parcel amount) :
    package.Overloads applyTags method amount := by
  refine ⟨eligible, overflows, ?_⟩
  have available := eligible.available
  rintro rfl
  generalize method.calculator = calculator at overflows available
  cases overflows with
  | @weight p missing =>
    refine ⟨p, rfl, ?_⟩
    cases limited : p.maxWeight with
    | none => rfl
    | some limit =>
      obtain ⟨weight, weighed, _⟩ := (ByWeight.available_limited limited).mp available
      rw [missing] at weighed
      contradiction

section Built

variable (built : ∀ method ∈ package.order.distributor.methods,
    ∃ kind stored, Registry.builtIn.build kind stored = .ok method.calculator)
  (nonneg : ∀ content ∈ package.contents,
    0 ≤ content.variant.price.value ∧ 0 ≤ content.variant.weight.value)

include built

theorem not_refuses {applyTags : Bool} {method : ShippingMethod}
    (member : method ∈ package.order.distributor.methods) (refusal : CalculatorError) :
    ¬ package.Refuses applyTags method refusal := by
  intro refuses
  obtain ⟨kind, stored, made⟩ := built method member
  obtain ⟨answer, answered⟩ := Calculator.available_ok made package.parcel
  cases refuses.2.symm.trans answered

include nonneg

theorem miscalculates_by_overflow {applyTags : Bool} {method : ShippingMethod}
    (member : method ∈ package.order.distributor.methods) {error : CalculatorError}
    (fails : package.Miscalculates applyTags method error) :
    ∃ amount, error = .computeFailed method.calculator.kind (.overflow amount) ∧
      package.Overloads applyTags method amount := by
  obtain ⟨kind, stored, made⟩ := built method member
  obtain ⟨eligible, failure⟩ := fails
  cases failure with
  | compute failed =>
    obtain ⟨amount, rfl, overflows⟩ := Calculator.compute_error made (parcel_nonneg nonneg) failed
    exact ⟨amount, rfl, overloads_of_overflows eligible overflows⟩
  | negative computed below =>
    have positive := Calculator.cost_nonneg made (parcel_nonneg nonneg) computed
    rw [← Decimal.value_zero, ← Decimal.atoms_le_iff, Decimal.atoms_zero] at positive
    omega

/-- With calculators of the registry and no negative price or weight, pricing fails only with an
overflow of a method other than a flat rate, never with a negative cost. A limited weight is seen
wherever a cost is computed from it. -/
theorem quote_fails_only_by_overflow (checkout applyTags : Bool) :
    (∀ kind cost name, package.quote checkout applyTags ≠
      .error (.computeFailed kind (.negativeCost cost name))) ∧
    (∀ error, package.quote checkout applyTags = .error error →
      ∃ method ∈ package.order.distributor.methods, ∃ amount,
        error = .computeFailed method.calculator.kind (.overflow amount) ∧
        method.calculator.kind ≠ "flat_rate" ∧ package.Overloads applyTags method amount) ∧
    ∀ p limit, p.maxWeight = some limit →
      let calculator := ByWeight.tariff.calculator p
      (package.weight? = none → calculator.available package.parcel = .ok false) ∧
      (calculator.available package.parcel = .ok true →
        ∃ weight, package.weight? = some weight ∧ weight.value ≤ limit.value ∧
          (calculator.compute package.parcel = .ok none ↔ weight.isZero = true) ∧
          ∀ error, calculator.compute package.parcel = .error error →
            error = .computeFailed "weight" (.overflow .cost)) := by
  have failing : ∀ error, package.quote checkout applyTags = .error error →
      ∃ method ∈ package.order.distributor.methods, ∃ amount,
        error = .computeFailed method.calculator.kind (.overflow amount) ∧
        package.Overloads applyTags method amount := by
    intro error failed
    rcases (quote_error package checkout applyTags error).mp failed with refusal | ⟨_, costs⟩
    · obtain ⟨_, method, _, split, refuses, _⟩ := refusal
      exact absurd refuses (not_refuses built (by simp [split]) error)
    · obtain ⟨_, method, _, split, fails, _⟩ := costs
      have member : method ∈ package.order.distributor.methods := by simp [split]
      exact ⟨method, member, miscalculates_by_overflow built nonneg member fails⟩
  refine ⟨?negative, ?overflow, ?limited⟩
  case negative =>
    intro kind cost name failed
    obtain ⟨_, _, _, same, _⟩ := failing _ failed
    cases same
  case overflow =>
    intro error failed
    obtain ⟨method, member, amount, same, overloads⟩ := failing error failed
    exact ⟨method, member, amount, same, overloads.overflows.kind_ne, overloads⟩
  case limited =>
    intro p limit limited calculator
    constructor
    · intro missing
      obtain ⟨answer, answered⟩ : ∃ answer, calculator.available package.parcel = .ok answer := ⟨_, rfl⟩
      cases answer with
      | false => exact answered
      | true =>
        obtain ⟨weight, weighed, _⟩ := (ByWeight.available_limited limited).mp answered
        cases missing.symm.trans weighed
    · intro available
      obtain ⟨weight, weighed, within⟩ := (ByWeight.available_limited limited).mp available
      refine ⟨weight, weighed, within, ?_, ?_⟩
      · rw [Tariff.compute_ok, ByWeight.compute_none]
        constructor
        · intro declined
          obtain ⟨_, found, nothing⟩ := declined
          cases found.symm.trans weighed
          exact nothing
        · intro nothing
          exact ⟨weight, weighed, nothing⟩
      · intro error failed
        obtain ⟨fault, faulty, rfl⟩ := Tariff.compute_error.mp failed
        rcases ByWeight.compute_error.mp faulty with ⟨missing, _⟩ | ⟨_, _, _, _, rfl⟩
        · cases missing.symm.trans weighed
        · rfl

end Built

def freight (id : ShippingMethodId) (p : ByWeight.Preferences) : ShippingMethod :=
  ⟨id, "freight", .both, false, [], [0], [], ByWeight.tariff.calculator p⟩

/-- Two units, each as heavy as a decimal can say, with a method up to a ton and one without a
limit. -/
def anvils : Package :=
  let methods := [freight 1 ⟨.ofDigits 5 1, some (.ofDigits 1000 0), none⟩,
    freight 2 ⟨.ofDigits 5 1, none, none⟩]
  { order := ⟨0, ⟨0, "hub", methods, []⟩, none, none, [], []⟩
    location := ⟨0, "shed", true, []⟩
    currency := .usd
    contents := [⟨⟨0, "anvil", .ofDigits 79228162514264337593543950335 0, .ofDigits 1999 2, 0⟩, 2,
      .onHand⟩]
    rates := [] }

theorem anvils_overflow :
    anvils.quote true true = .error (.computeFailed "weight" (.overflow .weight)) ∧
      ∃ method ∈ anvils.order.distributor.methods, anvils.Overloads true method .weight := by
  have built : ∀ method ∈ anvils.order.distributor.methods,
      ∃ kind stored, Registry.builtIn.build kind stored = .ok method.calculator := by
    intro method member
    rcases List.mem_pair.mp member with rfl | rfl
    · exact ⟨"weight", .object [("max_weight", .integer 1000), ("per_unit", .string "0.5")], rfl⟩
    · exact ⟨"weight", .object [("per_unit", .string "0.5")], rfl⟩
  have nonneg : ∀ content ∈ anvils.contents,
      0 ≤ content.variant.price.value ∧ 0 ≤ content.variant.weight.value := by
    intro content member
    obtain rfl := List.mem_singleton.mp member
    exact ⟨Decimal.value_nonneg rfl, Decimal.value_nonneg rfl⟩
  have failed : anvils.quote true true = .error (.computeFailed "weight" (.overflow .weight)) := rfl
  obtain ⟨method, member, amount, same, _, overloads⟩ :=
    (quote_fails_only_by_overflow built nonneg true true).2.1 _ failed
  obtain ⟨_, rfl⟩ : "weight" = method.calculator.kind ∧ .weight = amount := by simpa using same
  exact ⟨failed, method, member, overloads⟩

end Package
end Fulfilment
