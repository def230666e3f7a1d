import Fulfilment.Shipping.Method
import Fulfilment.Shipping.TagRule
import Mathlib.Data.List.Basic

/-! Which rule decides whether a customer is shown a method.

The first rule for the customer that names the method goes before every default rule, wherever
the two stand in the list. Nothing else about the presentation matters: not how rules of both
sorts are mixed, not the rules for other customers, and not the order or number of tags. -/
namespace Fulfilment.TagRule

def Shares (tags others : List String) : Prop := ∃ tag ∈ tags, tag ∈ others

instance (tags others : List String) : Decidable (Shares tags others) :=
  inferInstanceAs (Decidable (∃ tag ∈ tags, tag ∈ others))

/-- A rule that is meant for the customer and names the method. -/
structure Addresses (customerTags methodTags : List String) (rule : TagRule) : Prop where
  special : rule.isDefault = false
  customer : Shares rule.customerTags customerTags
  method : Shares rule.methodTags methodTags

/-- A default rule that names the method. -/
structure Defaults (methodTags : List String) (rule : TagRule) : Prop where
  default : rule.isDefault = true
  method : Shares rule.methodTags methodTags

def First (property : TagRule → Prop) (rules : List TagRule) (rule : TagRule) : Prop :=
  ∃ before after, rules = before ++ rule :: after ∧ property rule ∧
    ∀ earlier ∈ before, ¬ property earlier

/-- The rule that decides on a method with the given tags for a customer with the given tags. -/
inductive Decides (rules : List TagRule) (customerTags methodTags : List String)
    (rule : TagRule) : Prop
  | customer (first : First (Addresses customerTags methodTags) rules rule)
  | default (none : ∀ other ∈ rules, ¬ Addresses customerTags methodTags other)
      (first : First (Defaults methodTags) rules rule)

/-- The deciding rule shows the method, or there is none. -/
def Shows (rules : List TagRule) (customerTags methodTags : List String) : Prop :=
  (∀ rule, ¬ Decides rules customerTags methodTags rule) ∨
    ∃ rule, Decides rules customerTags methodTags rule ∧ rule.visibility = .visible

section Deciding

variable {rules : List TagRule} {customerTags methodTags : List String} {rule : TagRule}

theorem share_iff {tags others : List String} : share tags others = true ↔ Shares tags others := by
  simp [share, Shares]

theorem addresses_iff : Addresses customerTags methodTags rule ↔
    (rule.isFor customerTags && rule.names methodTags) = true := by
  simp only [isFor, names, Bool.and_eq_true, Bool.not_eq_true', share_iff]
  exact ⟨fun ⟨special, customer, method⟩ => ⟨⟨special, customer⟩, method⟩,
    fun ⟨⟨special, customer⟩, method⟩ => ⟨special, customer, method⟩⟩

theorem defaults_iff :
    Defaults methodTags rule ↔ (rule.isDefault && rule.names methodTags) = true := by
  simp only [names, Bool.and_eq_true, share_iff]
  exact ⟨fun ⟨default, method⟩ => ⟨default, method⟩, fun ⟨default, method⟩ => ⟨default, method⟩⟩

theorem find?_eq_some_iff_first {property : TagRule → Prop} {test : TagRule → Bool}
    (tests : ∀ other, property other ↔ test other = true) :
    rules.find? test = some rule ↔ First property rules rule := by
  rw [List.find?_eq_some_iff_append]
  simp only [First, tests, Bool.not_eq_true', Bool.not_eq_true]
  constructor
  · rintro ⟨holds, before, after, split, earlier⟩
    exact ⟨before, after, split, holds, earlier⟩
  · rintro ⟨before, after, split, holds, earlier⟩
    exact ⟨holds, before, after, split, earlier⟩

theorem find?_eq_none_iff_forall {property : TagRule → Prop} {test : TagRule → Bool}
    (tests : ∀ other, property other ↔ test other = true) :
    rules.find? test = none ↔ ∀ other ∈ rules, ¬ property other := by
  simp only [List.find?_eq_none, tests]

theorem deciding?_eq (rules : List TagRule) (customerTags methodTags : List String) :
    deciding? rules customerTags methodTags =
      (rules.find? fun rule => rule.isFor customerTags && rule.names methodTags).or
        (rules.find? fun rule => rule.isDefault && rule.names methodTags) := by
  simp only [deciding?, applicable, List.find?_append, List.find?_filter, Bool.decide_and,
    Bool.decide_eq_true]

theorem deciding?_eq_some_iff :
    deciding? rules customerTags methodTags = some rule ↔
      Decides rules customerTags methodTags rule := by
  rw [deciding?_eq, Option.or_eq_some_iff, find?_eq_some_iff_first fun _ => addresses_iff,
    find?_eq_none_iff_forall fun _ => addresses_iff, find?_eq_some_iff_first fun _ => defaults_iff]
  constructor
  · rintro (first | ⟨none, first⟩)
    · exact .customer first
    · exact .default none first
  · rintro (first | ⟨none, first⟩)
    · exact .inl first
    · exact .inr ⟨none, first⟩

theorem hides_eq_false_iff :
    hides rules customerTags methodTags = false ↔ Shows rules customerTags methodTags := by
  simp only [Shows, hides, ← deciding?_eq_some_iff]
  cases deciding? rules customerTags methodTags with
  | none => simp
  | some rule => simp

end Deciding

/-! Other presentations of the same rules, customers and methods. -/

/-- The method with its tags in another order or number. -/
structure Retagged (method other : ShippingMethod) : Prop where
  same : other = { method with tags := other.tags }
  tags : ∀ tag, tag ∈ other.tags ↔ tag ∈ method.tags

/-- The default rules are the same in the same order, and so are the rules for customers with
one of the given tags. How these are mixed, and rules for other customers, do not matter. -/
structure Alike (customerTags : List String) (rules others : List TagRule) : Prop where
  defaults : others.filter (·.isDefault) = rules.filter (·.isDefault)
  customers :
    (others.filter fun rule => rule.isDefault = false ∧ Shares rule.customerTags customerTags) =
      rules.filter fun rule => rule.isDefault = false ∧ Shares rule.customerTags customerTags

section Presentation

variable {rules others : List TagRule} {customerTags otherTags methodTags sameTags : List String}

theorem share_congr {tags first second : List String} (same : ∀ tag, tag ∈ first ↔ tag ∈ second) :
    share tags first = share tags second := by
  rw [Bool.eq_iff_iff]
  simp only [share_iff, Shares, same]

theorem isFor_eq_decide (rule : TagRule) (customerTags : List String) : rule.isFor customerTags =
    decide (rule.isDefault = false ∧ Shares rule.customerTags customerTags) := by
  rw [Bool.eq_iff_iff]
  simp only [isFor, Bool.and_eq_true, Bool.not_eq_true', share_iff, decide_eq_true_eq]

theorem applicable_congr (alike : Alike customerTags rules others)
    (customer : ∀ tag, tag ∈ otherTags ↔ tag ∈ customerTags) :
    applicable others otherTags = applicable rules customerTags := by
  have meant (rule : TagRule) : rule.isFor otherTags = rule.isFor customerTags := by
    rw [isFor, share_congr customer, isFor]
  simp only [applicable, meant, alike.defaults]
  simp only [isFor_eq_decide, alike.customers]

theorem hides_congr (alike : Alike customerTags rules others)
    (customer : ∀ tag, tag ∈ otherTags ↔ tag ∈ customerTags)
    (method : ∀ tag, tag ∈ sameTags ↔ tag ∈ methodTags) :
    hides others otherTags sameTags = hides rules customerTags methodTags := by
  have named (rule : TagRule) : rule.names sameTags = rule.names methodTags := share_congr method
  simp only [hides, deciding?, applicable_congr alike customer, named]

theorem keep_map {α β : Type} (rules : List TagRule) (customerTags : List String)
    (tags : β → List String) (f : α → β) (records : List α) :
    keep rules customerTags tags (records.map f) =
      (keep rules customerTags (tags ∘ f) records).map f := by
  rw [keep, List.filter_map]
  rfl

end Presentation

theorem keep_keep {α : Type} (rules : List TagRule) (customerTags : List String)
    (tags : α → List String) (records : List α) :
    keep rules customerTags tags (keep rules customerTags tags records) =
      keep rules customerTags tags records := by
  simp [keep]

/-- The methods that are kept are those that the deciding rule shows or no rule decides on, in
their order. Rules, customers and methods that are presented in another way keep the same ones. -/
theorem keep_follows_precedence (rules : List TagRule) (customerTags : List String) :
    (∀ methodTags rule, deciding? rules customerTags methodTags = some rule ↔
      Decides rules customerTags methodTags rule) ∧
    (∀ methods : List ShippingMethod,
      (∃ shown : ShippingMethod → Bool,
        keep rules customerTags ShippingMethod.tags methods = methods.filter shown ∧
        ∀ method, shown method = true ↔ Shows rules customerTags method.tags) ∧
      keep rules customerTags ShippingMethod.tags
          (keep rules customerTags ShippingMethod.tags methods) =
        keep rules customerTags ShippingMethod.tags methods) ∧
    ∀ (others : List TagRule) (otherTags : List String)
      (presented : List (ShippingMethod × ShippingMethod)),
      Alike customerTags rules others → (∀ tag, tag ∈ otherTags ↔ tag ∈ customerTags) →
      (∀ pair ∈ presented, Retagged pair.1 pair.2) →
      ∃ kept : List (ShippingMethod × ShippingMethod), kept.Sublist presented ∧
        keep rules customerTags ShippingMethod.tags (presented.map Prod.fst) = kept.map Prod.fst ∧
        keep others otherTags ShippingMethod.tags (presented.map Prod.snd) = kept.map Prod.snd := by
  refine ⟨fun _ _ => deciding?_eq_some_iff, ?shown, ?presented⟩
  case shown =>
    intro methods
    refine ⟨⟨fun method => !hides rules customerTags method.tags, rfl, ?_⟩, keep_keep _ _ _ _⟩
    intro method
    rw [Bool.not_eq_true', hides_eq_false_iff]
  case presented =>
    intro others otherTags presented alike customer retagged
    refine ⟨keep rules customerTags (ShippingMethod.tags ∘ Prod.fst) presented,
      List.filter_sublist, keep_map _ _ _ _ _, ?_⟩
    rw [keep_map]
    congr 1
    apply List.filter_congr
    intro pair member
    have same := hides_congr alike customer (retagged pair member).tags
    simp only [Function.comp_apply, same]

def freight (tags : List String) : ShippingMethod :=
  ⟨1, "freight", .both, false, [], [], tags,
    ⟨"freight", .null, none, fun _ => .ok true, fun _ => .ok none⟩⟩

/-- Hidden from everyone and shown to wholesale customers, whichever rule stands first, and
without the rule for retail customers. -/
theorem bulkFreight_shown_to_wholesale :
    let everyone := forAll ["bulk"] .hidden
    let retail := forCustomers ["retail"] ["bulk"] .hidden
    let wholesale := forCustomers ["wholesale"] ["bulk"] .visible
    let listed := freight ["bulk", "heavy"]
    let relisted := freight ["heavy", "bulk", "bulk"]
    keep [everyone, retail, wholesale] ["wholesale"] ShippingMethod.tags [listed] = [listed] ∧
      keep [wholesale, everyone] ["wholesale", "wholesale"] ShippingMethod.tags [relisted] =
        [relisted] := by
  intro everyone retail wholesale listed relisted
  have alike : Alike ["wholesale"] [everyone, retail, wholesale] [wholesale, everyone] :=
    ⟨by decide, by decide⟩
  have retagged : Retagged listed relisted := ⟨rfl, by simp [listed, relisted, freight, or_comm]⟩
  obtain ⟨kept, inside, first, second⟩ :=
    (keep_follows_precedence [everyone, retail, wholesale] ["wholesale"]).2.2
      [wholesale, everyone] ["wholesale", "wholesale"] [(listed, relisted)] alike (by simp)
      (List.forall_mem_singleton.mpr retagged)
  have shown : keep [everyone, retail, wholesale] ["wholesale"] ShippingMethod.tags [listed] =
      [listed] := rfl
  have both : kept = [(listed, relisted)] := by
    apply inside.eq_of_length
    rw [← List.length_map Prod.fst, ← first]
    rfl
  exact ⟨shown, by rw [both] at second; exact second⟩

end Fulfilment.TagRule
