import Fulfilment.Proofs.Package.Reconcile

/-! Reconciling packages again.

What reconciling leaves agrees with the order: no variant is held beyond its request, and nothing
is empty. Packages that agree with an order, and no others, are left as they are. -/
namespace Fulfilment

theorem Allotment.parts_of_enough {need : Nat} {offers : List Nat} (enough : offers.sum ≤ need) :
    parts need offers = offers := by
  induction offers generalizing need with
  | nil => rfl
  | cons offer rest ih =>
    rw [List.sum_cons] at enough
    rw [parts, ih (by omega), Nat.min_eq_left (by omega)]

theorem Content.ext_count {first second : Content}
    (same : (first.variant, first.state, first.quantity.count) =
      (second.variant, second.state, second.quantity.count)) : first = second := by
  obtain ⟨variant, quantity, state⟩ := first
  obtain ⟨_, other, _⟩ := second
  obtain ⟨rfl, rfl, count⟩ : variant = _ ∧ state = _ ∧ quantity.count = other.count := by
    simpa using same
  rw [Units.ext_count count]

theorem Shortfall.ext_amount {first second : Shortfall} (same : first.amount = second.amount) :
    first = second := by
  obtain ⟨variant, quantity⟩ := first
  obtain ⟨_, other⟩ := second
  obtain ⟨rfl, count⟩ : variant = _ ∧ quantity.count = other.count := by
    simpa [amount] using same
  rw [Units.ext_count count]

namespace Package

theorem SameItems.eq_of_units {before after : Package} (same : SameItems before after)
    (single : before.Single)
    (units : ∀ variant state, after.units variant state = before.units variant state) :
    after = before := by
  have counted : ∀ content ∈ before.contents,
      after.units content.variant.id content.state = content.quantity.count :=
    fun content member => (units _ _).trans (Content.tally_of_mem single member)
  have requantified := same.requantified single (fun content => content.quantity.count) counted
  have contents : after.contents = before.contents :=
    List.map_injective_iff.mpr (fun _ _ => Content.ext_count) requantified.contents
  calc after = ⟨after.order, after.location, after.currency, after.contents, after.rates⟩ := rfl
    _ = before := by rw [same.order, same.location, same.currency, contents, same.rates]

theorem eq_of_sameItems {packages kept : List Package}
    (items : List.Forall₂ SameItems packages kept) (single : ∀ package ∈ packages, package.Single)
    (units : ∀ variant state, kept.map (units variant state) = packages.map (units variant state)) :
    kept = packages := by
  induction items with
  | nil => rfl
  | @cons before after rest others head _ ih =>
    have here variant state : after.units variant state = before.units variant state :=
      (List.cons.inj (units variant state)).1
    have there variant state : others.map (Package.units variant state) =
        rest.map (Package.units variant state) := (List.cons.inj (units variant state)).2
    rw [head.eq_of_units (single before List.mem_cons_self) here,
      ih (fun package member => single package (List.mem_cons_of_mem _ member)) there]

theorem removeEmpty_of_positive {package : Package}
    (positive : ∀ content ∈ package.contents, 0 < content.quantity.count) :
    package.removeEmpty = package := by
  have kept : (package.contents.filter fun content => 0 < content.quantity.count) =
      package.contents := List.filter_eq_self.mpr fun content member => by
    simpa using positive content member
  rw [removeEmpty, kept]

end Package

namespace Reconciliation

/-- Packages that hold no more of what is requested than is requested, and nothing empty. -/
structure Agree (requests : List Request) (packages : List Package) : Prop where
  within : ∀ request ∈ requests,
    (Package.offers request.variant.id packages).sum ≤ request.quantity.count
  positive : ∀ package ∈ packages, ∀ content ∈ package.contents, 0 < content.quantity.count
  filled : ∀ package ∈ packages, package.contents ≠ []

theorem sum_offers_prune (variant : VariantId) (packages : List Package) :
    (Package.offers variant (prune packages)).sum = (Package.offers variant packages).sum := by
  simp only [Package.offers, List.sum_append, sum_units_prune]

theorem Settles.sum_offers {requests : List Request} {before after : Reconciliation}
    (settles : Settles requests before after) {request : Request} (member : request ∈ requests) :
    (Package.offers request.variant.id after.packages).sum =
      min (Package.offers request.variant.id before.packages).sum request.quantity.count := by
  rw [settles.allotted request member, Allotment.parts_sum]

theorem Settles.agree_prune {requests : List Request} {before after : Reconciliation}
    (settles : Settles requests before after) : Agree requests (prune after.packages) := by
  have removed : ∀ package ∈ prune after.packages, ∃ full : Package, full.removeEmpty = package ∧
      full.removeEmpty.isEmpty = false := by
    intro package member
    obtain ⟨inside, holding⟩ := List.mem_filter.mp member
    obtain ⟨full, _, rfl⟩ := List.mem_map.mp inside
    exact ⟨full, rfl, by simpa using holding⟩
  refine ⟨?_, ?_, ?_⟩
  · intro request member
    rw [sum_offers_prune, settles.sum_offers member]
    exact Nat.min_le_right _ _
  · intro package member
    obtain ⟨full, rfl, _⟩ := removed package member
    exact full.positive_removeEmpty
  · intro package member bare
    obtain ⟨full, rfl, holding⟩ := removed package member
    rw [Package.isEmpty, bare] at holding
    contradiction

theorem Agree.prune_eq {requests : List Request} {packages : List Package}
    (agree : Agree requests packages) : prune packages = packages := by
  have holding : (packages.filter fun package => !package.isEmpty) = packages := by
    rw [List.filter_eq_self]
    intro package member
    rw [Package.isEmpty_eq_of_positive (agree.positive package member)]
    simpa using agree.filled package member
  calc prune packages = packages.map Package.removeEmpty := by rw [Reconciliation.prune_eq, holding]
    _ = packages.map id := List.map_congr_left fun package member =>
        Package.removeEmpty_of_positive (agree.positive package member)
    _ = packages := List.map_id packages

/-- Settling leaves packages alone that hold no more than is requested. -/
theorem Settles.packages_eq {requests : List Request} {before after : Reconciliation}
    (settles : Settles requests before after) (single : ∀ package ∈ before.packages, package.Single)
    (agree : Agree requests before.packages) : after.packages = before.packages := by
  have offers (variant : VariantId) :
      Package.offers variant after.packages = Package.offers variant before.packages := by
    by_cases requested : ∃ request ∈ requests, request.variant.id = variant
    · obtain ⟨request, member, rfl⟩ := requested
      rw [settles.allotted request member, Allotment.parts_of_enough (agree.within request member)]
    · exact settles.others variant fun request member same => requested ⟨request, member, same⟩
  apply Package.eq_of_sameItems settles.items single
  intro variant state
  obtain ⟨onHand, backordered⟩ :=
    List.append_inj (offers variant) (by simp [settles.items.length_eq])
  cases state with
  | onHand => exact onHand
  | backordered => exact backordered

theorem single_prune {packages : List Package} (single : ∀ package ∈ packages, package.Single) :
    ∀ package ∈ prune packages, package.Single := by
  intro package member
  obtain ⟨full, inside, rfl⟩ := List.mem_map.mp (List.mem_of_mem_filter member)
  exact Content.Single.sublist (single full inside) List.filter_sublist

section Again

variable (order : Order) (packages : List Package) (single : ∀ package ∈ packages, package.Single)

include single

theorem ofPackages_agree : Agree order.requests (ofPackages order.requests packages).packages := by
  obtain ⟨settled, settles, result⟩ := exists_settled order packages single
  rw [result]
  exact settles.agree_prune

theorem ofPackages_single :
    ∀ package ∈ (ofPackages order.requests packages).packages, package.Single := by
  obtain ⟨settled, settles, result⟩ := exists_settled order packages single
  rw [result]
  exact single_prune (Package.single_of_sameItems settles.items single)

theorem ofPackages_of_agree (agree : Agree order.requests packages) :
    (ofPackages order.requests packages).packages = packages := by
  obtain ⟨settled, settles, result⟩ := exists_settled order packages single
  rw [result, settles.packages_eq single agree]
  exact agree.prune_eq

theorem ofPackages_amounts : (ofPackages order.requests packages).shortfalls.map Shortfall.amount =
    openAmounts order.requests packages := by
  obtain ⟨settled, settles, result⟩ := exists_settled order packages single
  rw [result]
  exact settles.shortfalls

theorem openAmounts_ofPackages :
    openAmounts order.requests (ofPackages order.requests packages).packages =
      openAmounts order.requests packages := by
  obtain ⟨settled, settles, result⟩ := exists_settled order packages single
  rw [result]
  apply openAmounts_congr
  intro request member
  rw [sum_offers_prune, settles.sum_offers member, Nat.min_assoc, Nat.min_self]

/-- Reconciling again what was reconciled changes neither the packages nor what is reported as
missing. The packages that it leaves alone are exactly those that agree with the order. -/
theorem ofPackages_again :
    ofPackages order.requests (ofPackages order.requests packages).packages =
        ofPackages order.requests packages ∧
      Agree order.requests (ofPackages order.requests packages).packages ∧
      ((ofPackages order.requests packages).packages = packages ↔ Agree order.requests packages) := by
  have agree := ofPackages_agree order packages single
  have kept := ofPackages_single order packages single
  refine ⟨?_, agree, ?_, ofPackages_of_agree order packages single⟩
  · have amounts := (ofPackages_amounts order _ kept).trans
      ((openAmounts_ofPackages order packages single).trans
        (ofPackages_amounts order packages single).symm)
    have shortfalls := List.map_injective_iff.mpr (fun _ _ => Shortfall.ext_amount) amounts
    have same := ofPackages_of_agree order _ kept agree
    calc ofPackages order.requests (ofPackages order.requests packages).packages
        = ⟨(ofPackages order.requests (ofPackages order.requests packages).packages).packages,
            (ofPackages order.requests (ofPackages order.requests packages).packages).shortfalls⟩ :=
          rfl
      _ = ofPackages order.requests packages := by rw [same, shortfalls]
  · intro same
    rw [← same]
    exact agree

end Again

def lampsAndRugs : Order := .ofLines [.counted lamp 5, .counted rug 3]

/-- Two sheds with more lamps than are ordered and fewer rugs. -/
def twoMixedSheds : List Package := twoSheds.map fun package => { package with order := lampsAndRugs }

theorem twoMixedSheds_again : (∀ package ∈ twoMixedSheds, package.Single) ∧
    ofPackages lampsAndRugs.requests (ofPackages lampsAndRugs.requests twoMixedSheds).packages =
      ofPackages lampsAndRugs.requests twoMixedSheds ∧
    Agree lampsAndRugs.requests (ofPackages lampsAndRugs.requests twoMixedSheds).packages ∧
    ((ofPackages lampsAndRugs.requests twoMixedSheds).packages = twoMixedSheds ↔
      Agree lampsAndRugs.requests twoMixedSheds) :=
  ⟨by decide, ofPackages_again lampsAndRugs twoMixedSheds (by decide)⟩

end Reconciliation
end Fulfilment
