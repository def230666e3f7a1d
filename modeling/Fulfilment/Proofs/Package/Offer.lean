import Fulfilment.Package.Offer
import Fulfilment.Proofs.Order.Requests
import Fulfilment.Proofs.Package.Contents

/-! What one stock location offers for an order.

For each request in turn the location offers what its record of the variant, seen through
the override of the distributor, can send and then what it can promise. -/
namespace Fulfilment

namespace StockItem

def promisable (item : StockItem) (quantity : Units) : Nat :=
  if item.backorderable then quantity.count - min quantity.count item.available else 0

theorem fill_backordered_count (item : StockItem) (quantity : Units) :
    (item.fill quantity).backordered.count = item.promisable quantity := by
  rw [promisable, ← fill_onHand_count, fill]
  split <;> rfl

end StockItem

theorem StockOverrides.find?_eq (overrides : StockOverrides) (distributor : DistributorId)
    (variant : VariantId) : overrides.find? distributor variant =
      overrides.entries.find? fun entry =>
        entry.distributor = distributor ∧ entry.variant = variant := by
  simp only [find?, Keyed.find?, key, Prod.mk.injEq]

namespace StockLocation

/-- The record of a location for a variant as the distributor of an order sees it. What its
override gives takes the place of the count and of the policy. -/
def seen? (location : StockLocation) (overrides : Option StockOverrides) (order : Order)
    (variant : VariantId) : Option StockItem :=
  let override := overrides.bind fun given => given.entries.find? fun entry =>
    entry.distributor = order.distributor.id ∧ entry.variant = variant
  (location.items.find? fun item => item.variant = variant).map fun item =>
    { item with
      countOnHand := (override.bind (·.countOnHand)).getD item.countOnHand
      backorderable := (override.bind (·.onDemand)).getD item.backorderable }

theorem seen?_eq (location : StockLocation) (overrides : Option StockOverrides) (order : Order)
    (variant : VariantId) : location.seen? overrides order variant =
      (location.item? variant).map fun item =>
        (overrides.bind (·.find? order.distributor.id variant)).elim item item.overriddenBy := by
  simp only [seen?, item?, Keyed.find?, StockOverrides.find?_eq]
  congr 1
  funext item
  cases overrides.bind fun given => given.entries.find? fun entry =>
    decide (entry.distributor = order.distributor.id ∧ entry.variant = variant) <;> rfl

end StockLocation

namespace Content

/-- The items offered for a request from the record of its variant. -/
def offered (record : Option StockItem) (request : Request) : List Content :=
  match record with
  | none => []
  | some item =>
    [⟨request.variant, (item.fill request.quantity).onHand, .onHand⟩,
      ⟨request.variant, (item.fill request.quantity).backordered, .backordered⟩].filter
        fun content => 0 < content.quantity.count

theorem variant_of_offered {record : Option StockItem} {request : Request} {content : Content}
    (member : content ∈ offered record request) : content.variant = request.variant := by
  cases record with
  | none => contradiction
  | some item =>
    have listed := List.mem_of_mem_filter member
    rcases List.mem_cons.mp listed with rfl | later
    · rfl
    · rw [List.mem_singleton.mp later]

theorem single_offered (record : Option StockItem) (request : Request) :
    Single (offered record request) := by
  cases record with
  | none => exact List.nodup_nil
  | some item => exact Single.sublist (by simp [Single, key]) List.filter_sublist

theorem tally_offered_onHand (record : Option StockItem) (request : Request) :
    tally request.variant.id .onHand (offered record request) =
      min request.quantity.count (record.elim 0 StockItem.available) := by
  cases record with
  | none => exact (Nat.min_zero _).symm
  | some item =>
    rw [offered, tally_filter_positive]
    simp [tally_cons, holds, StockItem.fill_onHand_count]

theorem tally_offered_backordered (record : Option StockItem) (request : Request) :
    tally request.variant.id .backordered (offered record request) =
      record.elim 0 fun item => item.promisable request.quantity := by
  cases record with
  | none => rfl
  | some item =>
    rw [offered, tally_filter_positive]
    simp [tally_cons, holds, StockItem.fill_backordered_count]

end Content

namespace Package

def extend (package : Package) (items : List Content) : Package :=
  { package with contents := package.contents ++ items }

theorem add_of_absent {package : Package} {variant : Variant} {state : SupplyState}
    (absent : ∀ content ∈ package.contents, content.key ≠ (variant.id, state))
    (quantity : Units) :
    package.add variant quantity state = package.extend
      ([⟨variant, quantity, state⟩].filter fun content => 0 < content.quantity.count) := by
  unfold add
  by_cases nothing : quantity.count = 0
  · rw [if_pos nothing]
    simp [nothing, extend]
  · rw [if_neg nothing, Content.add_of_absent absent]
    simp [Nat.pos_of_ne_zero nothing, extend]

theorem addOffer_eq (overrides : Option StockOverrides) {package : Package} {request : Request}
    (fresh : ∀ content ∈ package.contents, content.variant.id ≠ request.variant.id) :
    package.addOffer overrides request = package.extend (Content.offered
      (package.location.seen? overrides package.order request.variant.id) request) := by
  cases found : package.location.item? request.variant.id with
  | none =>
    simp only [addOffer, StockLocation.seen?_eq, found]
    simp [Content.offered, extend]
  | some item =>
    have first : ∀ content ∈ package.contents, content.key ≠ (request.variant.id, .onHand) :=
      fun content member same => fresh content member (Prod.ext_iff.mp same).1
    simp only [addOffer, StockLocation.seen?_eq, StockLocation.fillStatus, found]
    rw [add_of_absent first, add_of_absent]
    · simp only [extend, Content.offered, Option.map_some, List.append_assoc, ← List.filter_append,
        List.singleton_append]
    · intro content member same
      rcases List.mem_append.mp member with earlier | later
      · exact fresh content earlier (Prod.ext_iff.mp same).1
      · rw [List.mem_singleton.mp (List.mem_of_mem_filter later)] at same
        exact SupplyState.noConfusion (Prod.ext_iff.mp same).2

theorem foldl_addOffer (overrides : Option StockOverrides) (requests : List Request)
    (package : Package) (distinct : (Request.variants requests).Nodup)
    (fresh : ∀ request ∈ requests, ∀ content ∈ package.contents,
      content.variant.id ≠ request.variant.id) :
    requests.foldl (addOffer overrides) package = package.extend
      (requests.flatMap fun request => Content.offered
        (package.location.seen? overrides package.order request.variant.id) request) := by
  induction requests generalizing package with
  | nil => simp [extend]
  | cons request rest ih =>
    obtain ⟨alone, later⟩ := List.nodup_cons.mp distinct
    rw [List.foldl_cons, addOffer_eq overrides (fresh request (by simp)), ih _ later]
    · simp [extend]
    -- What was just added is of this variant, which no later request names.
    · intro other member content inside same
      rcases List.mem_append.mp inside with earlier | added
      · exact fresh other (List.mem_cons_of_mem _ member) content earlier same
      · rw [Content.variant_of_offered added] at same
        exact alone (Request.mem_variants.mpr ⟨other, member, same.symm⟩)

section Offer

variable (order : Order) (location : StockLocation) (overrides : Option StockOverrides)
  (fallback : Currency)

theorem offer_eq : offer order location overrides fallback =
    ⟨order, location, order.currency.getD fallback, order.requests.flatMap fun request =>
      Content.offered (location.seen? overrides order request.variant.id) request, []⟩ := by
  unfold offer
  rw [foldl_addOffer overrides order.requests _ order.variants_nodup]
  · rfl
  · intro request _ content member
    contradiction

theorem offer_single : (offer order location overrides fallback).Single := by
  rw [offer_eq]
  unfold Single Content.Single
  rw [List.map_flatMap, List.nodup_flatMap]
  refine ⟨fun request _ => Content.single_offered _ request, ?_⟩
  have apart : order.requests.Pairwise fun first second =>
      first.variant.id ≠ second.variant.id := List.pairwise_map.mp order.variants_nodup
  refine apart.imp ?_
  intro first second different key left right
  obtain ⟨content, member, rfl⟩ := List.mem_map.mp left
  obtain ⟨other, inside, same⟩ := List.mem_map.mp right
  have named := (Prod.ext_iff.mp same).1
  simp only [Content.key, Content.variant_of_offered member,
    Content.variant_of_offered inside] at named
  exact different named.symm

theorem units_offer {request : Request} (member : request ∈ order.requests)
    (state : SupplyState) :
    (offer order location overrides fallback).units request.variant.id state =
      Content.tally request.variant.id state
        (Content.offered (location.seen? overrides order request.variant.id) request) := by
  obtain ⟨before, after, split, early, late⟩ :=
    Request.exists_split order.variants_nodup member
  have absent (others : List Request)
      (apart : ∀ other ∈ others, other.variant.id ≠ request.variant.id) :
      Content.tally request.variant.id state (others.flatMap fun other =>
        Content.offered (location.seen? overrides order other.variant.id) other) = 0 := by
    apply Content.tally_of_absent
    intro content offered same
    obtain ⟨other, listed, offered⟩ := List.mem_flatMap.mp offered
    have named := (Prod.ext_iff.mp same).1
    simp only [Content.key, Content.variant_of_offered offered] at named
    exact apart other listed named
  rw [offer_eq, units, split, List.flatMap_append, List.flatMap_cons, Content.tally_append,
    Content.tally_append, absent before early, absent after late]
  omega

theorem units_offer_of_not_mem {variant : VariantId} (absent : variant ∉ order.variants)
    (state : SupplyState) : (offer order location overrides fallback).units variant state = 0 := by
  rw [offer_eq]
  apply Content.tally_of_absent
  intro content member same
  obtain ⟨request, listed, offered⟩ := List.mem_flatMap.mp member
  have named := (Prod.ext_iff.mp same).1
  simp only [Content.key, Content.variant_of_offered offered] at named
  exact absent (Request.mem_variants.mpr ⟨request, listed, named⟩)

theorem offer_of_holdsAny_eq_false (bare : location.holdsAny order.variants = false) :
    (offer order location overrides fallback).contents = [] := by
  rw [offer_eq, List.flatMap_eq_nil_iff]
  intro request member
  have absent : location.item? request.variant.id = none := by
    simpa using List.any_eq_false.mp bare _ (Request.mem_variants.mpr ⟨request, member, rfl⟩)
  rw [StockLocation.seen?_eq, absent]
  rfl

end Offer
end Package
end Fulfilment
