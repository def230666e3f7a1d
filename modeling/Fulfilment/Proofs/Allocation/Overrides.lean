import Fulfilment.Proofs.Allocation.Division
import Fulfilment.Proofs.Allocation.Surroundings
import Fulfilment.Proofs.Package.Failure
import Fulfilment.Proofs.Stock.Overrides

/-! What overrides do to an allocation.

They do what rewriting the stock records would do, each record by the last override that the
distributor of the order gave for its variant. -/
namespace Fulfilment
open Reconciliation StockOverrides

def StockLocation.withoutStock (location : StockLocation) : StockLocation :=
  { location with items := [] }

def Package.withoutStock (package : Package) : Package :=
  { package with location := package.location.withoutStock }

theorem Package.surrounds_withoutStock : Surrounds withoutStock := ⟨fun _ => rfl, fun _ _ => rfl⟩

namespace Allocation

/-- All that an allocation says, apart from the stock records of the locations. -/
def withoutStock (allocation : Allocation) : Allocation :=
  { allocation with packages := allocation.packages.map Package.withoutStock }

theorem priceAll_withoutStock (settings : Settings) (packages : List Package) :
    priceAll settings (packages.map Package.withoutStock) =
      (priceAll settings packages).map (List.map Package.withoutStock) := by
  apply priceAll_changed
  · intro package
    exact (@Package.quote_congr package package.withoutStock rfl rfl rfl _ _).trans
      (congrFun Except.map_id _).symm
  · intro package rates
    rfl

section Offers

variable (order : Order) (settings : Settings)

/-- Apart from stock records, an allocation depends on offers without them. -/
theorem allocate_withoutStock (locations : List StockLocation)
    (overrides : Option StockOverrides) :
    (allocate order locations overrides settings).map withoutStock =
      ofOffers order.requests settings
        ((offers order locations overrides settings).map Package.withoutStock) :=
  (ofOffers_changed Package.surrounds_withoutStock (priceAll_withoutStock settings) _ _).symm

theorem visited_rewritten (given : List StockOverride) (distributor : DistributorId)
    (locations : List StockLocation) :
    visited settings (locations.map (·.rewritten given distributor)) =
      (visited settings locations).map (·.rewritten given distributor) := by
  have active : (locations.map (·.rewritten given distributor)).filter (·.active) =
      (locations.filter (·.active)).map (·.rewritten given distributor) := List.filter_map
  unfold visited
  rw [active]
  cases settings.visitingOrder with
  | asGiven => rfl
  | byId =>
    symm
    apply List.map_mergeSort
    intro a _ b _
    rfl

theorem offers_rewritten (enabled : settings.useOverrides = true) (given : List StockOverride)
    (locations : List StockLocation) :
    (offers order (locations.map (·.rewritten given order.distributor.id)) none settings).map
        Package.withoutStock =
      (offers order locations (some (ofList given)) settings).map Package.withoutStock := by
  have holding : (StockLocation.holdsAny · order.variants) ∘
      StockLocation.rewritten given order.distributor.id = (StockLocation.holdsAny · order.variants) :=
    funext fun location => location.holdsAny_rewritten given _ _
  unfold offers
  rw [visited_rewritten, List.filter_map, holding, List.map_map, List.map_map, List.map_map]
  apply List.map_congr_left
  intro location _
  simp only [Function.comp_apply, enabled, if_true, ite_self, Package.offer_eq,
    StockLocation.seen?_none, StockLocation.item?_rewritten, StockLocation.seen?_ofList]
  rfl

theorem used_of_disabled {settings : Settings} (disabled : settings.useOverrides = false)
    (overrides : Option StockOverrides) : used overrides settings = none := by
  simp [used, disabled]

/-- Overrides count only in the records of what is ordered that they let locations show. -/
theorem offers_congr {locations : List StockLocation} {overrides others : Option StockOverrides}
    (same : ∀ location ∈ locations, ∀ variant ∈ order.variants,
      location.seen? (used others settings) order variant =
        location.seen? (used overrides settings) order variant) :
    offers order locations others settings = offers order locations overrides settings := by
  unfold offers
  apply List.map_congr_left
  intro location member
  have opened := (visits_visited settings locations).permuted.mem_iff.mp
    (List.mem_of_mem_filter member)
  have listed := List.mem_of_mem_filter opened
  have contents : (order.requests.flatMap fun request => Content.offered
        (location.seen? (used others settings) order request.variant.id) request) =
      order.requests.flatMap fun request => Content.offered
        (location.seen? (used overrides settings) order request.variant.id) request := by
    apply List.flatMap_congr
    intro request requested
    rw [same location listed _ (Request.mem_variants.mpr ⟨request, requested, rfl⟩)]
  rw [Package.offer_eq, Package.offer_eq]
  exact congrArg (fun items => Package.mk order location _ items []) contents

end Offers

/-- Overrides that count do what rewriting the stock would do. Two histories of them that set the
same, as far as locations have records of what is ordered, make no difference, and none makes
any where overrides do not count. -/
theorem allocate_overrides (order : Order) (locations : List StockLocation) (settings : Settings)
    (given : List StockOverride) :
    (settings.useOverrides = true →
      (allocate order locations (some (ofList given)) settings).map withoutStock =
        (allocate order (locations.map (·.rewritten given order.distributor.id)) none settings).map
          withoutStock) ∧
    (∀ others : List StockOverride,
      (∀ line ∈ order.lines, ∀ location ∈ locations,
        (location.item? line.variant.id).isSome = true →
          effect others order.distributor.id line.variant.id =
            effect given order.distributor.id line.variant.id) →
      allocate order locations (some (ofList others)) settings =
        allocate order locations (some (ofList given)) settings) ∧
    (settings.useOverrides = false → ∀ overrides,
      allocate order locations overrides settings = allocate order locations none settings) := by
  refine ⟨?_, ?_, ?_⟩
  · intro enabled
    rw [allocate_withoutStock, allocate_withoutStock, offers_rewritten _ _ enabled]
  · intro others same
    apply allocate_congr_offers
    apply offers_congr
    intro location member variant ordered
    cases enabled : settings.useOverrides with
    | false => rw [used_of_disabled enabled, used_of_disabled enabled]
    | true =>
      simp only [used, enabled, if_true, StockLocation.seen?_ofList]
      -- Without a record there is nothing that an override could change.
      cases found : location.item? variant with
      | none => rfl
      | some item =>
        obtain ⟨line, listed, rfl⟩ := Order.mem_variants_iff.mp ordered
        have named := StockLocation.variant_of_item? found
        have equal := same line listed location member (by rw [found]; rfl)
        rw [← named] at equal
        rw [Option.map_some, Option.map_some, StockItem.rewritten, equal, StockItem.rewritten]
  · intro disabled overrides
    apply allocate_congr_offers
    apply offers_congr
    intro location _ variant _
    rw [used_of_disabled disabled, used_of_disabled disabled]

def hub : DistributorId := 0

/-- Two overrides for lamps, of which the second one counts. -/
def twoCounts : List StockOverride := [⟨hub, lamp.id, some 9, some true⟩, ⟨hub, lamp.id, some 3, none⟩]

/-- The override that counts, between one of another distributor and one for rugs. -/
def lastCount : List StockOverride :=
  [⟨8, lamp.id, some 0, none⟩, ⟨hub, lamp.id, some 3, none⟩,
    ⟨hub, rug.id, some 1, some true⟩]

/-- The lamps of each package, those on hand and then the promised ones, by the name of its
location. -/
def lamps (allocation : Allocation) : List (String × Nat × Nat) :=
  allocation.packages.map fun package =>
    (package.location.name, package.units lamp.id .onHand, package.units lamp.id .backordered)

theorem twoCounts_rewrite :
    (allocate tenLamps fourSheds (some (ofList twoCounts)) inGivenOrder).map withoutStock =
        (allocate tenLamps (fourSheds.map (·.rewritten twoCounts hub)) none inGivenOrder).map
          withoutStock ∧
      (fourSheds.map (·.rewritten twoCounts hub)).flatMap StockLocation.items =
        [⟨lamp.id, 3, false⟩, ⟨lamp.id, 3, true⟩, ⟨lamp.id, 3, true⟩, ⟨lamp.id, 3, true⟩] ∧
      (allocate tenLamps fourSheds (some (ofList twoCounts)) inGivenOrder).map lamps =
        .ok [("barn", 3, 0), ("cellar", 3, 1), ("loft", 3, 0)] ∧
      allocate tenLamps fourSheds (some (ofList lastCount)) inGivenOrder =
        allocate tenLamps fourSheds (some (ofList twoCounts)) inGivenOrder ∧
      allocate tenLamps fourSheds (some (ofList twoCounts))
          { inGivenOrder with useOverrides := false } =
        allocate tenLamps fourSheds none { inGivenOrder with useOverrides := false } ∧
      (allocate tenLamps fourSheds none { inGivenOrder with useOverrides := false }).map lamps =
        .ok [("barn", 8, 0), ("cellar", 0, 2)] := by
  have law := allocate_overrides tenLamps fourSheds inGivenOrder twoCounts
  have disabled := allocate_overrides tenLamps fourSheds
    { inGivenOrder with useOverrides := false } twoCounts
  exact ⟨law.1 rfl, rfl, rfl, law.2.1 lastCount (by decide), disabled.2.2 rfl _, rfl⟩

end Allocation
end Fulfilment
