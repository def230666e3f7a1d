import Fulfilment.Proofs.Allocation.Division

/-! Which locations an allocation depends on.

Only open locations with a record for something that is ordered matter, in the order in which
they are visited. Sorted by identifiers that differ, it does not matter in which order they
are given either. -/
namespace Fulfilment
open Allocation Reconciliation

/-- Whether a location is open and has a record for something that is ordered. -/
def Order.concerns (order : Order) (location : StockLocation) : Bool :=
  location.active && order.lines.any fun line => (location.item? line.variant.id).isSome

theorem Order.holdsAny_variants (order : Order) (location : StockLocation) :
    location.holdsAny order.variants =
      order.lines.any fun line => (location.item? line.variant.id).isSome := by
  rw [Bool.eq_iff_iff, StockLocation.holdsAny, order.variants_eq_eraseDups]
  simp

namespace Allocation

/-- Allocating with an offer of every visited location, whether or not it holds anything that
is ordered. -/
def allocateFromAll (order : Order) (locations : List StockLocation)
    (overrides : Option StockOverrides) (settings : Settings) :
    Except CalculatorError Allocation := do
  let reconciled := ofPackages order.requests (visitedOffers order locations overrides settings)
  let packages ← priceAll settings reconciled.packages
  return ⟨packages, reconciled.shortfalls⟩

theorem active_filter (order : Order) (locations : List StockLocation) :
    (locations.filter (·.active)).filter (·.holdsAny order.variants) =
      locations.filter order.concerns := by
  rw [List.filter_filter]
  apply List.filter_congr
  intro location _
  rw [order.holdsAny_variants, Bool.and_comm, Order.concerns]

section Visited

variable {settings : Settings} (order : Order)

theorem visited_asGiven (given : settings.visitingOrder = .asGiven)
    (locations : List StockLocation) :
    (visited settings locations).filter (·.holdsAny order.variants) =
      locations.filter order.concerns := by
  rw [(visits_visited settings locations).asGiven given]
  exact active_filter order locations

theorem visited_perm (settings : Settings) (locations : List StockLocation) :
    ((visited settings locations).filter (·.holdsAny order.variants)).Perm
      (locations.filter order.concerns) := by
  rw [← active_filter]
  exact (visits_visited settings locations).permuted.filter _

/-- There is only one order by identifiers that differ. -/
theorem visited_unique (sorted : settings.visitingOrder = .byId)
    {first second : List StockLocation}
    (permuted : (first.filter order.concerns).Perm (second.filter order.concerns))
    (distinct : ((first.filter order.concerns).map StockLocation.id).Nodup) :
    (visited settings first).filter (·.holdsAny order.variants) =
      (visited settings second).filter (·.holdsAny order.variants) := by
  -- Both sequences ascend and are permutations of each other.
  have here := visited_perm order settings first
  have there := visited_perm order settings second
  have ascending := fun locations => (visits_visited settings locations).ascending sorted
  refine List.Perm.eq_of_pairwise ?_ ((ascending first).filter _) ((ascending second).filter _)
    ((here.trans permuted).trans there.symm)
  intro a b inside other lower upper
  have same : a.id = b.id := Identifier.ext_iff_value.mpr (Nat.le_antisymm lower upper)
  have listed := here.mem_iff.mp inside
  have relisted := permuted.mem_iff.mpr (there.mem_iff.mp other)
  exact List.inj_on_of_nodup_map distinct listed relisted same

end Visited

section Dependence

variable (order : Order) (overrides : Option StockOverrides) (settings : Settings)

theorem allocate_congr {first second : List StockLocation}
    (same : (visited settings first).filter (·.holdsAny order.variants) =
      (visited settings second).filter (·.holdsAny order.variants)) :
    allocate order first overrides settings = allocate order second overrides settings := by
  apply allocate_congr_offers
  rw [offers, same, offers]

/-- An allocation depends only on the locations that concern the order: on their sequence if
they are visited as given, and on which they are if they are visited by identifiers that
differ. To leave the others out beforehand changes nothing. -/
theorem allocate_depends_on_concerned :
    (settings.visitingOrder = .asGiven → ∀ first second : List StockLocation,
      first.filter order.concerns = second.filter order.concerns →
      allocate order first overrides settings = allocate order second overrides settings) ∧
    (settings.visitingOrder = .byId → ∀ first second : List StockLocation,
      (first.filter order.concerns).Perm (second.filter order.concerns) →
      ((first.filter order.concerns).map StockLocation.id).Nodup →
      allocate order first overrides settings = allocate order second overrides settings) ∧
    ∀ locations : List StockLocation,
      allocateFromAll order locations overrides settings =
        allocate order locations overrides settings := by
  refine ⟨?_, ?_, ?_⟩
  · intro given first second same
    apply allocate_congr
    rw [visited_asGiven order given, visited_asGiven order given, same]
  · intro sorted first second permuted distinct
    exact allocate_congr order overrides settings (visited_unique order sorted permuted distinct)
  · intro locations
    rw [allocateFromAll, ← ofPackages_offers, allocate]

end Dependence

/-- An open location that has nothing but rugs. -/
def rugShed : StockLocation := ⟨4, "rug shed", true, [⟨rug.id, 7, true⟩]⟩

theorem fourSheds_reversed :
    allocate tenLamps (rugShed :: fourSheds.reverse) (some threeEach) inGivenOrder =
        allocate tenLamps fourSheds.reverse (some threeEach) inGivenOrder ∧
      allocate tenLamps (rugShed :: fourSheds.reverse) (some threeEach) .default =
        allocate tenLamps fourSheds (some threeEach) .default := by
  have unconcerned : (rugShed :: fourSheds.reverse).filter tenLamps.concerns =
      fourSheds.reverse.filter tenLamps.concerns := rfl
  constructor
  · exact (allocate_depends_on_concerned tenLamps (some threeEach) inGivenOrder).1 rfl _ _
      unconcerned
  · apply (allocate_depends_on_concerned tenLamps (some threeEach) .default).2.1 rfl
    · rw [unconcerned]
      exact (List.reverse_perm fourSheds).filter _
    · decide

end Allocation
end Fulfilment
