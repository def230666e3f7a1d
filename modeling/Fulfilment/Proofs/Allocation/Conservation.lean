import Fulfilment.Proofs.Allocation.Division
import Mathlib.Algebra.BigOperators.Group.List.Lemmas

/-! Where the ordered units of a variant go.

Every requested unit is in a package or reported as missing. Adding up the lines of an
order stops at the largest count, so that what is ordered beyond it is not requested, and
neither sent nor reported. -/
namespace Fulfilment

def Package.held (variant : VariantId) (package : Package) : Nat :=
  package.units variant .onHand + package.units variant .backordered

namespace Allocation
open Reconciliation

/-- The units of a variant in all packages. -/
def placed (variant : VariantId) (allocation : Allocation) : Nat :=
  (allocation.packages.map (Package.held variant)).sum

/-- The units of a variant that are reported as missing. -/
def missing (variant : VariantId) (allocation : Allocation) : Nat :=
  ((allocation.shortfalls.filter fun shortfall => shortfall.variant = variant).map
    fun shortfall => shortfall.quantity.count).sum

theorem held_offers (variant : VariantId) (packages : List Package) :
    (packages.map (Package.held variant)).sum = (Package.offers variant packages).sum := by
  rw [Package.offers, List.sum_append, ← List.sum_map_add]
  rfl

theorem held_prune (variant : VariantId) (packages : List Package) :
    ((prune packages).map (Package.held variant)).sum =
      (packages.map (Package.held variant)).sum := by
  rw [held_offers, held_offers, Package.offers, Package.offers, List.sum_append, List.sum_append,
    sum_units_prune, sum_units_prune]

theorem placed_of_prices {settings : Settings} {packages : List Package} {allocation : Allocation}
    (prices : List.Forall₂ (Prices settings) (prune packages) allocation.packages)
    (variant : VariantId) : allocation.placed variant = (Package.offers variant packages).sum := by
  have same : allocation.packages.map (Package.held variant) =
      (prune packages).map (Package.held variant) := by
    apply map_eq_of_forall₂ _ prices
    rintro package result ⟨rates, _, rfl⟩
    rfl
  rw [placed, same, held_prune, held_offers]

theorem missing_amounts (variant : VariantId) (allocation : Allocation) :
    allocation.missing variant = (((allocation.shortfalls.map Shortfall.amount).filter
      fun gap => gap.1 = variant).map Prod.snd).sum := by
  rw [missing, List.filter_map, List.map_map]
  rfl

theorem sum_openAmounts (request : Request) (packages : List Package) :
    ((openAmounts [request] packages).map Prod.snd).sum = request.quantity.count -
      min (Package.offers request.variant.id packages).sum request.quantity.count := by
  rw [openAmounts, List.map_singleton]
  generalize request.quantity.count -
    min (Package.offers request.variant.id packages).sum request.quantity.count = left
  cases left with
  | zero => rfl
  | succ less => exact Nat.add_zero _

section

variable (order : Order) (locations : List StockLocation) (overrides : Option StockOverrides)
  (settings : Settings)

theorem placed_add_missing {allocation : Allocation}
    (ok : allocate order locations overrides settings = .ok allocation) (variant : VariantId) :
    allocation.placed variant + allocation.missing variant =
      Request.sought variant order.requests := by
  obtain ⟨settled, settles, prices, shortfalls⟩ := allocate_ok _ _ _ _ ok
  rw [placed_of_prices prices]
  by_cases wanted : variant ∈ order.variants
  · obtain ⟨request, member, rfl⟩ := Request.mem_variants.mp wanted
    have allotted : Package.offers request.variant.id settled.packages =
        Allotment.parts request.quantity.count (Package.offers request.variant.id
          (visitedOffers order locations overrides settings)) := settles.allotted request member
    rw [missing_amounts, shortfalls, shortfalls_of_settles settles, allotted, Allotment.parts_sum,
      openAmounts_filter order.variants_nodup member, sum_openAmounts,
      Request.sought_of_mem order.variants_nodup member]
    omega
  · have unsent : ∀ count ∈ Package.offers variant settled.packages, count = 0 := by
      intro count listed
      obtain ⟨package, inside, state, units⟩ := Package.mem_offers.mp listed
      rw [← units]
      exact units_of_settles settles wanted package inside state
    have unreported : settled.shortfalls.filter
        (fun shortfall => shortfall.variant = variant) = [] := by
      rw [List.filter_eq_nil_iff]
      intro shortfall inside named
      exact unreported_of_settles settles wanted shortfall inside (by simpa using named)
    rw [List.sum_eq_zero_iff_forall_eq_nat.mpr unsent, missing, shortfalls, unreported,
      Request.sought_of_not_mem wanted]
    rfl

theorem missing_of_isComplete {allocation : Allocation} (complete : allocation.isComplete = true)
    (variant : VariantId) : allocation.missing variant = 0 := by
  have none : allocation.shortfalls = [] := List.isEmpty_iff.mp complete
  rw [missing, none]
  rfl

/-- No ordered unit of a variant is lost as long as their number is a count. What is ordered
beyond the largest count is neither sent nor reported, even where nothing is missing. -/
theorem allocate_accounts {allocation : Allocation}
    (ok : allocate order locations overrides settings = .ok allocation) (variant : VariantId) :
    allocation.placed variant + allocation.missing variant =
        min (order.ordered variant) Units.most.count ∧
      (allocation.placed variant + allocation.missing variant = order.ordered variant ↔
        order.ordered variant ≤ Units.most.count) ∧
      (allocation.isComplete = true →
        (allocation.placed variant = order.ordered variant ↔
          order.ordered variant ≤ Units.most.count)) := by
  have whole := placed_add_missing order locations overrides settings ok variant
  rw [order.sought_requests, ← Units.count_most] at whole
  refine ⟨whole, ?_, ?_⟩
  · omega
  · intro complete
    have nothing := missing_of_isComplete complete variant
    omega

end

theorem fourSheds_accounts : ∃ allocation,
    allocate tenLamps fourSheds (some threeEach) inGivenOrder = .ok allocation ∧
      (allocation.placed lamp.id + allocation.missing lamp.id =
          min (tenLamps.ordered lamp.id) Units.most.count ∧
        (allocation.placed lamp.id + allocation.missing lamp.id = tenLamps.ordered lamp.id ↔
          tenLamps.ordered lamp.id ≤ Units.most.count) ∧
        (allocation.isComplete = true →
          (allocation.placed lamp.id = tenLamps.ordered lamp.id ↔
            tenLamps.ordered lamp.id ≤ Units.most.count))) := by
  obtain ⟨allocation, allocated⟩ : ∃ allocation,
      allocate tenLamps fourSheds (some threeEach) inGivenOrder = .ok allocation := ⟨_, rfl⟩
  exact ⟨allocation, allocated, allocate_accounts _ _ _ _ allocated lamp.id⟩

/-- As many lamps as a count goes, on one line, and one more on another. -/
def oneTooMany : Order := .ofLines [.counted lamp 4294967295, .counted lamp 1]

def fullShed : StockLocation := ⟨1, "shed", true, [⟨lamp.id, 4294967295, false⟩]⟩

theorem oneTooMany_loses : ∃ allocation,
    allocate oneTooMany [fullShed] none inGivenOrder = .ok allocation ∧
      allocation.isComplete = true ∧
      oneTooMany.ordered lamp.id = 4294967296 ∧
      allocation.placed lamp.id + allocation.missing lamp.id = 4294967295 :=
  ⟨_, rfl, by decide, by decide, by decide⟩

end Allocation
end Fulfilment
