import Fulfilment.Proofs.Allocation.Conservation
import Mathlib.Algebra.Order.Ring.Nat

/-! Units on hand of a variant that the distributor counts itself.

Its count takes the place of that in every record of the variant. Each open location with a
record can therefore send as many units, and all of them together that many times as many. -/
namespace Fulfilment.Allocation
open Reconciliation

/-- The units of a variant on hand in all packages. -/
def sent (variant : VariantId) (allocation : Allocation) : Nat :=
  (allocation.packages.map (Package.units variant .onHand)).sum

/-- The number of open locations with a record for a variant. -/
def holders (variant : VariantId) (locations : List StockLocation) : Nat :=
  locations.countP fun location => location.active && (location.item? variant).isSome

section Counted

variable {order : Order} {locations : List StockLocation} {overrides : StockOverrides}
  {settings : Settings} {variant : VariantId} {override : StockOverride} {count : Int}
  (enabled : settings.useOverrides = true)
  (given : overrides.find? order.distributor.id variant = some override)
  (counted : override.countOnHand = some count)

include enabled given counted

theorem stock_of_counted (location : StockLocation) :
    stock order (some overrides) settings variant location =
      if (location.item? variant).isSome then count.toNat else 0 := by
  have counts : used (some overrides) settings = some overrides := if_pos enabled
  rw [stock, counts, StockLocation.seen?_eq]
  cases location.item? variant with
  | none => rfl
  | some item => simp [given, StockItem.available, StockItem.overriddenBy, counted]

theorem stock_le_of_counted (location : StockLocation) :
    stock order (some overrides) settings variant location ≤ count.toNat := by
  rw [stock_of_counted enabled given counted]
  split <;> omega

theorem sum_stock_of_counted :
    ((visited settings locations).map (stock order (some overrides) settings variant)).sum =
      holders variant locations * count.toNat := by
  have each : stock order (some overrides) settings variant = fun location =>
      if (location.item? variant).isSome then count.toNat else 0 :=
    funext (stock_of_counted enabled given counted)
  rw [each, List.sum_map_ite, List.map_const', List.map_const', List.sum_replicate,
    List.sum_replicate, ← List.countP_eq_length_filter,
    (visits_visited settings locations).permuted.countP_eq, List.countP_filter, holders]
  simp [Bool.and_comm]

end Counted

section Sent

variable {order : Order} {locations : List StockLocation} {overrides : Option StockOverrides}
  {settings : Settings} {allocation : Allocation}
  (ok : allocate order locations overrides settings = .ok allocation)

include ok

theorem sent_eq (variant : VariantId) : allocation.sent variant =
    min ((visited settings locations).map (stock order overrides settings variant)).sum
      (Request.sought variant order.requests) := by
  obtain ⟨settled, settles, prices, _⟩ := allocate_ok _ _ _ _ ok
  rw [sent, map_units_prices prices, sum_units_prune]
  by_cases wanted : variant ∈ order.variants
  · obtain ⟨request, member, rfl⟩ := Request.mem_variants.mp wanted
    rw [(settles.onHand_and_backordered member).1, visitedOffers_onHand _ _ _ _ member,
      Allotment.parts_capped _ _ (Nat.le_refl _), Allotment.parts_sum,
      Request.sought_of_mem order.variants_nodup member]
  · have unsent : ∀ units ∈ settled.packages.map (Package.units variant .onHand), units = 0 := by
      intro units member
      obtain ⟨package, inside, rfl⟩ := List.mem_map.mp member
      exact units_of_settles settles wanted package inside .onHand
    rw [List.sum_eq_zero_iff_forall_eq_nat.mpr unsent, Request.sought_of_not_mem wanted,
      Nat.min_zero]

theorem onHand_le_stock (variant : VariantId) {bound : Nat}
    (bounded : ∀ location, stock order overrides settings variant location ≤ bound) :
    ∀ package ∈ allocation.packages, package.units variant .onHand ≤ bound := by
  obtain ⟨settled, settles, prices, _⟩ := allocate_ok _ _ _ _ ok
  intro package inside
  have priced : package.units variant .onHand ∈
      allocation.packages.map (Package.units variant .onHand) := List.mem_map_of_mem inside
  rw [map_units_prices prices] at priced
  obtain ⟨pruned, kept, units⟩ := List.mem_map.mp priced
  obtain ⟨before, listed, rfl⟩ := List.mem_map.mp (List.mem_of_mem_filter kept)
  rw [before.units_removeEmpty] at units
  rw [← units]
  by_cases wanted : variant ∈ order.variants
  · obtain ⟨request, member, rfl⟩ := Request.mem_variants.mp wanted
    have part : before.units request.variant.id .onHand ∈
        settled.packages.map (Package.units request.variant.id .onHand) :=
      List.mem_map_of_mem listed
    rw [(settles.onHand_and_backordered member).1, visitedOffers_onHand _ _ _ _ member,
      Allotment.parts_capped _ _ (Nat.le_refl _)] at part
    obtain ⟨offer, offered, within⟩ := Allotment.le_of_mem_parts part
    obtain ⟨location, _, rfl⟩ := List.mem_map.mp offered
    exact Nat.le_trans within (bounded location)
  · rw [units_of_settles settles wanted before listed .onHand]
    exact Nat.zero_le _

end Sent

/-- No package has more units on hand of a variant than the distributor counts itself. All
packages together have that many for each open location with a record, as far as requested, so
that they stay below the count of the distributor only if there is one such location, nothing
is counted or no more is requested. -/
theorem allocate_sends_own_count (order : Order) (locations : List StockLocation)
    (overrides : StockOverrides) (settings : Settings) {variant : VariantId}
    {override : StockOverride} {count : Int} (enabled : settings.useOverrides = true)
    (given : overrides.find? order.distributor.id variant = some override)
    (counted : override.countOnHand = some count) {allocation : Allocation}
    (ok : allocate order locations (some overrides) settings = .ok allocation) :
    (∀ package ∈ allocation.packages, package.units variant .onHand ≤ count.toNat) ∧
      allocation.sent variant =
        min (holders variant locations * count.toNat) (Request.sought variant order.requests) ∧
      (allocation.sent variant ≤ count.toNat ↔ holders variant locations ≤ 1 ∨ count ≤ 0 ∨
        Request.sought variant order.requests ≤ count.toNat) := by
  have total := sent_eq ok variant
  rw [sum_stock_of_counted enabled given counted] at total
  refine ⟨?_, total, ?_⟩
  · exact onHand_le_stock ok variant (stock_le_of_counted enabled given counted)
  · rw [total, min_le_iff]
    have share : holders variant locations * count.toNat ≤ count.toNat ↔
        holders variant locations ≤ 1 ∨ count ≤ 0 := by
      rcases Nat.eq_zero_or_pos count.toNat with nothing | some
      · have none : count ≤ 0 := by omega
        simp [nothing, none]
      · have positive : ¬ count ≤ 0 := by omega
        rw [mul_le_iff_le_one_left some]
        simp [positive]
    rw [share, or_assoc]

/-- Two open locations with eight lamps each. -/
def barnAndLoft : List StockLocation :=
  [⟨1, "barn", true, [⟨lamp.id, 8, false⟩]⟩, ⟨2, "loft", true, [⟨lamp.id, 8, false⟩]⟩]

theorem barnAndLoft_send_twice : ∃ allocation,
    allocate tenLamps barnAndLoft (some threeEach) inGivenOrder = .ok allocation ∧
      inGivenOrder.useOverrides = true ∧
      threeEach.find? tenLamps.distributor.id lamp.id = some ⟨0, lamp.id, some 3, none⟩ ∧
      allocation.sent lamp.id = 6 ∧ ¬ allocation.sent lamp.id ≤ (3 : Int).toNat :=
  ⟨_, rfl, rfl, rfl, by decide, by decide⟩

theorem fourSheds_send_own_count : ∃ allocation,
    allocate tenLamps fourSheds (some threeEach) inGivenOrder = .ok allocation ∧
      (∀ package ∈ allocation.packages, package.units lamp.id .onHand ≤ (3 : Int).toNat) ∧
      allocation.sent lamp.id =
        min (holders lamp.id fourSheds * (3 : Int).toNat)
          (Request.sought lamp.id tenLamps.requests) ∧
      (allocation.sent lamp.id ≤ (3 : Int).toNat ↔ holders lamp.id fourSheds ≤ 1 ∨ (3 : Int) ≤ 0 ∨
        Request.sought lamp.id tenLamps.requests ≤ (3 : Int).toNat) := by
  obtain ⟨allocation, allocated⟩ : ∃ allocation,
      allocate tenLamps fourSheds (some threeEach) inGivenOrder = .ok allocation := ⟨_, rfl⟩
  have given : threeEach.find? tenLamps.distributor.id lamp.id =
      some ⟨0, lamp.id, some 3, none⟩ := rfl
  exact ⟨allocation, allocated, allocate_sends_own_count _ _ _ _ rfl given rfl allocated⟩

end Fulfilment.Allocation
