import Fulfilment.Proofs.Package.Offer
import Mathlib.Algebra.Group.Int.Defs

/-! What one stock location lists for an order.

Counts of stock are whole numbers of either sign and requests are counts of units, but what a
location lists is what whole numbers without bounds give: nothing is taken from less, and no
sum passes the largest count. Every item is listed once, so units are never merged. -/
namespace Fulfilment

def Content.entry (content : Content) : Variant × SupplyState × Int :=
  (content.variant, content.state, content.quantity.count)

namespace StockItem

/-- The units of a request that are on hand, in whole numbers. -/
def sent (item : StockItem) (request : Request) : Int :=
  min request.quantity.count (max 0 item.countOnHand)

/-- The units of a request that are promised, in whole numbers. -/
def promised (item : StockItem) (request : Request) : Int :=
  if item.backorderable then request.quantity.count - item.sent request else 0

/-- What a record lists for a request, without the entries for no units. -/
def entries (item : StockItem) (request : Request) : List (Variant × SupplyState × Int) :=
  [(request.variant, .onHand, item.sent request),
    (request.variant, .backordered, item.promised request)].filter fun entry => entry.2.2 ≠ 0

theorem fill_onHand_eq (item : StockItem) (request : Request) :
    ((item.fill request.quantity).onHand.count : Int) = item.sent request := by
  rw [fill_onHand_count, sent, available]
  omega

theorem fill_backordered_eq (item : StockItem) (request : Request) :
    ((item.fill request.quantity).backordered.count : Int) = item.promised request := by
  have onHand := item.fill_onHand_eq request
  rw [fill_onHand_count] at onHand
  rw [fill_backordered_count, promisable, promised]
  split <;> omega

end StockItem

theorem Content.entry_offered (record : Option StockItem) (request : Request) :
    (offered record request).map entry = record.elim [] fun item => item.entries request := by
  cases record with
  | none => rfl
  | some item =>
    have listed : [⟨request.variant, (item.fill request.quantity).onHand, .onHand⟩,
        ⟨request.variant, (item.fill request.quantity).backordered, .backordered⟩].map entry =
        [(request.variant, .onHand, item.sent request),
          (request.variant, .backordered, item.promised request)] := by
      simp only [List.map_cons, List.map_nil, entry, item.fill_onHand_eq, item.fill_backordered_eq]
    rw [Option.elim_some, StockItem.entries, ← listed, List.filter_map, offered]
    congr 1
    apply List.filter_congr
    intro content _
    simp [entry, Nat.pos_iff_ne_zero]

/-- No more units on hand than are asked for, so that the rest can be taken, and no more units
in all. -/
structure FillStatus.Within (status : FillStatus) (quantity : Units) : Prop where
  onHand : status.onHand.count ≤ quantity.count
  total : status.total ≤ quantity.count

theorem StockLocation.fillStatus_within (location : StockLocation) (variant : VariantId)
    (quantity : Units) (override : Option StockOverride) :
    (location.fillStatus variant quantity override).Within quantity := by
  unfold fillStatus
  cases location.item? variant with
  | none => exact ⟨Nat.zero_le _, Nat.zero_le _⟩
  | some item =>
    refine ⟨?_, StockItem.fill_total_le _ quantity⟩
    rw [StockItem.fill_onHand_count]
    exact Nat.min_le_left _ _

namespace Package

variable (order : Order) (location : StockLocation) (overrides : Option StockOverrides)
  (fallback : Currency)

theorem entries_offer : (offer order location overrides fallback).contents.map Content.entry =
    order.requests.flatMap fun request =>
      (location.seen? overrides order request.variant.id).elim [] fun item =>
        item.entries request := by
  rw [offer_eq, List.map_flatMap]
  simp only [Content.entry_offered]

theorem offer_positive :
    ∀ content ∈ (offer order location overrides fallback).contents, 0 < content.quantity.count := by
  intro content member
  rw [offer_eq] at member
  obtain ⟨request, _, offered⟩ := List.mem_flatMap.mp member
  cases seen : location.seen? overrides order request.variant.id with
  | none =>
    rw [seen] at offered
    contradiction
  | some item =>
    rw [seen] at offered
    exact of_decide_eq_true (List.mem_filter.mp offered).2

theorem addOffer_fresh {before after : List Request} {request : Request}
    (requested : order.requests = before ++ request :: after) :
    let package := before.foldl (addOffer overrides) (empty order location fallback)
    package.index? request.variant.id .onHand = none ∧ ∀ units,
      (package.add request.variant units .onHand).index? request.variant.id .backordered = none := by
  intro package
  have distinct := order.variants_nodup
  unfold Order.variants at distinct
  rw [requested, List.map_append, List.map_cons] at distinct
  have unnamed := (List.nodup_cons.mp (List.nodup_middle.mp distinct)).1
  have served := foldl_addOffer overrides before (empty order location fallback)
    (List.Nodup.of_append_left distinct) (by simp [empty])
  -- What is there has been offered for an earlier request, so for another variant.
  have fresh : ∀ content ∈ package.contents, content.variant.id ≠ request.variant.id := by
    intro content member same
    rw [show package = _ from served] at member
    obtain ⟨other, listed, offered⟩ := List.mem_flatMap.mp member
    rw [Content.variant_of_offered offered] at same
    exact unnamed (List.mem_append_left _ (List.mem_map.mpr ⟨other, listed, same⟩))
  have absent (state : SupplyState) :
      ∀ content ∈ package.contents, content.key ≠ (request.variant.id, state) :=
    fun content member same => fresh content member (Prod.ext_iff.mp same).1
  refine ⟨index?_eq_none_iff.mpr (absent .onHand), ?_⟩
  intro units
  rw [add_of_absent (absent .onHand), index?_eq_none_iff]
  intro content member same
  rcases List.mem_append.mp member with earlier | added
  · exact absent .backordered content earlier same
  · rw [List.mem_singleton.mp (List.mem_of_mem_filter added)] at same
    exact SupplyState.noConfusion (Prod.ext_iff.mp same).2

/-- A location lists for each request, in order, what its record of the variant has on hand and
then what it may promise, as whole numbers without bounds give them. Each fill stays within its
request, and each item is listed once and for some units. -/
theorem offer_within_stock :
    (offer order location overrides fallback).contents.map Content.entry =
        (order.requests.flatMap fun request =>
          (location.seen? overrides order request.variant.id).elim [] fun item =>
            item.entries request) ∧
      (∀ content ∈ (offer order location overrides fallback).contents,
        0 < content.quantity.count) ∧
      (∀ variant quantity override,
        (location.fillStatus variant quantity override).Within quantity) ∧
      (offer order location overrides fallback).Single ∧
      ∀ before request after, order.requests = before ++ request :: after →
        let package := before.foldl (addOffer overrides)
          (empty order location (order.currency.getD fallback))
        package.index? request.variant.id .onHand = none ∧ ∀ units,
          (package.add request.variant units .onHand).index? request.variant.id
            .backordered = none :=
  ⟨entries_offer order location overrides fallback,
    offer_positive order location overrides fallback, location.fillStatus_within,
    offer_single order location overrides fallback,
    fun _ _ _ => addOffer_fresh order location overrides _⟩

/-- The largest order against the largest count of stock and another one against the smallest. -/
theorem countsAtTheLimits_offered :
    let lamp : Variant := .plain 1 "lamp"
    let rug : Variant := .plain 2 "rug"
    let order := Order.ofLines [.counted lamp 4294967295, .counted rug 5]
    let shed : StockLocation :=
      ⟨7, "shed", true, [⟨1, 2 ^ 63 - 1, false⟩, ⟨2, -2 ^ 63, true⟩]⟩
    let withLamps := addOffer none (empty order shed .usd) ⟨lamp, 4294967295⟩
    (offer order shed none .usd).contents.map Content.entry =
        [(lamp, .onHand, 4294967295), (rug, .backordered, 5)] ∧
      (shed.fillStatus 1 4294967295 none).Within 4294967295 ∧
      withLamps.index? 2 .onHand = none ∧
      ∀ units, (withLamps.add rug units .onHand).index? 2 .backordered = none := by
  intro lamp rug order shed withLamps
  obtain ⟨entries, _, within, _, fresh⟩ := offer_within_stock order shed none .usd
  exact ⟨entries.trans (by decide), within 1 4294967295 none,
    fresh [⟨lamp, 4294967295⟩] ⟨rug, 5⟩ [] (by decide)⟩

end Package
end Fulfilment
