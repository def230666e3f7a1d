import Fulfilment.Package.Shipment
import Fulfilment.Proofs.Decimal.Rounding
import Fulfilment.Proofs.Json.Record
import Fulfilment.Proofs.Package.Contents
import Mathlib.Algebra.BigOperators.Group.List.Basic

/-! What a shipment takes over from a package.

Every item becomes as many units as it counts and every rate a record of it, in the order of the
package. What is stored of a shipment is read back as an equal one. -/
namespace Fulfilment

/-! Counting units. -/

namespace Content

def unit (content : Content) : InventoryUnit := ⟨content.variant.id, content.state⟩

theorem countP_units (property : InventoryUnit → Bool) (contents : List Content) :
    (contents.flatMap units).countP property =
      ((contents.filter fun content => property content.unit).map
        fun content => content.quantity.count).sum := by
  induction contents with
  | nil => rfl
  | cons content rest ih =>
    have alike : content.units = List.replicate content.quantity.count content.unit := rfl
    rw [List.flatMap_cons, List.countP_append, ih, alike, List.countP_replicate, List.filter_cons]
    split
    · rw [List.map_cons, List.sum_cons]
    · rw [Nat.zero_add]

end Content

namespace Package

variable (package : Package)

theorem shipment_count (variant : VariantId) (state : SupplyState) :
    package.shipment.units.count ⟨variant, state⟩ = package.units variant state := by
  have same : (fun content : Content => content.unit == ⟨variant, state⟩) =
      Content.holds variant state := by
    funext content
    rw [Bool.eq_iff_iff, beq_iff_eq, Content.holds_iff, Content.unit, Content.key]
    simp
  rw [List.count, shipment, Content.countP_units, same]
  rfl

theorem shipment_unitCount (state : SupplyState) :
    package.shipment.unitCount state = package.quantity (some state) := by
  rw [Shipment.unitCount, ← List.countP_eq_length_filter, shipment, Content.countP_units, quantity_eq]
  rfl

theorem shipment_length : package.shipment.units.length = package.quantity none := by
  rw [← List.countP_true, shipment, Content.countP_units, quantity_eq]
  rfl

theorem shipment_selectedRate? :
    package.shipment.selectedRate? = package.selectedRate?.map Rate.record := by
  rw [Shipment.selectedRate?, shipment, List.find?_map]
  rfl

end Package

/-! Storing and reading back. -/

theorem SupplyState.decode_name (state : SupplyState) : decode (.string state.name) = .ok state := by
  cases state <;> rfl

theorem InventoryUnit.decode_toJson (unit : InventoryUnit) : decode unit.toJson = .ok unit := by
  have writes : layout.Writes [("variant_id", unit.variant.toJson), ("state", .string unit.state.name)]
      unit := .seq (.seq (.pure InventoryUnit.mk)
    (.field "variant_id" (Json.Decoder.identifier_toJson unit.variant)))
    (.field "state" unit.state.decode_name)
  exact writes.decode (by simp) "struct InventoryUnit" false

namespace ShipmentRate

def plain (rate : ShipmentRate) : ShipmentRate := { rate with cost := rate.cost.plainZero }

theorem decode_toJson (rate : ShipmentRate) : decode rate.toJson = .ok rate.plain := by
  have writes : layout.Writes [("shipping_method_id", rate.method.toJson), ("name", .string rate.name),
      ("cost", rate.cost.toJson), ("selected", .boolean rate.selected)] rate.plain :=
    .seq (.seq (.seq (.seq (.pure ShipmentRate.mk)
      (.field "shipping_method_id" (Json.Decoder.identifier_toJson rate.method)))
      (.field "name" rfl))
      (.field "cost" (Json.Decoder.decimal_toJson rate.cost)))
      (.field "selected" rfl)
  exact writes.decode (by simp) "struct ShipmentRate" false

/-- The same rate, with the same number for its cost. -/
structure Same (first second : ShipmentRate) : Prop where
  method : second.method = first.method
  name : second.name = first.name
  cost : second.cost.value = first.cost.value
  selected : second.selected = first.selected

end ShipmentRate

namespace Shipment

/-- The same shipment, with the same numbers for the costs of its rates. -/
structure Same (first second : Shipment) : Prop where
  order : second.order = first.order
  location : second.location = first.location
  units : second.units = first.units
  rates : List.Forall₂ ShipmentRate.Same first.rates second.rates

theorem decode_toJson (shipment : Shipment) : decode shipment.toJson =
    .ok { shipment with rates := shipment.rates.map ShipmentRate.plain } := by
  have units := Json.Decoder.list_ofList InventoryUnit.decode_toJson shipment.units
  rw [List.map_id'] at units
  have writes : layout.Writes [("order_id", shipment.order.toJson),
      ("stock_location_id", shipment.location.toJson),
      ("inventory_units", .ofList InventoryUnit.toJson shipment.units),
      ("shipping_rates", .ofList ShipmentRate.toJson shipment.rates)]
      { shipment with rates := shipment.rates.map ShipmentRate.plain } :=
    .seq (.seq (.seq (.seq (.pure Shipment.mk)
      (.field "order_id" (Json.Decoder.identifier_toJson shipment.order)))
      (.field "stock_location_id" (Json.Decoder.identifier_toJson shipment.location)))
      (.field "inventory_units" units))
      (.field "shipping_rates" (Json.Decoder.list_ofList ShipmentRate.decode_toJson shipment.rates))
  exact writes.decode (by simp) "struct Shipment" false

theorem exists_same (shipment : Shipment) :
    ∃ again, decode shipment.toJson = .ok again ∧ shipment.Same again := by
  refine ⟨_, shipment.decode_toJson, rfl, rfl, rfl, ?_⟩
  rw [List.forall₂_map_right_iff, List.forall₂_same]
  intro rate _
  exact ⟨rfl, rfl, rate.cost.value_plainZero, rfl⟩

end Shipment

/-! The hand-over. -/

/-- The units of an item, as many as it counts. -/
structure Content.Fills (content : Content) (block : List InventoryUnit) : Prop where
  length : block.length = content.quantity.count
  variant : ∀ unit ∈ block, unit.variant = content.variant.id
  state : ∀ unit ∈ block, unit.state = content.state

structure Rate.Recorded (rate : Rate) (record : ShipmentRate) : Prop where
  method : record.method = rate.method.id
  name : record.name = rate.method.name
  cost : record.cost = rate.cost
  selected : record.selected = rate.selected

namespace Package

/-- A shipment with all of a package and nothing else. -/
structure HandsOver (package : Package) (shipment : Shipment) : Prop where
  order : shipment.order = package.order.id
  location : shipment.location = package.location.id
  blocks : ∃ blocks, shipment.units = blocks.flatten ∧
    List.Forall₂ Content.Fills package.contents blocks
  count : ∀ variant state,
    shipment.units.count ⟨variant, state⟩ = package.units variant state
  inState : ∀ state, shipment.unitCount state = package.quantity (some state)
  length : shipment.units.length = package.quantity none
  rates : List.Forall₂ Rate.Recorded package.rates shipment.rates
  selected : shipment.selectedRate? = package.selectedRate?.map Rate.record

/-- A package is handed over as a shipment with one unit for each that it holds and a record of
each of its rates, and the shipment is read back from storage as it was. -/
theorem shipment_handsOver (package : Package) : package.HandsOver package.shipment ∧
    ∃ again, Shipment.decode package.shipment.toJson = .ok again ∧ package.shipment.Same again := by
  refine ⟨⟨rfl, rfl, ⟨package.contents.map Content.units, rfl, ?_⟩, package.shipment_count,
    package.shipment_unitCount, package.shipment_length, ?_, package.shipment_selectedRate?⟩,
    package.shipment.exists_same⟩
  · rw [List.forall₂_map_right_iff, List.forall₂_same]
    intro content _
    refine ⟨List.length_replicate, ?_, ?_⟩
    · intro unit member
      rw [List.eq_of_mem_replicate member]
    · intro unit member
      rw [List.eq_of_mem_replicate member]
  · rw [shipment, List.forall₂_map_right_iff, List.forall₂_same]
    intro rate _
    exact ⟨rfl, rfl, rfl, rfl⟩

end Package
end Fulfilment
