import Fulfilment.Package.Basic

/-! Shipments: packages as records for storage, with one entry for each unit. -/
namespace Fulfilment

structure InventoryUnit where
  variant : VariantId
  state : SupplyState
deriving DecidableEq

structure ShipmentRate where
  method : ShippingMethodId
  name : String
  cost : Decimal
  selected : Bool
deriving DecidableEq

structure Shipment where
  order : OrderId
  location : StockLocationId
  units : List InventoryUnit
  rates : List ShipmentRate
deriving DecidableEq

namespace InventoryUnit

def layout : Json.Layout InventoryUnit :=
  InventoryUnit.mk <$> .required "variant_id" .identifier <*> .required "state" SupplyState.decode

def decode : Json.Decoder InventoryUnit := layout.decode "struct InventoryUnit" false

def toJson (unit : InventoryUnit) : Json.Value :=
  .ofMembers [("variant_id", unit.variant.toJson), ("state", .string unit.state.name)]

end InventoryUnit

namespace ShipmentRate

def layout : Json.Layout ShipmentRate :=
  ShipmentRate.mk <$> .required "shipping_method_id" .identifier <*> .required "name" .string <*>
    .required "cost" .decimal <*> .required "selected" .boolean

def decode : Json.Decoder ShipmentRate := layout.decode "struct ShipmentRate" false

def toJson (rate : ShipmentRate) : Json.Value :=
  .ofMembers [("shipping_method_id", rate.method.toJson), ("name", .string rate.name),
    ("cost", rate.cost.toJson), ("selected", .boolean rate.selected)]

/-- Rates that differ at most in how their cost is written. -/
def agrees (a b : ShipmentRate) : Bool :=
  a.method == b.method && a.name == b.name && a.cost.atoms == b.cost.atoms &&
    a.selected == b.selected

end ShipmentRate

namespace Shipment

def selectedRate? (shipment : Shipment) : Option ShipmentRate := shipment.rates.find? (·.selected)

def unitCount (shipment : Shipment) (state : SupplyState) : Nat :=
  (shipment.units.filter fun unit => unit.state == state).length

def layout : Json.Layout Shipment :=
  Shipment.mk <$> .required "order_id" .identifier <*>
    .required "stock_location_id" .identifier <*>
    .required "inventory_units" (.list InventoryUnit.decode) <*>
    .required "shipping_rates" (.list ShipmentRate.decode)

def decode : Json.Decoder Shipment := layout.decode "struct Shipment" false

def toJson (shipment : Shipment) : Json.Value :=
  .ofMembers [("order_id", shipment.order.toJson),
    ("stock_location_id", shipment.location.toJson),
    ("inventory_units", .ofList InventoryUnit.toJson shipment.units),
    ("shipping_rates", .ofList ShipmentRate.toJson shipment.rates)]

/-- Shipments that differ at most in how costs are written. -/
def agrees (a b : Shipment) : Bool :=
  a.order == b.order && a.location == b.location && a.units == b.units &&
    a.rates.length == b.rates.length &&
    (a.rates.zip b.rates).all fun pair => pair.1.agrees pair.2

end Shipment

/-- One entry for each unit of a content item. -/
def Content.units (content : Content) : List InventoryUnit :=
  List.replicate content.quantity.count ⟨content.variant.id, content.state⟩

def Rate.record (rate : Rate) : ShipmentRate :=
  ⟨rate.method.id, rate.method.name, rate.cost, rate.selected⟩

def Package.shipment (package : Package) : Shipment where
  order := package.order.id
  location := package.location.id
  units := package.contents.flatMap Content.units
  rates := package.rates.map Rate.record

end Fulfilment
