import Fulfilment.Package.Basic

/-! What one stock location, seen alone, could send for an order. -/
namespace Fulfilment.Package

/-- Adds what a location can supply of one request: the units on hand and then those
promised. A location without a record for the variant adds nothing. -/
def addOffer (overrides : Option StockOverrides) (package : Package) (request : Request) : Package :=
  let variant := request.variant
  match package.location.item? variant.id with
  | none => package
  | some _ =>
    let override := overrides.bind (·.find? package.order.distributor.id variant.id)
    let status := package.location.fillStatus variant.id request.quantity override
    (package.add variant status.onHand .onHand).add variant status.backordered .backordered

/-- The package that a location offers. Its currency is that of the order, or the fallback
for an order that names none. -/
def offer (order : Order) (location : StockLocation) (overrides : Option StockOverrides)
    (fallback : Currency) : Package :=
  order.requests.foldl (addOffer overrides) (empty order location (order.currency.getD fallback))

end Fulfilment.Package
