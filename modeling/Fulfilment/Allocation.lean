import Fulfilment.Package.Offer
import Fulfilment.Package.Quote
import Fulfilment.Package.Reconcile
import Fulfilment.Settings

/-! Allocating an order: splitting it over stock locations and pricing the packages.

The active locations with a record for some requested variant each offer a package,
the packages are reconciled with the order, and each that is left is priced. Running
short of stock is no failure; only a calculator can fail. -/
namespace Fulfilment

structure Allocation where
  packages : List Package
  shortfalls : List Shortfall

namespace Allocation

/-- Whether every requested unit is in a package. -/
def isComplete (allocation : Allocation) : Bool := allocation.shortfalls.isEmpty

/-- The active locations in the order in which they are visited. -/
def visited (settings : Settings) (locations : List StockLocation) : List StockLocation :=
  let active := locations.filter (·.active)
  match settings.visitingOrder with
  | .byId => active.mergeSort fun a b => decide (a.id ≤ b.id)
  | .asGiven => active

/-- The packages that the visited locations offer, each for itself. -/
def offers (order : Order) (locations : List StockLocation) (overrides : Option StockOverrides)
    (settings : Settings) : List Package :=
  let used := if settings.useOverrides then overrides else none
  ((visited settings locations).filter (·.holdsAny order.variants)).map fun location =>
    Package.offer order location used settings.defaultCurrency

def priceAll (settings : Settings) : List Package → Except CalculatorError (List Package)
  | [] => .ok []
  | package :: rest => do
    let rates ← package.quote settings.checkout settings.applyTags
    let others ← priceAll settings rest
    return package.setRates rates :: others

end Allocation

def allocate (order : Order) (locations : List StockLocation) (overrides : Option StockOverrides)
    (settings : Settings) : Except CalculatorError Allocation := do
  let reconciled := Reconciliation.ofPackages order.requests
    (Allocation.offers order locations overrides settings)
  let packages ← Allocation.priceAll settings reconciled.packages
  return ⟨packages, reconciled.shortfalls⟩

end Fulfilment
