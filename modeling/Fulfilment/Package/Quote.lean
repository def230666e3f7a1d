import Fulfilment.Package.Basic

/-! Pricing a package.

All candidate methods are first asked whether they can carry the package; only then are
costs computed, in the same order. The first failure of either round is the answer. A
method whose calculator declines is left out. The rates stand by rising cost, equal
costs in the order of the distributor. -/
namespace Fulfilment.Package

/-- The methods that are available, go to the address of the order and quote in the
currency of the package. -/
def eligible (package : Package) :
    List ShippingMethod → Except CalculatorError (List ShippingMethod)
  | [] => .ok []
  | method :: rest => do
    let available ← method.calculator.available package.parcel
    let others ← package.eligible rest
    if available && method.serves package.order.shipAddress &&
        method.calculator.quotesIn package.currency then
      return method :: others
    else return others

/-- The cost of a method, which may not be below zero. -/
def cost? (package : Package) (method : ShippingMethod) :
    Except CalculatorError (Option Decimal) := do
  match ← method.calculator.compute package.parcel with
  | none => return none
  | some cost =>
    if cost.less .zero then
      .error (.computeFailed method.calculator.kind (.negativeCost cost method.name))
    else return some cost

def priced (package : Package) : List ShippingMethod → Except CalculatorError (List Rate)
  | [] => .ok []
  | method :: rest => do
    let cost ← package.cost? method
    let others ← package.priced rest
    return (cost.map fun cost => (⟨method, cost, false⟩ : Rate)).toList ++ others

def byCost (rates : List Rate) : List Rate := rates.mergeSort fun a b => a.cost.atMost b.cost

def selectFirst (property : Rate → Bool) : List Rate → List Rate
  | [] => []
  | rate :: rest =>
    if property rate then { rate with selected := true } :: rest
    else rate :: selectFirst property rest

/-- At checkout the cheapest rate that customers may choose is selected, otherwise the
cheapest of all. -/
def select (checkout : Bool) (rates : List Rate) : List Rate :=
  selectFirst (fun rate => !checkout || rate.method.offeredToCustomers) rates

def quote (package : Package) (checkout applyTags : Bool) :
    Except CalculatorError (List Rate) := do
  let methods ← package.eligible (package.candidates applyTags)
  let rates ← package.priced methods
  return select checkout (byCost rates)

end Fulfilment.Package
