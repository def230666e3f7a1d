import Fulfilment.Decimal.Arithmetic
import Fulfilment.Order.Basic
import Fulfilment.Stock.Location

/-! Packages: what one stock location sends for an order.

The contents hold one item for a variant in a state, as long as they are changed only
by the operations of this module. -/
namespace Fulfilment

/-- Whether units are there or promised. -/
inductive SupplyState
  | onHand | backordered
deriving DecidableEq

namespace SupplyState

def names : List (String × SupplyState) := [("on_hand", onHand), ("backordered", backordered)]

def decode : Json.Decoder SupplyState := .oneOf names

def name : SupplyState → String
  | onHand => "on_hand"
  | backordered => "backordered"

end SupplyState

def Decimal.ofUnits (units : Units) : Decimal :=
  ⟨false, units.count, 0, Nat.lt_of_le_of_lt units.count_le (by decide), Decimal.zero.scale_le⟩

structure Content where
  variant : Variant
  quantity : Units
  state : SupplyState
deriving DecidableEq

namespace Content

def weight? (content : Content) : Option Decimal :=
  content.variant.weight.mul? (.ofUnits content.quantity)

def amount? (content : Content) : Option Decimal :=
  content.variant.price.mul? (.ofUnits content.quantity)

def holds (variant : VariantId) (state : SupplyState) (content : Content) : Bool :=
  content.variant.id == variant && content.state == state

/-- Adds units to the item that holds their variant in their state, or as a new item at
the end. -/
def add (variant : Variant) (quantity : Units) (state : SupplyState) : List Content → List Content
  | [] => [⟨variant, quantity, state⟩]
  | content :: rest =>
    if content.holds variant.id state then
      { content with quantity := content.quantity + quantity } :: rest
    else content :: add variant quantity state rest

end Content

structure Rate where
  method : ShippingMethod
  cost : Decimal
  selected : Bool

structure Package where
  order : Order
  location : StockLocation
  currency : Currency
  contents : List Content
  rates : List Rate

namespace Package

def empty (order : Order) (location : StockLocation) (currency : Currency) : Package :=
  ⟨order, location, currency, [], []⟩

/-- Adds units; adding none changes nothing. -/
def add (package : Package) (variant : Variant) (quantity : Units) (state : SupplyState) : Package :=
  if quantity.count = 0 then package
  else { package with contents := Content.add variant quantity state package.contents }

def index? (package : Package) (variant : VariantId) (state : SupplyState) : Option Nat :=
  package.contents.findIdx? (Content.holds variant state)

def item? (package : Package) (index : Nat) : Option Content := package.contents[index]?

/-- Sets the quantity of an item; there is none beyond the contents. -/
def setQuantity (package : Package) (index : Nat) (quantity : Units) : Package :=
  { package with
    contents := package.contents.modify index fun content => { content with quantity } }

def removeEmpty (package : Package) : Package :=
  { package with contents := package.contents.filter fun content => 0 < content.quantity.count }

/-- The units of all items, or of those in one state. -/
def quantity (package : Package) (state : Option SupplyState) : Nat :=
  (package.contents.filter fun content => state.all fun only => content.state == only).foldr
    (fun content units => content.quantity.count + units) 0

def isEmpty (package : Package) : Bool :=
  package.contents.all fun content => content.quantity.count == 0

def inState (package : Package) (state : SupplyState) : List Content :=
  package.contents.filter fun content => content.state == state

def weight? (package : Package) : Option Decimal :=
  Decimal.sum? (package.contents.map Content.weight?)

def itemTotal? (package : Package) : Option Decimal :=
  Decimal.sum? (package.contents.map Content.amount?)

/-- What calculators see of the package. -/
def parcel (package : Package) : Parcel where
  quantity := package.quantity none
  weight := package.weight?
  itemTotal := package.itemTotal?
  currency := package.currency

def categories (package : Package) : List ShippingCategoryId :=
  package.contents.map fun content => content.variant.category

/-- The distributor's methods that carry everything in the package and, where tags count,
are not hidden from the customer. -/
def candidates (package : Package) (applyTags : Bool) : List ShippingMethod :=
  let distributor := package.order.distributor
  let able := distributor.methods.filter fun method => method.carries package.categories
  if applyTags then
    TagRule.keep distributor.tagRules package.order.customerTags ShippingMethod.tags able
  else able

def setRates (package : Package) (rates : List Rate) : Package := { package with rates }

def selectedRate? (package : Package) : Option Rate := package.rates.find? (·.selected)

end Package
end Fulfilment
