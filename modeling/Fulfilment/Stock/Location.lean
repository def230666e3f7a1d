import Fulfilment.Keyed
import Fulfilment.Stock.Item

/-! Stock locations and the overrides of distributors.

A location holds at most one record for a variant, and a collection of overrides at
most one for a distributor and a variant; the last one given counts. -/
namespace Fulfilment

structure StockLocation where
  id : StockLocationId
  name : String
  active : Bool
  items : List StockItem

namespace StockLocation

def setItem (location : StockLocation) (item : StockItem) : StockLocation :=
  { location with items := Keyed.put StockItem.variant item location.items }

def item? (location : StockLocation) (variant : VariantId) : Option StockItem :=
  Keyed.find? StockItem.variant variant location.items

/-- Whether the location holds a record for any of the variants, whatever its count. -/
def holdsAny (location : StockLocation) (variants : List VariantId) : Bool :=
  variants.any fun variant => (location.item? variant).isSome

/-- What the location can supply, seen through an override if there is one. -/
def fillStatus (location : StockLocation) (variant : VariantId) (quantity : Units)
    (override : Option StockOverride) : FillStatus :=
  match location.item? variant with
  | none => .nothing
  | some item => (override.elim item item.overriddenBy).fill quantity

end StockLocation

/-- Overrides of stock, at most one for a distributor and a variant. -/
structure StockOverrides where
  entries : List StockOverride

namespace StockOverrides

def key (override : StockOverride) : DistributorId × VariantId :=
  (override.distributor, override.variant)

def empty : StockOverrides := ⟨[]⟩

def find? (overrides : StockOverrides) (distributor : DistributorId) (variant : VariantId) :
    Option StockOverride :=
  Keyed.find? key (distributor, variant) overrides.entries

/-- Adds an override in place of the one for the same distributor and variant. -/
def insert (overrides : StockOverrides) (override : StockOverride) : StockOverrides :=
  ⟨Keyed.put key override overrides.entries⟩

def ofList (given : List StockOverride) : StockOverrides := given.foldl insert empty

def size (overrides : StockOverrides) : Nat := overrides.entries.length

end StockOverrides
end Fulfilment
