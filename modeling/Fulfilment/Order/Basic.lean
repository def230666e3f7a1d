import Fulfilment.Keyed
import Fulfilment.Order.Variant
import Fulfilment.Shipping.Method
import Fulfilment.Shipping.TagRule

/-! Orders, the distributors they are placed with, and what they request in total.

Lines for one variant make one request, placed where the variant first appears, with
the record of its first line; their quantities are added up as counts of units. -/
namespace Fulfilment

/-- The enterprise that sells, with the methods it ships by and the rules on who sees them. -/
structure Distributor where
  id : DistributorId
  name : String
  methods : List ShippingMethod
  tagRules : List TagRule

structure LineItem where
  variant : Variant
  quantity : Units
  quantity_pos : 0 < quantity.count

def LineItem.make (variant : Variant) (quantity : Units) : Except InputError LineItem :=
  if positive : 0 < quantity.count then .ok ⟨variant, quantity, positive⟩ else .error .emptyLine

structure Order where
  id : OrderId
  distributor : Distributor
  currency : Option Currency
  shipAddress : Option Address
  customerTags : List String
  lines : List LineItem

/-- A variant and the number of its units that an order asks for. -/
structure Request where
  variant : Variant
  quantity : Units
deriving DecidableEq

/-- Requests in the order in which their variants first appear, and the place of each
variant among them. -/
structure Merging where
  places : List (VariantId × Nat)
  requests : List Request

namespace Merging

def empty : Merging := ⟨[], []⟩

def place? (merging : Merging) (variant : VariantId) : Option Nat :=
  (Keyed.find? Prod.fst variant merging.places).map Prod.snd

/-- Adds a line to the request at the place of its variant, or as a new request at the
end, which becomes the place of its variant. -/
def addLine (merging : Merging) (line : LineItem) : Merging :=
  match merging.place? line.variant.id with
  | some place =>
    { merging with requests := merging.requests.modify place fun request =>
        { request with quantity := request.quantity + line.quantity } }
  | none =>
    ⟨Keyed.put Prod.fst (line.variant.id, merging.requests.length) merging.places,
      merging.requests ++ [⟨line.variant, line.quantity⟩]⟩

def ofLines (lines : List LineItem) : Merging := lines.foldl addLine empty

end Merging

namespace Order

def requests (order : Order) : List Request := (Merging.ofLines order.lines).requests

/-- The requested variants, each once. -/
def variants (order : Order) : List VariantId := order.requests.map fun request => request.variant.id

end Order
end Fulfilment
