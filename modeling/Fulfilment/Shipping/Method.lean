import Fulfilment.Shipping.Calculator
import Fulfilment.Shipping.Zone

/-! Shipping methods: ways to get a package to a customer. -/
namespace Fulfilment

/-- Who is offered a method. -/
inductive Audience
  | both | frontEnd | backEnd
deriving DecidableEq

namespace Audience

def names : List (String × Audience) :=
  [("both", both), ("front_end", frontEnd), ("back_end", backEnd)]

def decode : Json.Decoder Audience := .oneOf names

def name : Audience → String
  | both => "both"
  | frontEnd => "front_end"
  | backEnd => "back_end"

end Audience

structure ShippingMethod where
  id : ShippingMethodId
  name : String
  audience : Audience
  /-- Whether there is anything to deliver to; methods of collection need no address. -/
  requiresAddress : Bool
  /-- The zones it is limited to; without any it goes everywhere. -/
  zones : List Zone
  /-- The shipping categories that it can carry. -/
  categories : List ShippingCategoryId
  tags : List String
  calculator : Calculator

namespace ShippingMethod

def offeredToCustomers (method : ShippingMethod) : Bool := method.audience != .backEnd

def serves (method : ShippingMethod) (address : Option Address) : Bool :=
  !method.requiresAddress ||
    address.any fun actual => method.zones.isEmpty || method.zones.any (·.covers actual)

def carries (method : ShippingMethod) (categories : List ShippingCategoryId) : Bool :=
  categories.all fun category => method.categories.contains category

end ShippingMethod
end Fulfilment
