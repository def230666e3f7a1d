import Fulfilment.Json.Encode
import Fulfilment.Json.Layout

/-! Settings of an allocation, and how named variables override their defaults.

A variable whose value does not read as a setting is ignored. -/
namespace Fulfilment

/-- The order in which stock locations are visited. -/
inductive VisitingOrder
  | byId | asGiven
deriving DecidableEq

namespace VisitingOrder

def names : List (String × VisitingOrder) := [("by_id", byId), ("as_given", asGiven)]

def decode : Json.Decoder VisitingOrder := .oneOf names

def name : VisitingOrder → String
  | byId => "by_id"
  | asGiven => "as_given"

/-- Blanks around a name do not matter. -/
def parse (s : String) : Except InputError VisitingOrder :=
  let trimmed := Text.trim s
  match names.lookup trimmed with
  | some order => .ok order
  | none => .error (.visitingOrder trimmed)

end VisitingOrder

structure Settings where
  /-- The currency of orders that name none. -/
  defaultCurrency : Currency
  /-- Whether rates are selected as for a customer at checkout. -/
  checkout : Bool
  /-- Whether tag rules hide shipping methods. -/
  applyTags : Bool
  visitingOrder : VisitingOrder
  useOverrides : Bool
deriving DecidableEq

namespace Settings

def default : Settings := ⟨.usd, true, true, .byId, true⟩

def layout : Json.Layout Settings :=
  Settings.mk <$> .defaulted "default_currency" .currency default.defaultCurrency <*>
    .defaulted "checkout" .boolean default.checkout <*>
    .defaulted "apply_tags" .boolean default.applyTags <*>
    .defaulted "location_order" VisitingOrder.decode default.visitingOrder <*>
    .defaulted "use_variant_overrides" .boolean default.useOverrides

def decode : Json.Decoder Settings := layout.decode "struct AllocationConfig" false

def toJson (settings : Settings) : Json.Value :=
  .ofMembers [("default_currency", settings.defaultCurrency.toJson),
    ("checkout", .boolean settings.checkout), ("apply_tags", .boolean settings.applyTags),
    ("location_order", .string settings.visitingOrder.name),
    ("use_variant_overrides", .boolean settings.useOverrides)]

/-! Variables. -/

def currencyVariable : String := "LARDER_DEFAULT_CURRENCY"
def checkoutVariable : String := "LARDER_CHECKOUT"
def tagsVariable : String := "LARDER_APPLY_TAGS"
def orderVariable : String := "LARDER_LOCATION_ORDER"
def overridesVariable : String := "LARDER_USE_VARIANT_OVERRIDES"

/-- A flag in words or as a digit, in any letter case and with blanks around it. -/
def flag? (s : String) : Option Bool :=
  let word := Text.lower (Text.trim s)
  if word ∈ ["1", "true", "yes", "on"] then some true
  else if word ∈ ["0", "false", "no", "off"] then some false
  else none

/-- The settings that a lookup of variables gives. -/
def ofLookup (lookup : String → Option String) : Settings where
  defaultCurrency :=
    ((lookup currencyVariable).bind fun s => (Currency.parse s).toOption).getD
      default.defaultCurrency
  checkout := ((lookup checkoutVariable).bind flag?).getD default.checkout
  applyTags := ((lookup tagsVariable).bind flag?).getD default.applyTags
  visitingOrder :=
    ((lookup orderVariable).bind fun s => (VisitingOrder.parse s).toOption).getD
      default.visitingOrder
  useOverrides := ((lookup overridesVariable).bind flag?).getD default.useOverrides

end Settings
end Fulfilment
