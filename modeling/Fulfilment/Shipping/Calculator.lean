import Fulfilment.Json.Decode
import Fulfilment.Json.Encode
import Fulfilment.Json.Layout

/-! Calculators, which say whether a shipping method can carry a parcel and at what cost.

A calculator sees a parcel only by its number of units, its weight, its item total and
its currency. It may decline to quote, which is no failure. -/
namespace Fulfilment

/-- What a calculator knows of a package. A total is missing when it needs too many digits. -/
structure Parcel where
  quantity : Nat
  weight : Option Decimal
  itemTotal : Option Decimal
  currency : Currency

/-- The amounts of a computation that may need too many digits. -/
inductive Amount
  | cost | itemTotal | weight
deriving DecidableEq

def Amount.name : Amount → String
  | cost => "cost"
  | itemTotal => "item total"
  | weight => "weight"

inductive PreferenceFault
  | undecodable (reason : Json.DecodeError)
  | negative (field : String) (value : Decimal)

def PreferenceFault.message : PreferenceFault → String
  | undecodable reason => reason.message
  | negative field value => field ++ " cannot be negative (got " ++ value.text ++ ")"

inductive ComputeFault
  | overflow (amount : Amount)
  | negativeCost (cost : Decimal) (method : String)
  /-- A reason of a calculator of another maker. -/
  | other (reason : String)
deriving DecidableEq

def ComputeFault.message : ComputeFault → String
  | overflow amount => amount.name ++ " overflows a decimal"
  | negativeCost cost method => "negative cost " ++ cost.text ++ " for " ++ method
  | other reason => reason

inductive CalculatorError
  | unknownKind (kind : String)
  | duplicateKind (kind : String)
  | invalidPreferences (kind : String) (fault : PreferenceFault)
  | computeFailed (kind : String) (fault : ComputeFault)

def CalculatorError.message : CalculatorError → String
  | unknownKind kind => "unknown calculator kind: " ++ kind
  | duplicateKind kind => "calculator kind already registered: " ++ kind
  | invalidPreferences kind fault => "invalid preferences for " ++ kind ++ ": " ++ fault.message
  | computeFailed kind fault => kind ++ " failed to compute: " ++ fault.message

structure Calculator where
  kind : String
  /-- The settings as they would be stored. -/
  preferences : Json.Value
  /-- The only currency the calculator quotes in, if there is one. -/
  currency : Option Currency
  available : Parcel → Except CalculatorError Bool
  /-- The cost, or nothing where the calculator declines. -/
  compute : Parcel → Except CalculatorError (Option Decimal)

namespace Calculator

/-- The stored form of a calculator. -/
structure Spec where
  kind : String
  preferences : Json.Value

namespace Spec

def layout : Json.Layout Spec :=
  Spec.mk <$> .required "kind" .string <*> .defaulted "preferences" .any .null

def decode : Json.Decoder Spec := layout.decode "struct CalculatorSpec" false

def toJson (spec : Spec) : Json.Value :=
  .ofMembers [("kind", .string spec.kind), ("preferences", spec.preferences)]

end Spec

/-- A calculator bound to no currency or to that of the parcel. -/
def quotesIn (calculator : Calculator) (currency : Currency) : Bool :=
  calculator.currency.all fun own => own == currency

end Calculator
end Fulfilment
