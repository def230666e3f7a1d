import Fulfilment.Shipping.Calculator

/-! Tariffs: the kinds of calculators that come with the marketplace.

A tariff is described by the layout of its preferences, the amounts among them that
may not be negative, and what it computes from accepted preferences. -/
namespace Fulfilment

structure Tariff (P : Type) where
  kind : String
  /-- The name of the preferences in messages. -/
  title : String
  layout : Json.Layout P
  toJson : P → Json.Value
  /-- The amounts that may not be negative, in the order in which they are checked. -/
  amounts : P → List (String × Decimal)
  currency : P → Option Currency
  available : P → Parcel → Bool
  compute : P → Parcel → Except ComputeFault (Option Decimal)

namespace Tariff

variable {P : Type}

/-- Preferences that were stored as nothing have no members. -/
def orEmpty : Json.Value → Json.Value
  | .null => .object []
  | v => v

def decode (tariff : Tariff P) (stored : Json.Value) : Except Json.DecodeError P :=
  tariff.layout.decode tariff.title true (orEmpty stored)

def firstNegative? (amounts : List (String × Decimal)) : Option (String × Decimal) :=
  amounts.find? fun amount => amount.2.less .zero

def accept (tariff : Tariff P) (stored : Json.Value) : Except PreferenceFault P :=
  match tariff.decode stored with
  | .error reason => .error (.undecodable reason)
  | .ok preferences =>
    match firstNegative? (tariff.amounts preferences) with
    | some (field, value) => .error (.negative field value)
    | none => .ok preferences

def calculator (tariff : Tariff P) (preferences : P) : Calculator where
  kind := tariff.kind
  preferences := tariff.toJson preferences
  currency := tariff.currency preferences
  available parcel := .ok (tariff.available preferences parcel)
  compute parcel := (tariff.compute preferences parcel).mapError (.computeFailed tariff.kind)

def build (tariff : Tariff P) (stored : Json.Value) : Except CalculatorError Calculator :=
  match tariff.accept stored with
  | .error fault => .error (.invalidPreferences tariff.kind fault)
  | .ok preferences => .ok (tariff.calculator preferences)

/-- The value of an operation that may need too many digits for an amount. -/
def orOverflow {α : Type} (amount : Amount) : Option α → Except ComputeFault α
  | some value => .ok value
  | none => .error (.overflow amount)

/-- The optional currency that every tariff has as its last preference. -/
def currencyField : Json.Layout (Option Currency) :=
  .defaulted "currency" (.nullable .currency) none

def currencyJson (currency : Option Currency) : Json.Value := .ofOption Currency.toJson currency

end Tariff
end Fulfilment
