import Fulfilment.Keyed
import Fulfilment.Shipping.Tariff.ByWeight
import Fulfilment.Shipping.Tariff.FlatRate
import Fulfilment.Shipping.Tariff.FlexiRate
import Fulfilment.Shipping.Tariff.ItemTotalPercent
import Fulfilment.Shipping.Tariff.PerItem
import Fulfilment.Shipping.Tariff.PriceSack

/-! The kinds of calculators that a marketplace knows, each with what builds it.

A kind is registered once and for all: no later registration can take its name. -/
namespace Fulfilment

abbrev Calculator.Factory := Json.Value → Except CalculatorError Calculator

structure Registry where
  entries : List (String × Calculator.Factory)

namespace Registry

def empty : Registry := ⟨[]⟩

/-- The registry of the tariffs that come with the marketplace. -/
def builtIn : Registry :=
  ⟨[(FlatRate.tariff.kind, FlatRate.tariff.build), (PerItem.tariff.kind, PerItem.tariff.build),
    (ItemTotalPercent.tariff.kind, ItemTotalPercent.tariff.build),
    (FlexiRate.tariff.kind, FlexiRate.tariff.build), (PriceSack.tariff.kind, PriceSack.tariff.build),
    (ByWeight.tariff.kind, ByWeight.tariff.build)]⟩

def factory? (registry : Registry) (kind : String) : Option Calculator.Factory :=
  registry.entries.lookup kind

def contains (registry : Registry) (kind : String) : Bool := (registry.factory? kind).isSome

/-- Puts a factory under a kind, in place of the one that may be there. -/
def insert (registry : Registry) (kind : String) (factory : Calculator.Factory) : Registry :=
  ⟨Keyed.put Prod.fst (kind, factory) registry.entries⟩

def register (registry : Registry) (kind : String) (factory : Calculator.Factory) :
    Except CalculatorError Registry :=
  if registry.contains kind then .error (.duplicateKind kind)
  else .ok (registry.insert kind factory)

def kinds (registry : Registry) : List String :=
  (registry.entries.map Prod.fst).mergeSort fun a b => decide (a ≤ b)

def build (registry : Registry) (kind : String) (preferences : Json.Value) :
    Except CalculatorError Calculator :=
  match registry.factory? kind with
  | some factory => factory preferences
  | none => .error (.unknownKind kind)

def buildSpec (registry : Registry) (spec : Calculator.Spec) : Except CalculatorError Calculator :=
  registry.build spec.kind spec.preferences

def describe (registry : Registry) : String :=
  "CalculatorRegistry \x7b kinds: [" ++ ", ".intercalate (registry.kinds.map Text.quote) ++ "] \x7d"

end Registry
end Fulfilment
