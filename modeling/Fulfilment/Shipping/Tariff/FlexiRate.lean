import Fulfilment.Decimal.Arithmetic
import Fulfilment.Shipping.Tariff.Basic

/-! One amount for the first unit and another for each further one, up to a number of
units after which the rest is free. -/
namespace Fulfilment.FlexiRate

structure Preferences where
  firstItem : Decimal
  additionalItem : Decimal
  /-- Units beyond this number are free; zero charges every unit. -/
  maxItems : Units
  currency : Option Currency
deriving DecidableEq

def charged (p : Preferences) (quantity : Nat) : Nat :=
  if p.maxItems.count = 0 then quantity else min quantity p.maxItems.count

def cost? (p : Preferences) (quantity : Nat) : Option Decimal :=
  match charged p quantity with
  | 0 => some .zero
  | further + 1 => do
    let factor ← Decimal.ofNat? further
    let additional ← p.additionalItem.mul? factor
    additional.add? p.firstItem

def tariff : Tariff Preferences where
  kind := "flexi_rate"
  title := "struct FlexiRatePreferences"
  layout := Preferences.mk <$> .defaulted "first_item" .decimal .zero <*>
    .defaulted "additional_item" .decimal .zero <*> .defaulted "max_items" .units .zero <*>
    Tariff.currencyField
  toJson p :=
    .ofMembers [("first_item", p.firstItem.toJson), ("additional_item", p.additionalItem.toJson),
      ("max_items", p.maxItems.toJson), ("currency", Tariff.currencyJson p.currency)]
  amounts p := [("first_item", p.firstItem), ("additional_item", p.additionalItem)]
  currency := Preferences.currency
  available _ _ := true
  compute p parcel := (Tariff.orOverflow .cost (cost? p parcel.quantity)).map some

end Fulfilment.FlexiRate
