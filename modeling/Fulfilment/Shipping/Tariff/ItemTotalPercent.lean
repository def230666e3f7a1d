import Fulfilment.Decimal.Arithmetic
import Fulfilment.Shipping.Tariff.Basic

/-! A percentage of the item total of a parcel, rounded to cents. -/
namespace Fulfilment.ItemTotalPercent

structure Preferences where
  flatPercent : Decimal
  currency : Option Currency
deriving DecidableEq

def cost? (p : Preferences) (itemTotal : Decimal) : Option Decimal :=
  (itemTotal.mul? p.flatPercent).map fun product => product.hundredth.roundCents

def tariff : Tariff Preferences where
  kind := "flat_percent_item_total"
  title := "struct FlatPercentItemTotalPreferences"
  layout := Preferences.mk <$> .required "flat_percent" .decimal <*> Tariff.currencyField
  toJson p :=
    .ofMembers [("flat_percent", p.flatPercent.toJson), ("currency", Tariff.currencyJson p.currency)]
  amounts p := [("flat_percent", p.flatPercent)]
  currency := Preferences.currency
  available _ _ := true
  compute p parcel := do
    let itemTotal ← Tariff.orOverflow .itemTotal parcel.itemTotal
    let cost ← Tariff.orOverflow .cost (cost? p itemTotal)
    return some cost

end Fulfilment.ItemTotalPercent
