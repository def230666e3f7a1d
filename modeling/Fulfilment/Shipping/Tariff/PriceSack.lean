import Fulfilment.Shipping.Tariff.Basic

/-! A normal cost below an item total and a discounted one from that total on. -/
namespace Fulfilment.PriceSack

structure Preferences where
  minimalAmount : Decimal
  normalAmount : Decimal
  discountAmount : Decimal
  currency : Option Currency
deriving DecidableEq

def tariff : Tariff Preferences where
  kind := "price_sack"
  title := "struct PriceSackPreferences"
  layout := Preferences.mk <$> .required "minimal_amount" .decimal <*>
    .required "normal_amount" .decimal <*> .required "discount_amount" .decimal <*>
    Tariff.currencyField
  toJson p :=
    .ofMembers [("minimal_amount", p.minimalAmount.toJson), ("normal_amount", p.normalAmount.toJson),
      ("discount_amount", p.discountAmount.toJson), ("currency", Tariff.currencyJson p.currency)]
  amounts p := [("normal_amount", p.normalAmount), ("discount_amount", p.discountAmount)]
  currency := Preferences.currency
  available _ _ := true
  compute p parcel := do
    let itemTotal ← Tariff.orOverflow .itemTotal parcel.itemTotal
    return some (if itemTotal.less p.minimalAmount then p.normalAmount else p.discountAmount)

end Fulfilment.PriceSack
