import Fulfilment.Shipping.Tariff.Basic

/-! The same cost for every parcel. -/
namespace Fulfilment.FlatRate

structure Preferences where
  amount : Decimal
  currency : Option Currency
deriving DecidableEq

def tariff : Tariff Preferences where
  kind := "flat_rate"
  title := "struct FlatRatePreferences"
  layout := Preferences.mk <$> .required "amount" .decimal <*> Tariff.currencyField
  toJson p := .ofMembers [("amount", p.amount.toJson), ("currency", Tariff.currencyJson p.currency)]
  amounts p := [("amount", p.amount)]
  currency := Preferences.currency
  available _ _ := true
  compute p _ := .ok (some p.amount)

end Fulfilment.FlatRate
