import Fulfilment.Decimal.Arithmetic
import Fulfilment.Shipping.Tariff.Basic

/-! A fixed amount for each unit. -/
namespace Fulfilment.PerItem

structure Preferences where
  amount : Decimal
  currency : Option Currency
deriving DecidableEq

/-- The amount times the number of units, with the fraction digits of the amount. -/
def cost? (p : Preferences) (quantity : Nat) : Option Decimal :=
  (Decimal.ofNat? quantity).bind p.amount.mul?

def tariff : Tariff Preferences where
  kind := "per_item"
  title := "struct PerItemPreferences"
  layout := Preferences.mk <$> .required "amount" .decimal <*> Tariff.currencyField
  toJson p := .ofMembers [("amount", p.amount.toJson), ("currency", Tariff.currencyJson p.currency)]
  amounts p := [("amount", p.amount)]
  currency := Preferences.currency
  available _ _ := true
  compute p parcel := (Tariff.orOverflow .cost (cost? p parcel.quantity)).map some

end Fulfilment.PerItem
