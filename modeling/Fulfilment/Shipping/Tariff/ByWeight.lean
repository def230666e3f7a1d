import Fulfilment.Decimal.Arithmetic
import Fulfilment.Shipping.Tariff.Basic

/-! An amount for each unit of weight, rounded to cents, perhaps up to a weight that
cannot be carried. -/
namespace Fulfilment.ByWeight

structure Preferences where
  perUnit : Decimal
  /-- Heavier parcels cannot be carried. -/
  maxWeight : Option Decimal
  currency : Option Currency
deriving DecidableEq

/-- A weight that needs too many digits is over every limit. -/
def carries (p : Preferences) (weight : Option Decimal) : Bool :=
  p.maxWeight.all fun limit => weight.any fun actual => actual.atMost limit

def cost? (p : Preferences) (weight : Decimal) : Option Decimal :=
  (weight.mul? p.perUnit).map Decimal.roundCents

def tariff : Tariff Preferences where
  kind := "weight"
  title := "struct WeightPreferences"
  layout := Preferences.mk <$> .required "per_unit" .decimal <*>
    .defaulted "max_weight" (.nullable .decimal) none <*> Tariff.currencyField
  toJson p :=
    .ofMembers [("per_unit", p.perUnit.toJson), ("max_weight", .ofOption Decimal.toJson p.maxWeight),
      ("currency", Tariff.currencyJson p.currency)]
  amounts p := ("per_unit", p.perUnit) :: p.maxWeight.toList.map ("max_weight", ·)
  currency := Preferences.currency
  available p parcel := carries p parcel.weight
  compute p parcel := do
    let weight ← Tariff.orOverflow .weight parcel.weight
    if weight.isZero then return none
    let cost ← Tariff.orOverflow .cost (cost? p weight)
    return some cost

end Fulfilment.ByWeight
