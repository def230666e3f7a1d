import Fulfilment.Proofs.Json.Spelling
import Fulfilment.Proofs.Package.Contents
import Fulfilment.Proofs.Shipping.Tariff
import Fulfilment.Shipping.Method

/-! Shipping methods in which places and currency codes are spelled in another way.

The plain form of a record drops what its spelling adds: countries and states are in small
letters, and a calculator has forgotten what it was built from. Other spellings of a record
have its plain form, and with plain forms a method goes to the same places. -/
namespace Fulfilment

theorem map_eq_of_rel {α β : Type} {R : α → α → Prop} {f : α → β} (agree : ∀ a b, R a b → f b = f a)
    {found again : Option α} (related : Option.Rel R found again) : again.map f = found.map f := by
  cases related with
  | none => rfl
  | some pair => exact congrArg some (agree _ _ pair)

/-! Calculators. -/

theorem Tariff.blind_currencyField : currencyField.Blind :=
  .field "currency" Json.Decoder.blind_currency.nullable

theorem Tariff.BuiltIn.blind {P : Type} {tariff : Tariff P} (builtIn : tariff.BuiltIn) :
    tariff.layout.Blind := by
  have currency := Tariff.blind_currencyField
  have amount (name : String) {absent ended : Option Decimal} :
      (Json.Layout.field name .decimal absent ended).Blind := .field name Json.Decoder.blind_decimal
  cases builtIn with
  | flatRate => exact .seq (.seq (.pure _) (amount "amount")) currency
  | perItem => exact .seq (.seq (.pure _) (amount "amount")) currency
  | itemTotalPercent => exact .seq (.seq (.pure _) (amount "flat_percent")) currency
  | flexiRate =>
    exact .seq (.seq (.seq (.seq (.pure _) (amount "first_item")) (amount "additional_item"))
      (.field "max_items" Json.Decoder.blind_units)) currency
  | priceSack =>
    exact .seq (.seq (.seq (.seq (.pure _) (amount "minimal_amount")) (amount "normal_amount"))
      (amount "discount_amount")) currency
  | byWeight =>
    exact .seq (.seq (.seq (.pure _) (amount "per_unit"))
      (.field "max_weight" Json.Decoder.blind_decimal.nullable)) currency

theorem Tariff.orEmpty_respelled {stored other : Json.Value} (respelled : stored.Respelled other) :
    (orEmpty stored).Respelled (orEmpty other) := by
  cases respelled with
  | refl => exact .refl _
  | object matched => exact .object matched
  | array matched => exact .array matched

/-- What the registry builds does not depend on how the codes in preferences are spelled. -/
theorem Registry.build_respelled {stored other : Json.Value} (respelled : stored.Respelled other)
    {kind : String} {calculator : Calculator} (built : builtIn.build kind stored = .ok calculator) :
    builtIn.build kind other = .ok calculator := by
  obtain ⟨P, tariff, member, rfl⟩ := Tariff.exists_builtIn built
  obtain ⟨p, accepted, made⟩ := (Tariff.built_ok member).mp built
  obtain ⟨read, nonneg⟩ := Tariff.accept_ok.mp accepted
  have reread := member.blind.decode (Tariff.orEmpty_respelled respelled) tariff.title true read
  exact (Tariff.built_ok member).mpr ⟨p, Tariff.accept_ok.mpr ⟨reread, nonneg⟩, made⟩

namespace Calculator

/-- A calculator in two spellings: the same, one that the registry builds from preferences with
other spellings of codes, or one of any maker bound to the currency of another spelling, whatever
it keeps as its preferences. -/
inductive Respelled : Calculator → Calculator → Prop
  | refl (calculator : Calculator) : Respelled calculator calculator
  | built {kind : String} {stored other : Json.Value} {first second : Calculator}
      (respelled : stored.Respelled other) (made : Registry.builtIn.build kind stored = .ok first)
      (remade : Registry.builtIn.build kind other = .ok second) : Respelled first second
  | bound (calculator : Calculator) {c d : Currency} (reread : c.Reread d)
      (preferences : Json.Value) : Respelled { calculator with currency := some c }
        { calculator with preferences := preferences, currency := some d }

def plain (calculator : Calculator) : Calculator := { calculator with preferences := .null }

theorem Respelled.plain_eq {first second : Calculator} (respelled : first.Respelled second) :
    second.plain = first.plain := by
  cases respelled with
  | refl => rfl
  | built respelled made remade =>
    have again := Registry.build_respelled respelled made
    cases again.symm.trans remade
    rfl
  | bound calculator reread preferences =>
    rw [reread.eq]
    rfl

end Calculator

/-! Places. -/

namespace Text

theorem sameIgnoringCase_lower (s : String) : sameIgnoringCase s (lower s) = true := by
  rw [sameIgnoringCase_iff, lower, String.toList_ofList, List.map_map]
  apply List.map_congr_left
  intro c _
  exact (Char.toLower_toLower_eq_toLower c).symm

theorem lower_eq {s t : String} (same : sameIgnoringCase s t = true) : lower t = lower s := by
  rw [lower, lower, sameIgnoringCase_iff.mp same]

end Text

namespace Address

/-- Another city, another postal code, or other letter cases of country and state. -/
structure Respelled (address other : Address) : Prop where
  country : Text.sameIgnoringCase address.country other.country = true
  state : Option.Rel (fun s t => Text.sameIgnoringCase s t = true) address.state other.state

def plain (address : Address) : Address :=
  ⟨Text.lower address.country, address.state.map Text.lower, none, none⟩

theorem Respelled.plain_eq {address other : Address} (respelled : address.Respelled other) :
    other.plain = address.plain := by
  have state : other.state.map Text.lower = address.state.map Text.lower := by
    apply map_eq_of_rel _ respelled.state
    exact fun _ _ => Text.lower_eq
  rw [plain, plain, Text.lower_eq respelled.country, state]

end Address

namespace ZoneMember

inductive Respelled : ZoneMember → ZoneMember → Prop
  | country {name other : String} (same : Text.sameIgnoringCase name other = true) :
      Respelled (.country name) (.country other)
  | state {name other part another : String} (same : Text.sameIgnoringCase name other = true)
      (alike : Text.sameIgnoringCase part another = true) :
      Respelled (.state name part) (.state other another)

def plain : ZoneMember → ZoneMember
  | country name => .country (Text.lower name)
  | state name part => .state (Text.lower name) (Text.lower part)

theorem Respelled.plain_eq {member other : ZoneMember} (respelled : member.Respelled other) :
    other.plain = member.plain := by
  cases respelled with
  | country same => rw [plain, plain, Text.lower_eq same]
  | state same alike => rw [plain, plain, Text.lower_eq same, Text.lower_eq alike]

theorem covers_plain (member : ZoneMember) (address : Address) :
    member.plain.covers address.plain = member.covers address := by
  have blind (s t : String) :
      Text.sameIgnoringCase (Text.lower s) (Text.lower t) = Text.sameIgnoringCase s t :=
    Text.sameIgnoringCase_congr (Text.sameIgnoringCase_lower s) (Text.sameIgnoringCase_lower t)
  cases member with
  | country name => exact blind name address.country
  | state name part =>
    rw [plain, covers, covers, Address.plain, Option.any_map]
    simp only [blind]

end ZoneMember

namespace Zone

structure Respelled (zone other : Zone) : Prop where
  name : other.name = zone.name
  members : List.Forall₂ ZoneMember.Respelled zone.members other.members

def plain (zone : Zone) : Zone := { zone with members := zone.members.map ZoneMember.plain }

theorem Respelled.plain_eq {zone other : Zone} (respelled : zone.Respelled other) :
    other.plain = zone.plain := by
  have members : other.members.map ZoneMember.plain = zone.members.map ZoneMember.plain := by
    apply map_eq_of_forall₂ _ respelled.members
    exact fun _ _ => ZoneMember.Respelled.plain_eq
  rw [plain, plain, respelled.name, members]

theorem covers_plain (zone : Zone) (address : Address) :
    zone.plain.covers address.plain = zone.covers address := by
  rw [covers, plain, List.any_map, covers]
  simp only [Function.comp_def, ZoneMember.covers_plain]

end Zone

/-! Methods. -/

namespace ShippingMethod

/-- The same method with other spellings in its zones and its calculator. -/
structure Respelled (method other : ShippingMethod) : Prop where
  same : other = { method with zones := other.zones, calculator := other.calculator }
  zones : List.Forall₂ Zone.Respelled method.zones other.zones
  calculator : method.calculator.Respelled other.calculator

def plain (method : ShippingMethod) : ShippingMethod :=
  { method with zones := method.zones.map Zone.plain, calculator := method.calculator.plain }

theorem Respelled.plain_eq {method other : ShippingMethod} (respelled : method.Respelled other) :
    other.plain = method.plain := by
  have zones : other.zones.map Zone.plain = method.zones.map Zone.plain := by
    apply map_eq_of_forall₂ _ respelled.zones
    exact fun _ _ => Zone.Respelled.plain_eq
  rw [congrArg plain respelled.same, plain, plain, zones, respelled.calculator.plain_eq]

theorem serves_plain (method : ShippingMethod) (address : Option Address) :
    method.plain.serves (address.map Address.plain) = method.serves address := by
  rw [serves, serves, Option.any_map]
  simp only [plain, List.isEmpty_map, List.any_map, Function.comp_def, Zone.covers_plain]

end ShippingMethod
end Fulfilment
