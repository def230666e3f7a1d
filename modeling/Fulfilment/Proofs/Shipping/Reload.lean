import Fulfilment.Proofs.Json.Record
import Fulfilment.Proofs.Shipping.Tariff

/-! Calculators that are built again from what they store.

The stored preferences are accepted, and all that can be lost is the minus sign of a zero. No
cost and no limit depends on it. -/
namespace Fulfilment

namespace Decimal

theorem plainZero_of_mantissa_ne_zero {d : Decimal} (some : d.mantissa ≠ 0) : d.plainZero = d :=
  if_neg some

theorem mantissa_plainZero (d : Decimal) : d.plainZero.mantissa = d.mantissa := by
  unfold plainZero
  split <;> rfl

theorem plainZero_mul? (a b : Decimal) : a.plainZero.mul? b = a.mul? b := by
  by_cases zero : a.mantissa = 0
  · rw [mul?, mul?, if_pos (.inl ((mantissa_plainZero a).trans zero)), if_pos (.inl zero)]
  · rw [plainZero_of_mantissa_ne_zero zero]

theorem mul?_plainZero (a b : Decimal) : a.mul? b.plainZero = a.mul? b := by
  by_cases zero : b.mantissa = 0
  · rw [mul?, mul?, if_pos (.inr ((mantissa_plainZero b).trans zero)), if_pos (.inr zero)]
  · rw [plainZero_of_mantissa_ne_zero zero]

theorem map_value_add?_plainZero (a b : Decimal) :
    (a.add? b.plainZero).map value = (a.add? b).map value := by
  by_cases zero : b.mantissa = 0
  · rw [add?, add?, mantissa_plainZero, zero]
    split
    · simp
    · rfl
  · rw [plainZero_of_mantissa_ne_zero zero]

@[simp] theorem less_plainZero (a b : Decimal) : a.less b.plainZero = a.less b := by simp [less]

@[simp] theorem atMost_plainZero (a b : Decimal) : a.atMost b.plainZero = a.atMost b := by
  simp [atMost]

end Decimal

/-- The same stored value or the same number, whatever digits it is written with. -/
inductive Json.Value.SameNumber : Json.Value → Json.Value → Prop
  | refl (v : Json.Value) : SameNumber v v
  | number (a b : Decimal) (same : a.value = b.value) : SameNumber a.toJson b.toJson

/-- Calculators that cannot be told apart by what they store and answer, as numbers. -/
structure Calculator.Equivalent (first second : Calculator) : Prop where
  kind : second.kind = first.kind
  currency : second.currency = first.currency
  preferences : ∃ members others, first.preferences = .object members ∧
    second.preferences = .object others ∧ Json.Value.Matched Json.Value.SameNumber members others
  available : ∀ parcel, second.available parcel = first.available parcel
  compute : ∀ parcel, (second.compute parcel).map (Option.map Decimal.value) =
    (first.compute parcel).map (Option.map Decimal.value)

namespace Tariff

variable {P : Type} {tariff : Tariff P} {fields : P → List (String × Json.Value)} {plain : P → P}

/-- A tariff reads from the fields that it writes the same preferences, up to the signs of zeros. -/
structure Restores (tariff : Tariff P) (fields : P → List (String × Json.Value)) (plain : P → P) :
    Prop where
  stored : ∀ p, tariff.toJson p = .ofMembers (fields p)
  distinct : ∀ p, ((fields p).map Prod.fst).Nodup
  writes : ∀ p, tariff.layout.Writes (fields p) (plain p)
  matched : ∀ p, Json.Value.Matched Json.Value.SameNumber (fields p) (fields (plain p))
  amounts : ∀ p, tariff.amounts (plain p) =
    (tariff.amounts p).map fun amount => (amount.1, amount.2.plainZero)
  currency : ∀ p, tariff.currency (plain p) = tariff.currency p
  available : ∀ p parcel, tariff.available (plain p) parcel = tariff.available p parcel
  compute : ∀ p parcel, (tariff.compute (plain p) parcel).map (Option.map Decimal.value) =
    (tariff.compute p parcel).map (Option.map Decimal.value)

namespace Restores

variable (restores : tariff.Restores fields plain) (p : P)

include restores

theorem accept (nonneg : ∀ amount ∈ tariff.amounts p, 0 ≤ amount.2.value) :
    tariff.accept (tariff.toJson p) = .ok (plain p) := by
  rw [accept_ok]
  constructor
  · rw [restores.stored]
    exact (restores.writes p).decode (restores.distinct p) tariff.title true
  · rw [restores.amounts]
    intro amount member
    obtain ⟨before, inside, rfl⟩ := List.mem_map.mp member
    rw [Decimal.value_plainZero]
    exact nonneg before inside

theorem equivalent : (tariff.calculator p).Equivalent (tariff.calculator (plain p)) where
  kind := rfl
  currency := restores.currency p
  preferences := ⟨_, _, restores.stored p, restores.stored (plain p),
    Json.Value.matched_placed (restores.matched p) .nil⟩
  available parcel := congrArg Except.ok (restores.available p parcel)
  compute parcel := by
    have inside (outcome : Except ComputeFault (Option Decimal)) :
        (outcome.mapError (CalculatorError.computeFailed tariff.kind)).map (Option.map Decimal.value) =
          (outcome.map (Option.map Decimal.value)).mapError (.computeFailed tariff.kind) := by
      cases outcome <;> rfl
    rw [calculator, calculator, inside, inside, restores.compute]

end Restores

theorem writes_currency (c : Option Currency) :
    currencyField.Writes [("currency", currencyJson c)] c := by
  have read := Json.Decoder.nullable_ofOption (fun _ => Json.Value.noConfusion)
    Json.Decoder.currency_toJson c
  rw [Option.map_id'] at read
  exact .field "currency" read

theorem writes_decimal (name : String) {absent ended : Option Decimal} (d : Decimal) :
    (Json.Layout.field name .decimal absent ended).Writes [(name, d.toJson)] d.plainZero :=
  .field name (Json.Decoder.decimal_toJson d)

theorem map_orOverflow {amount : Amount} {first second : Option Decimal}
    (same : first.map Decimal.value = second.map Decimal.value) :
    ((orOverflow amount first).map some).map (Option.map Decimal.value) =
      ((orOverflow amount second).map some).map (Option.map Decimal.value) := by
  have known (outcome : Option Decimal) :
      ((orOverflow amount outcome).map some).map (Option.map Decimal.value) =
        (orOverflow amount (outcome.map Decimal.value)).map some := by
    cases outcome <;> rfl
  rw [known, known, same]

end Tariff

theorem Json.Value.SameNumber.plainZero (d : Decimal) : SameNumber d.toJson d.plainZero.toJson :=
  .number _ _ d.value_plainZero.symm

namespace FlatRate

def Preferences.plain (p : Preferences) : Preferences := ⟨p.amount.plainZero, p.currency⟩

def fields (p : Preferences) : List (String × Json.Value) :=
  [("amount", p.amount.toJson), ("currency", Tariff.currencyJson p.currency)]

theorem restores : tariff.Restores fields Preferences.plain where
  stored _ := rfl
  distinct p := by simp [fields]
  writes p := .seq (.seq (.pure Preferences.mk) (Tariff.writes_decimal "amount" p.amount))
    (Tariff.writes_currency p.currency)
  matched _ := .cons ⟨rfl, .plainZero _⟩ (.cons ⟨rfl, .refl _⟩ .nil)
  amounts _ := rfl
  currency _ := rfl
  available _ _ := rfl
  compute p _ := by simp [tariff, Preferences.plain, Except.map]

end FlatRate

namespace PerItem

def Preferences.plain (p : Preferences) : Preferences := ⟨p.amount.plainZero, p.currency⟩

def fields (p : Preferences) : List (String × Json.Value) :=
  [("amount", p.amount.toJson), ("currency", Tariff.currencyJson p.currency)]

theorem cost?_plain (p : Preferences) (quantity : Nat) : cost? p.plain quantity = cost? p quantity := by
  simp only [cost?, Preferences.plain, Decimal.plainZero_mul?]

theorem restores : tariff.Restores fields Preferences.plain where
  stored _ := rfl
  distinct p := by simp [fields]
  writes p := .seq (.seq (.pure Preferences.mk) (Tariff.writes_decimal "amount" p.amount))
    (Tariff.writes_currency p.currency)
  matched _ := .cons ⟨rfl, .plainZero _⟩ (.cons ⟨rfl, .refl _⟩ .nil)
  amounts _ := rfl
  currency _ := rfl
  available _ _ := rfl
  compute p parcel := by
    simp only [tariff, cost?_plain]

end PerItem

namespace ItemTotalPercent

def Preferences.plain (p : Preferences) : Preferences := ⟨p.flatPercent.plainZero, p.currency⟩

def fields (p : Preferences) : List (String × Json.Value) :=
  [("flat_percent", p.flatPercent.toJson), ("currency", Tariff.currencyJson p.currency)]

theorem cost?_plain (p : Preferences) (total : Decimal) : cost? p.plain total = cost? p total := by
  simp only [cost?, Preferences.plain, Decimal.mul?_plainZero]

theorem restores : tariff.Restores fields Preferences.plain where
  stored _ := rfl
  distinct p := by simp [fields]
  writes p := .seq (.seq (.pure Preferences.mk) (Tariff.writes_decimal "flat_percent" p.flatPercent))
    (Tariff.writes_currency p.currency)
  matched _ := .cons ⟨rfl, .plainZero _⟩ (.cons ⟨rfl, .refl _⟩ .nil)
  amounts _ := rfl
  currency _ := rfl
  available _ _ := rfl
  compute p parcel := by
    simp only [tariff, cost?_plain]

end ItemTotalPercent

namespace FlexiRate

def Preferences.plain (p : Preferences) : Preferences :=
  ⟨p.firstItem.plainZero, p.additionalItem.plainZero, p.maxItems, p.currency⟩

def fields (p : Preferences) : List (String × Json.Value) :=
  [("first_item", p.firstItem.toJson), ("additional_item", p.additionalItem.toJson),
    ("max_items", p.maxItems.toJson), ("currency", Tariff.currencyJson p.currency)]

theorem cost?_plain (p : Preferences) (quantity : Nat) :
    (cost? p.plain quantity).map Decimal.value = (cost? p quantity).map Decimal.value := by
  have same : charged p.plain quantity = charged p quantity := rfl
  rw [cost?, cost?, same]
  cases charged p quantity with
  | zero => rfl
  | succ further =>
    cases counted : Decimal.ofNat? further with
    | none => simp [counted]
    | some factor =>
      simp only [counted, Preferences.plain, Decimal.plainZero_mul?, Option.bind_eq_bind,
        Option.bind_some]
      -- Where nothing is added the sum is the first price itself, with its sign.
      cases p.additionalItem.mul? factor with
      | none => rfl
      | some additional => exact additional.map_value_add?_plainZero p.firstItem

theorem restores : tariff.Restores fields Preferences.plain where
  stored _ := rfl
  distinct p := by simp [fields]
  writes p := .seq (.seq (.seq (.seq (.pure Preferences.mk)
    (Tariff.writes_decimal "first_item" p.firstItem))
    (Tariff.writes_decimal "additional_item" p.additionalItem))
    (.field "max_items" (Json.Decoder.units_toJson p.maxItems)))
    (Tariff.writes_currency p.currency)
  matched _ := .cons ⟨rfl, .plainZero _⟩ <| .cons ⟨rfl, .plainZero _⟩ <| .cons ⟨rfl, .refl _⟩ <|
    .cons ⟨rfl, .refl _⟩ .nil
  amounts _ := rfl
  currency _ := rfl
  available _ _ := rfl
  compute p parcel := Tariff.map_orOverflow (cost?_plain p parcel.quantity)

end FlexiRate

namespace PriceSack

def Preferences.plain (p : Preferences) : Preferences :=
  ⟨p.minimalAmount.plainZero, p.normalAmount.plainZero, p.discountAmount.plainZero, p.currency⟩

def fields (p : Preferences) : List (String × Json.Value) :=
  [("minimal_amount", p.minimalAmount.toJson), ("normal_amount", p.normalAmount.toJson),
    ("discount_amount", p.discountAmount.toJson), ("currency", Tariff.currencyJson p.currency)]

theorem restores : tariff.Restores fields Preferences.plain where
  stored _ := rfl
  distinct p := by simp [fields]
  writes p := .seq (.seq (.seq (.seq (.pure Preferences.mk)
    (Tariff.writes_decimal "minimal_amount" p.minimalAmount))
    (Tariff.writes_decimal "normal_amount" p.normalAmount))
    (Tariff.writes_decimal "discount_amount" p.discountAmount))
    (Tariff.writes_currency p.currency)
  matched _ := .cons ⟨rfl, .plainZero _⟩ <| .cons ⟨rfl, .plainZero _⟩ <| .cons ⟨rfl, .plainZero _⟩ <|
    .cons ⟨rfl, .refl _⟩ .nil
  amounts _ := rfl
  currency _ := rfl
  available _ _ := rfl
  compute p parcel := by
    cases total : parcel.itemTotal with
    | none =>
      simp only [tariff, total]
      rfl
    | some amount =>
      simp only [tariff, total, Tariff.orOverflow, Preferences.plain, Decimal.less_plainZero, ok_bind]
      by_cases small : amount.less p.minimalAmount = true
      · simp [small, Except.map, pure, Except.pure]
      · simp [small, Except.map, pure, Except.pure]

end PriceSack

namespace ByWeight

def Preferences.plain (p : Preferences) : Preferences :=
  ⟨p.perUnit.plainZero, p.maxWeight.map Decimal.plainZero, p.currency⟩

def fields (p : Preferences) : List (String × Json.Value) :=
  [("per_unit", p.perUnit.toJson), ("max_weight", .ofOption Decimal.toJson p.maxWeight),
    ("currency", Tariff.currencyJson p.currency)]

theorem limit_matched (limit : Option Decimal) : Json.Value.SameNumber
    (.ofOption Decimal.toJson limit) (.ofOption Decimal.toJson (limit.map Decimal.plainZero)) := by
  cases limit with
  | none => exact .refl _
  | some weight => exact .plainZero weight

theorem cost?_plain (p : Preferences) (weight : Decimal) : cost? p.plain weight = cost? p weight := by
  simp only [cost?, Preferences.plain, Decimal.mul?_plainZero]

theorem restores : tariff.Restores fields Preferences.plain where
  stored _ := rfl
  distinct p := by simp [fields]
  writes p := .seq (.seq (.seq (.pure Preferences.mk) (Tariff.writes_decimal "per_unit" p.perUnit))
    (.field "max_weight" (Json.Decoder.nullable_ofOption (fun _ => Json.Value.noConfusion)
      Json.Decoder.decimal_toJson p.maxWeight)))
    (Tariff.writes_currency p.currency)
  matched p := .cons ⟨rfl, .plainZero _⟩ <| .cons ⟨rfl, limit_matched p.maxWeight⟩ <|
    .cons ⟨rfl, .refl _⟩ .nil
  amounts p := by
    cases limit : p.maxWeight <;> simp [tariff, Preferences.plain, limit]
  currency _ := rfl
  available p parcel := by
    cases limit : p.maxWeight <;> simp [tariff, carries, Preferences.plain, limit]
  compute p parcel := by
    simp only [tariff, cost?_plain]

end ByWeight

theorem Tariff.BuiltIn.exists_restores {P : Type} {tariff : Tariff P} (builtIn : tariff.BuiltIn) :
    ∃ fields plain, tariff.Restores fields plain := by
  cases builtIn with
  | flatRate => exact ⟨_, _, FlatRate.restores⟩
  | perItem => exact ⟨_, _, PerItem.restores⟩
  | itemTotalPercent => exact ⟨_, _, ItemTotalPercent.restores⟩
  | flexiRate => exact ⟨_, _, FlexiRate.restores⟩
  | priceSack => exact ⟨_, _, PriceSack.restores⟩
  | byWeight => exact ⟨_, _, ByWeight.restores⟩

/-- What a calculator stores builds an equivalent calculator of its kind. -/
theorem Calculator.rebuilds {kind : String} {stored : Json.Value} {calculator : Calculator}
    (built : Registry.builtIn.build kind stored = .ok calculator) :
    ∃ again, Registry.builtIn.build calculator.kind calculator.preferences = .ok again ∧
      calculator.Equivalent again := by
  obtain ⟨P, tariff, builtIn, rfl⟩ := Tariff.exists_builtIn built
  obtain ⟨p, accepted, rfl⟩ := (Tariff.built_ok builtIn).mp built
  obtain ⟨fields, plain, restores⟩ := builtIn.exists_restores
  have restored := restores.accept p (Tariff.accept_ok.mp accepted).2
  exact ⟨tariff.calculator (plain p), (Tariff.built_ok builtIn).mpr ⟨plain p, restored, rfl⟩,
    restores.equivalent p⟩

/-- The first price is a zero with a minus sign, which is not written back. -/
theorem Calculator.looseRates_rebuild :
    let stored : Json.Value := .object [("additional_item", .string "15e-2"),
      ("currency", .null), ("first_item", .string "-0.01e-27"), ("max_items", .integer 3)]
    ∃ calculator again, Registry.builtIn.build "flexi_rate" stored = .ok calculator ∧
      Registry.builtIn.build calculator.kind calculator.preferences = .ok again ∧
      calculator.Equivalent again := by
  intro stored
  obtain ⟨calculator, built⟩ :
      ∃ calculator, Registry.builtIn.build "flexi_rate" stored = .ok calculator := ⟨_, rfl⟩
  obtain ⟨again, rebuilt, equivalent⟩ := rebuilds built
  exact ⟨calculator, again, built, rebuilt, equivalent⟩

end Fulfilment
