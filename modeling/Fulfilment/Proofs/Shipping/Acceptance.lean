import Fulfilment.Proofs.Json.Acceptance
import Fulfilment.Proofs.Shipping.Tariff

/-! Which preferences are accepted.

For each kind of the registry the objects that build a calculator are told by a table of its
fields. All others are invalid preferences of that kind. -/
namespace Fulfilment

namespace Preference

open Json (Value Decoder Layout Rule)

def IsNumber (value : Value) : Prop := ∃ d, Decoder.decimal value = .ok d

def IsAmount (value : Value) : Prop := ∃ d, Decoder.decimal value = .ok d ∧ 0 ≤ d.value

def IsLimit (value : Value) : Prop := value = .null ∨ IsAmount value

/-- An integer of 32 bits without a sign. -/
def IsCount (value : Value) : Prop := ∃ n : Int, value = .integer n ∧ 0 ≤ n ∧ n ≤ 4294967295

/-- Null or a text that is three letters apart from blanks around them. -/
def IsCurrency (value : Value) : Prop :=
  value = .null ∨ ∃ s, value = .string s ∧ Currency.IsCode (Text.trimChars s.toList)

def currencyRule : Rule := ⟨"currency", false, IsCurrency⟩

/-- The fields of the preferences of each kind. -/
def table : List (String × List Rule) :=
  [("flat_rate", [⟨"amount", true, IsAmount⟩, currencyRule]),
    ("per_item", [⟨"amount", true, IsAmount⟩, currencyRule]),
    ("flat_percent_item_total", [⟨"flat_percent", true, IsAmount⟩, currencyRule]),
    ("flexi_rate", [⟨"first_item", false, IsAmount⟩, ⟨"additional_item", false, IsAmount⟩,
      ⟨"max_items", false, IsCount⟩, currencyRule]),
    ("price_sack", [⟨"minimal_amount", true, IsNumber⟩, ⟨"normal_amount", true, IsAmount⟩,
      ⟨"discount_amount", true, IsAmount⟩, currencyRule]),
    ("weight", [⟨"per_unit", true, IsAmount⟩, ⟨"max_weight", false, IsLimit⟩, currencyRule])]

theorem guards_amount (name : String) : (Layout.required name .decimal).Guards
    [⟨name, true, IsAmount⟩] fun d => 0 ≤ d.value :=
  .field (fun _ => .rfl) (by simp)

theorem guards_amountOrZero (name : String) : (Layout.defaulted name .decimal .zero).Guards
    [⟨name, false, IsAmount⟩] fun d => 0 ≤ d.value :=
  .field (fun _ => .rfl) (by simp)

theorem guards_number (name : String) : (Layout.required name .decimal).Guards
    [⟨name, true, IsNumber⟩] fun _ => True :=
  .field (by simp [IsNumber]) (by simp)

theorem guards_limit (name : String) : (Layout.defaulted name (.nullable .decimal) none).Guards
    [⟨name, false, IsLimit⟩] fun limit => ∀ weight, limit = some weight → 0 ≤ weight.value :=
  .field (fun _ => Decoder.nullable_admits.symm) (by simp)

theorem units_decodes {value : Value} : (∃ units, Decoder.units value = .ok units) ↔ IsCount value := by
  cases value with
  | integer n => by_cases small : 0 ≤ n ∧ n ≤ 4294967295 <;> simp [IsCount, Decoder.units, small]
  | _ => simp [IsCount, Decoder.units]

theorem guards_count (name : String) : (Layout.defaulted name .units .zero).Guards
    [⟨name, false, IsCount⟩] fun _ => True :=
  .field (by simp [units_decodes]) (by simp)

theorem currency_decodes {value : Value} : (∃ c, Decoder.currency value = .ok c) ↔
    ∃ s, value = .string s ∧ Currency.IsCode (Text.trimChars s.toList) := by
  cases value with
  | string s =>
    by_cases code : Currency.IsCode (Text.trimChars s.toList) <;>
      simp [Decoder.currency, Currency.parse, code, Except.mapError]
  | _ => simp [Decoder.currency]

theorem guards_currency : Tariff.currencyField.Guards [currencyRule] fun _ => True := by
  refine .field (fun value => ?_) (by simp)
  have admits : (∃ o, Decoder.nullable .currency value = .ok o ∧ ∀ c, o = some c → True) ↔
      value = .null ∨ ∃ c, Decoder.currency value = .ok c ∧ True := Decoder.nullable_admits
  simp only [implies_true, and_true, currency_decodes] at admits ⊢
  exact admits.symm

end Preference

/-- A tariff takes preferences by the rules for their fields. -/
def Tariff.Takes {P : Type} (tariff : Tariff P) (rules : List Json.Rule) : Prop :=
  tariff.layout.Guards rules fun p => ∀ amount ∈ tariff.amounts p, 0 ≤ amount.2.value

theorem Tariff.Takes.accepts {P : Type} {tariff : Tariff P} {rules : List Json.Rule}
    (takes : tariff.Takes rules) {members : List (String × Json.Value)}
    (distinct : (members.map Prod.fst).Nodup) :
    (∃ p, tariff.accept (.object members) = .ok p) ↔ Json.Valid rules members := by
  simp only [accept_ok]
  exact takes.decode_iff distinct tariff.title

section Tariffs

open Preference Json Json.Layout

/-- Preferences of one amount. -/
theorem Tariff.takes_amount {P : Type} {tariff : Tariff P} {make : Decimal → Option Currency → P}
    {name : String} (layout : tariff.layout = make <$> required name .decimal <*> currencyField)
    (amounts : ∀ d c, tariff.amounts (make d c) = [(name, d)]) :
    tariff.Takes [⟨name, true, IsAmount⟩, currencyRule] where
  lists := by
    rw [layout]
    exact .seq (.seq (.pure make) (guards_amount name).lists) guards_currency.lists
  reads members := by
    have amount := (guards_amount name).reads members
    have currency := guards_currency.reads members
    simp only [List.forall_mem_singleton, and_true] at amount currency
    rw [List.forall_mem_cons, List.forall_mem_singleton, ← amount, ← currency]
    simp only [layout, ofMembers_seq, ofMembers_map]
    constructor
    · intro accepted
      obtain ⟨_, ⟨_, ⟨d, found, rfl⟩, c, bound, rfl⟩, nonneg⟩ := accepted
      rw [amounts, List.forall_mem_singleton] at nonneg
      exact ⟨⟨d, found, nonneg⟩, c, bound⟩
    · intro passes
      obtain ⟨⟨d, found, nonneg⟩, c, bound⟩ := passes
      refine ⟨make d c, ⟨make d, ⟨d, found, rfl⟩, c, bound, rfl⟩, ?_⟩
      rw [amounts, List.forall_mem_singleton]
      exact nonneg

theorem FlexiRate.takes : tariff.Takes [⟨"first_item", false, IsAmount⟩,
    ⟨"additional_item", false, IsAmount⟩, ⟨"max_items", false, IsCount⟩, currencyRule] where
  lists := .seq (.seq (.seq (.seq (.pure _) (guards_amountOrZero "first_item").lists)
    (guards_amountOrZero "additional_item").lists) (guards_count "max_items").lists)
    guards_currency.lists
  reads members := by
    have first := (guards_amountOrZero "first_item").reads members
    have additional := (guards_amountOrZero "additional_item").reads members
    have count := (guards_count "max_items").reads members
    have currency := guards_currency.reads members
    simp only [List.forall_mem_singleton, and_true] at first additional count currency
    rw [List.forall_mem_cons, List.forall_mem_cons, List.forall_mem_cons, List.forall_mem_singleton,
      ← first, ← additional, ← count, ← currency]
    simp only [tariff, ofMembers_seq, ofMembers_map]
    constructor
    · intro accepted
      obtain ⟨_, ⟨_, ⟨_, ⟨_, ⟨a, one, rfl⟩, b, more, rfl⟩, most, capped, rfl⟩, c, bound, rfl⟩, nonneg⟩ :=
        accepted
      rw [List.forall_mem_cons, List.forall_mem_singleton] at nonneg
      exact ⟨⟨a, one, nonneg.1⟩, ⟨b, more, nonneg.2⟩, ⟨most, capped⟩, c, bound⟩
    · intro passes
      obtain ⟨⟨a, one, positive⟩, ⟨b, more, nonneg⟩, ⟨most, capped⟩, c, bound⟩ := passes
      refine ⟨⟨a, b, most, c⟩, ⟨_, ⟨_, ⟨_, ⟨a, one, rfl⟩, b, more, rfl⟩, most, capped, rfl⟩, c, bound, rfl⟩, ?_⟩
      rw [List.forall_mem_cons, List.forall_mem_singleton]
      exact ⟨positive, nonneg⟩

theorem PriceSack.takes : tariff.Takes [⟨"minimal_amount", true, IsNumber⟩,
    ⟨"normal_amount", true, IsAmount⟩, ⟨"discount_amount", true, IsAmount⟩, currencyRule] where
  lists := .seq (.seq (.seq (.seq (.pure _) (guards_number "minimal_amount").lists)
    (guards_amount "normal_amount").lists) (guards_amount "discount_amount").lists)
    guards_currency.lists
  reads members := by
    have minimal := (guards_number "minimal_amount").reads members
    have normal := (guards_amount "normal_amount").reads members
    have discount := (guards_amount "discount_amount").reads members
    have currency := guards_currency.reads members
    simp only [List.forall_mem_singleton, and_true] at minimal normal discount currency
    rw [List.forall_mem_cons, List.forall_mem_cons, List.forall_mem_cons, List.forall_mem_singleton,
      ← minimal, ← normal, ← discount, ← currency]
    simp only [tariff, ofMembers_seq, ofMembers_map]
    constructor
    · intro accepted
      obtain ⟨_, ⟨_, ⟨_, ⟨_, ⟨least, limit, rfl⟩, a, full, rfl⟩, b, low, rfl⟩, c, bound, rfl⟩, nonneg⟩ :=
        accepted
      rw [List.forall_mem_cons, List.forall_mem_singleton] at nonneg
      exact ⟨⟨least, limit⟩, ⟨a, full, nonneg.1⟩, ⟨b, low, nonneg.2⟩, c, bound⟩
    · intro passes
      obtain ⟨⟨least, limit⟩, ⟨a, full, positive⟩, ⟨b, low, nonneg⟩, c, bound⟩ := passes
      refine ⟨⟨least, a, b, c⟩,
        ⟨_, ⟨_, ⟨_, ⟨least, limit, rfl⟩, a, full, rfl⟩, b, low, rfl⟩, c, bound, rfl⟩, ?_⟩
      rw [List.forall_mem_cons, List.forall_mem_singleton]
      exact ⟨positive, nonneg⟩

theorem ByWeight.takes : tariff.Takes [⟨"per_unit", true, IsAmount⟩,
    ⟨"max_weight", false, IsLimit⟩, currencyRule] where
  lists := .seq (.seq (.seq (.pure _) (guards_amount "per_unit").lists)
    (guards_limit "max_weight").lists) guards_currency.lists
  reads members := by
    have perUnit := (guards_amount "per_unit").reads members
    have limit := (guards_limit "max_weight").reads members
    have currency := guards_currency.reads members
    simp only [List.forall_mem_singleton, and_true] at perUnit limit currency
    rw [List.forall_mem_cons, List.forall_mem_cons, List.forall_mem_singleton, ← perUnit, ← limit,
      ← currency]
    simp only [tariff, ofMembers_seq, ofMembers_map, List.forall_mem_cons, List.forall_mem_map,
      Option.mem_toList]
    constructor
    · intro accepted
      obtain ⟨_, ⟨_, ⟨_, ⟨a, found, rfl⟩, most, heavy, rfl⟩, c, bound, rfl⟩, nonneg⟩ := accepted
      exact ⟨⟨a, found, nonneg.1⟩, ⟨most, heavy, nonneg.2⟩, c, bound⟩
    · intro passes
      obtain ⟨⟨a, found, positive⟩, ⟨most, heavy, nonneg⟩, c, bound⟩ := passes
      exact ⟨⟨a, most, c⟩, ⟨_, ⟨_, ⟨a, found, rfl⟩, most, heavy, rfl⟩, c, bound, rfl⟩, positive, nonneg⟩

theorem Preference.exists_takes {kind : String} {rules : List Rule} (listed : (kind, rules) ∈ table) :
    ∃ (P : Type) (tariff : Tariff P), tariff.BuiltIn ∧ tariff.kind = kind ∧ tariff.Takes rules := by
  simp only [table, List.mem_cons, Prod.mk.injEq, List.not_mem_nil, or_false] at listed
  rcases listed with ⟨rfl, rfl⟩ | ⟨rfl, rfl⟩ | ⟨rfl, rfl⟩ | ⟨rfl, rfl⟩ | ⟨rfl, rfl⟩ | ⟨rfl, rfl⟩
  · exact ⟨_, _, .flatRate, rfl, Tariff.takes_amount rfl fun _ _ => rfl⟩
  · exact ⟨_, _, .perItem, rfl, Tariff.takes_amount rfl fun _ _ => rfl⟩
  · exact ⟨_, _, .itemTotalPercent, rfl, Tariff.takes_amount rfl fun _ _ => rfl⟩
  · exact ⟨_, _, .flexiRate, rfl, FlexiRate.takes⟩
  · exact ⟨_, _, .priceSack, rfl, PriceSack.takes⟩
  · exact ⟨_, _, .byWeight, rfl, ByWeight.takes⟩

end Tariffs

namespace Registry

/-- A kind of the registry takes the objects that are valid by the rules for its fields, and
nothing as the empty object. All others are invalid preferences of that kind. -/
theorem builds_valid_only :
    builtIn.entries.map Prod.fst = Preference.table.map Prod.fst ∧
    ∀ kind rules, (kind, rules) ∈ Preference.table →
      builtIn.build kind .null = builtIn.build kind (.object []) ∧
      ∀ members : List (String × Json.Value), (members.map Prod.fst).Nodup →
        ((∃ calculator, builtIn.build kind (.object members) = .ok calculator) ↔
          Json.Valid rules members) ∧
        (¬ Json.Valid rules members → ∃ fault,
          builtIn.build kind (.object members) = .error (.invalidPreferences kind fault)) := by
  refine ⟨rfl, ?_⟩
  intro kind rules listed
  obtain ⟨P, tariff, standard, rfl, takes⟩ := Preference.exists_takes listed
  simp only [Tariff.build_builtIn standard]
  refine ⟨rfl, ?_⟩
  intro members distinct
  have accepts := takes.accepts distinct
  rw [Tariff.build]
  cases answer : tariff.accept (.object members) with
  | ok p =>
    have valid := accepts.mp ⟨p, answer⟩
    exact ⟨⟨fun _ => valid, fun _ => ⟨_, rfl⟩⟩, fun invalid => absurd valid invalid⟩
  | error fault =>
    have invalid : ¬ Json.Valid rules members := by
      rw [← accepts]
      intro accepted
      obtain ⟨p, accepted⟩ := accepted
      cases answer.symm.trans accepted
    refine ⟨⟨?_, fun valid => absurd valid invalid⟩, fun _ => ⟨fault, rfl⟩⟩
    intro built
    obtain ⟨_, built⟩ := built
    contradiction

/-- A zero with a minus sign is an amount, but no number below zero is a count. -/
theorem builds_negative_zero :
    (∃ rules, ("weight", rules) ∈ Preference.table ∧ Json.Valid rules
      [("max_weight", .null), ("per_unit", .string "-0.0")]) ∧
    ∃ fault, builtIn.build "flexi_rate" (.object [("max_items", .integer (-1))]) =
      .error (.invalidPreferences "flexi_rate" fault) := by
  constructor
  · obtain ⟨rules, listed⟩ : ∃ rules, ("weight", rules) ∈ Preference.table :=
      ⟨_, List.mem_of_getElem? (i := 5) rfl⟩
    have law := (builds_valid_only.2 "weight" rules listed).2 [("max_weight", .null),
      ("per_unit", .string "-0.0")] (by decide)
    exact ⟨rules, listed, law.1.mp ⟨_, rfl⟩⟩
  · have listed : ("flexi_rate", [⟨"first_item", false, Preference.IsAmount⟩,
        ⟨"additional_item", false, Preference.IsAmount⟩, ⟨"max_items", false, Preference.IsCount⟩,
        Preference.currencyRule]) ∈ Preference.table := List.mem_of_getElem? (i := 3) rfl
    have law := (builds_valid_only.2 "flexi_rate" _ listed).2 [("max_items", .integer (-1))] (by decide)
    apply law.2
    intro valid
    obtain ⟨n, same, nonneg, _⟩ := valid.admitted ⟨"max_items", false, Preference.IsCount⟩ (by simp)
      (.integer (-1)) (by simp)
    cases same
    contradiction

end Registry
end Fulfilment
