import Fulfilment.Proofs.Currency
import Fulfilment.Proofs.Outcome
import Fulfilment.Settings

/-! Settings read back from named variables.

Each variable sets one field. Its reader accepts the renderings of the values of that field and
nothing else, so that a lookup of renderings gives the settings that were rendered, and a value
that is missing or not a rendering leaves its own field at the default and every other as it is. -/
namespace Fulfilment

namespace Text

/-- The characters with nothing but blanks around them. -/
def Frames (s : String) (core : List Char) : Prop := ∃ before after,
  s.toList = before ++ core ++ after ∧ ∀ c ∈ before ++ after, isBlank c = true

/-- The word in any letter case with nothing but blanks around it. -/
def Spelled (s word : String) : Prop :=
  ∃ core, Frames s core ∧ core.map Char.toLower = word.toList.map Char.toLower

/-- Some characters, and no blanks. -/
structure Solid (core : List Char) : Prop where
  full : core ≠ []
  dense : ∀ c ∈ core, isBlank c = false

instance (core : List Char) : Decidable (Solid core) :=
  -- Looks at the given characters, not at all there are.
  have : Decidable (∀ c ∈ core, isBlank c = false) := List.decidableBAll _ core
  decidable_of_iff (core ≠ [] ∧ ∀ c ∈ core, isBlank c = false)
    ⟨fun both => ⟨both.1, both.2⟩, fun solid => ⟨solid.full, solid.dense⟩⟩

theorem isBlank_toLower (c : Char) : isBlank c.toLower = isBlank c := by
  by_cases letter : isLetter c = true
  · rw [letter_not_blank letter, letter_not_blank ((isLetter_toLower c).trans letter)]
  · have same : c.toLower = c := by
      unfold Char.toLower
      split
      · rename_i capital
        have between : 'A' ≤ c ∧ c ≤ 'Z' := capital
        exact absurd (by simp [isLetter, between.1, between.2]) letter
      · rfl
    rw [same]

theorem Solid.of_toLower_eq {core word : List Char} (solid : Solid word)
    (same : core.map Char.toLower = word.map Char.toLower) : Solid core := by
  refine ⟨?_, ?_⟩
  · intro none
    have length := congrArg List.length same
    rw [none, List.length_map, List.length_map, List.length_nil] at length
    exact solid.full (List.length_eq_zero_iff.mp length.symm)
  · intro c member
    have lowered : c.toLower ∈ word.map Char.toLower := same ▸ List.mem_map_of_mem member
    obtain ⟨d, inside, equal⟩ := List.mem_map.mp lowered
    rw [← isBlank_toLower, ← equal, isBlank_toLower]
    exact solid.dense d inside

theorem frames_iff {s : String} {core : List Char} (solid : Solid core) :
    Frames s core ↔ trimChars s.toList = core := by
  constructor
  · rintro ⟨before, after, whole, blank⟩
    rw [whole]
    exact trimChars_around blank solid.dense solid.full
  · rintro rfl
    exact exists_around s.toList

theorem spelled_iff {s word : String} (solid : Solid word.toList) :
    Spelled s word ↔ (trimChars s.toList).map Char.toLower = word.toList.map Char.toLower := by
  constructor
  · rintro ⟨core, frames, same⟩
    rw [(frames_iff (solid.of_toLower_eq same)).mp frames, same]
  · intro same
    exact ⟨_, exists_around s.toList, same⟩

end Text

theorem Currency.solid_code (c : Currency) : Text.Solid c.code.toList := by
  refine ⟨?_, fun d member => ?_⟩
  · intro none
    have three := c.three_capitals.1
    rw [none] at three
    contradiction
  · obtain ⟨above, below⟩ := c.three_capitals.2 d member
    exact (capital_kept above below).1

theorem Currency.parse_iff_spelled {s : String} {c : Currency} :
    parse s = .ok c ↔ Text.Spelled s c.code := by
  have capitals : c.code.toList.map Char.toUpper = c.code.toList := by
    refine (List.map_congr_left fun d member => ?_).trans (List.map_id _)
    exact (capital_kept (c.three_capitals.2 d member).1 (c.three_capitals.2 d member).2).2.2
  have code : IsCode c.code.toList := ⟨c.three_capitals.1, fun d member =>
    (capital_kept (c.three_capitals.2 d member).1 (c.three_capitals.2 d member).2).2.1⟩
  rw [parse_ok, Text.spelled_iff c.solid_code, ← upper_eq_iff, capitals]
  constructor
  · rintro ⟨_, same⟩
    rw [same, String.toList_ofList]
  · intro same
    refine ⟨isCode_of_toLower_eq (upper_eq_iff.mp ?_) code, ?_⟩
    · rw [same, capitals]
    · rw [same, String.ofList_toList]

theorem VisitingOrder.solid_name (order : VisitingOrder) : Text.Solid order.name.toList := by
  cases order <;> decide

theorem VisitingOrder.lookup_names {name : String} {order : VisitingOrder} :
    names.lookup name = some order ↔ name = order.name := by
  constructor
  · intro found
    by_cases first : name = "by_id"
    · cases order <;> simp [names, first, VisitingOrder.name] at found ⊢
    · by_cases second : name = "as_given"
      · cases order <;> simp [names, List.lookup_cons, second, VisitingOrder.name] at found ⊢
      · simp [names, List.lookup_cons, beq_false_of_ne first, beq_false_of_ne second] at found
  · rintro rfl
    cases order <;> rfl

theorem VisitingOrder.parse_iff_frames {s : String} {order : VisitingOrder} :
    parse s = .ok order ↔ Text.Frames s order.name.toList := by
  have trimmed : (Text.trim s).toList = Text.trimChars s.toList := String.toList_ofList
  rw [Text.frames_iff order.solid_name, ← trimmed, String.toList_inj, ← lookup_names]
  simp only [parse]
  cases names.lookup (Text.trim s) <;> simp

namespace Settings

def flagWords : Bool → List String
  | true => ["1", "true", "yes", "on"]
  | false => ["0", "false", "no", "off"]

theorem flagWords_plain (value : Bool) : ∀ word ∈ flagWords value,
    Text.Solid word.toList ∧ word.toList.map Char.toLower = word.toList := by
  cases value <;> decide

theorem flag?_eq_some_iff_mem {s : String} {value : Bool} :
    flag? s = some value ↔ Text.lower (Text.trim s) ∈ flagWords value := by
  have apart : ∀ word ∈ flagWords false, word ∉ flagWords true := by decide
  generalize lowered : Text.lower (Text.trim s) = word
  have read : flag? s = if word ∈ flagWords true then some true
      else if word ∈ flagWords false then some false else none := by
    rw [← lowered]
    rfl
  rw [read]
  by_cases yes : word ∈ flagWords true
  · have no : word ∉ flagWords false := fun member => apart word member yes
    cases value <;> simp [yes, no]
  · by_cases no : word ∈ flagWords false <;> cases value <;> simp [yes, no]

theorem flag?_eq_some_iff {s : String} {value : Bool} :
    flag? s = some value ↔ ∃ word ∈ flagWords value, Text.Spelled s word := by
  have spelled : ∀ word ∈ flagWords value,
      Text.lower (Text.trim s) = word ↔ Text.Spelled s word := by
    intro word member
    obtain ⟨solid, lower⟩ := flagWords_plain value word member
    rw [Text.spelled_iff solid, lower, ← String.toList_inj, Text.lower, Text.trim,
      String.toList_ofList, String.toList_ofList]
  rw [flag?_eq_some_iff_mem]
  constructor
  · intro member
    exact ⟨_, member, (spelled _ member).mp rfl⟩
  · rintro ⟨word, member, found⟩
    exact (spelled word member).mpr found ▸ member

/-- The fields that are set, each by a variable of its own. -/
inductive Setting
  | currency | checkout | tags | order | overrides
deriving DecidableEq

namespace Setting

def name : Setting → String
  | currency => currencyVariable
  | checkout => checkoutVariable
  | tags => tagsVariable
  | order => orderVariable
  | overrides => overridesVariable

def accepts : Setting → String → Bool
  | currency, s => (Currency.parse s).toOption.isSome
  | order, s => (VisitingOrder.parse s).toOption.isSome
  | checkout, s | tags, s | overrides, s => (flag? s).isSome

def RendersFlag (value : Bool) (s : String) : Prop := ∃ word ∈ flagWords value, Text.Spelled s word

/-- The written forms of the field that a variable sets. -/
def Renders (settings : Settings) : Setting → String → Prop
  | currency, s => Text.Spelled s settings.defaultCurrency.code
  | checkout, s => RendersFlag settings.checkout s
  | tags, s => RendersFlag settings.applyTags s
  | order, s => Text.Frames s settings.visitingOrder.name.toList
  | overrides, s => RendersFlag settings.useOverrides s

-- Every value of a field is that of some settings.
theorem isSome_iff_field {α : Type} {field : Settings → α} (each : Function.Surjective field)
    {read : Option α} : read.isSome = true ↔ ∃ settings, read = some (field settings) := by
  rw [Option.isSome_iff_exists, each.exists]

theorem accepts_iff (setting : Setting) (s : String) :
    setting.accepts s = true ↔ ∃ settings, setting.Renders settings s := by
  cases setting with
  | currency =>
    have each : Function.Surjective Settings.defaultCurrency :=
      fun c => ⟨{ default with defaultCurrency := c }, rfl⟩
    rw [accepts, isSome_iff_field each]
    exact exists_congr fun _ => toOption_eq_some.trans Currency.parse_iff_spelled
  | order =>
    have each : Function.Surjective Settings.visitingOrder :=
      fun order => ⟨{ default with visitingOrder := order }, rfl⟩
    rw [accepts, isSome_iff_field each]
    exact exists_congr fun _ => toOption_eq_some.trans VisitingOrder.parse_iff_frames
  | checkout =>
    have each : Function.Surjective Settings.checkout :=
      fun value => ⟨{ default with checkout := value }, rfl⟩
    rw [accepts, isSome_iff_field each]
    exact exists_congr fun _ => flag?_eq_some_iff
  | tags =>
    have each : Function.Surjective Settings.applyTags :=
      fun value => ⟨{ default with applyTags := value }, rfl⟩
    rw [accepts, isSome_iff_field each]
    exact exists_congr fun _ => flag?_eq_some_iff
  | overrides =>
    have each : Function.Surjective Settings.useOverrides :=
      fun value => ⟨{ default with useOverrides := value }, rfl⟩
    rw [accepts, isSome_iff_field each]
    exact exists_congr fun _ => flag?_eq_some_iff

end Setting

/-- The settings with the fields of some variables at their defaults. -/
def forget (settings : Settings) (lost : Finset Setting) : Settings where
  defaultCurrency := if .currency ∈ lost then default.defaultCurrency else settings.defaultCurrency
  checkout := if .checkout ∈ lost then default.checkout else settings.checkout
  applyTags := if .tags ∈ lost then default.applyTags else settings.applyTags
  visitingOrder := if .order ∈ lost then default.visitingOrder else settings.visitingOrder
  useOverrides := if .overrides ∈ lost then default.useOverrides else settings.useOverrides

/-- A lookup that has no readable value for some variables and agrees with another on the rest. -/
structure Spoils (lost : Finset Setting) (lookup spoilt : String → Option String) : Prop where
  kept : ∀ setting ∉ lost, spoilt setting.name = lookup setting.name
  spoilt : ∀ setting ∈ lost, ∀ s, spoilt setting.name = some s → setting.accepts s = false

theorem ofLookup_rendered {settings : Settings} {lookup : String → Option String}
    (rendered : ∀ setting : Setting,
      ∃ s, lookup setting.name = some s ∧ setting.Renders settings s) :
    ofLookup lookup = settings := by
  obtain ⟨currency, givenCurrency, spelled⟩ := rendered .currency
  obtain ⟨checkout, givenCheckout, checked⟩ := rendered .checkout
  obtain ⟨tags, givenTags, tagged⟩ := rendered .tags
  obtain ⟨order, givenOrder, named⟩ := rendered .order
  obtain ⟨overrides, givenOverrides, overridden⟩ := rendered .overrides
  have parsed := Currency.parse_iff_spelled.mpr spelled
  have visited := VisitingOrder.parse_iff_frames.mpr named
  simp only [Setting.name] at givenCurrency givenCheckout givenTags givenOrder givenOverrides
  rw [ofLookup, givenCurrency, givenCheckout, givenTags, givenOrder, givenOverrides]
  simp only [Option.bind_some, parsed, visited, flag?_eq_some_iff.mpr checked,
    flag?_eq_some_iff.mpr tagged, flag?_eq_some_iff.mpr overridden, Except.toOption,
    Option.getD_some]

section Spoiled

variable {lost : Finset Setting} {lookup spoilt : String → Option String}

theorem Spoils.read {α : Type} (spoils : Spoils lost lookup spoilt) (setting : Setting)
    (reader : String → Option α) (fallback : α)
    (accepts : ∀ s, setting.accepts s = (reader s).isSome) :
    ((spoilt setting.name).bind reader).getD fallback =
      if setting ∈ lost then fallback
      else ((lookup setting.name).bind reader).getD fallback := by
  by_cases missing : setting ∈ lost
  · rw [if_pos missing]
    cases given : spoilt setting.name with
    | none => rfl
    | some s =>
      have refused := spoils.spoilt setting missing s given
      rw [accepts, Option.isSome_eq_false_iff, Option.isNone_iff_eq_none] at refused
      rw [Option.bind_some, refused, Option.getD_none]
  · rw [if_neg missing, spoils.kept setting missing]

theorem ofLookup_spoilt (spoils : Spoils lost lookup spoilt) :
    ofLookup spoilt = (ofLookup lookup).forget lost := by
  rw [ofLookup, forget, Settings.mk.injEq]
  exact ⟨spoils.read .currency _ _ fun _ => rfl, spoils.read .checkout _ _ fun _ => rfl,
    spoils.read .tags _ _ fun _ => rfl, spoils.read .order _ _ fun _ => rfl,
    spoils.read .overrides _ _ fun _ => rfl⟩

end Spoiled

/-- Renderings of all fields are read back as the settings that were rendered. Without a readable
value for some variables exactly their fields are at the defaults. The readable values are the
renderings. -/
theorem ofLookup_reads (lookup : String → Option String) :
    (∀ settings : Settings,
      (∀ setting : Setting, ∃ s, lookup setting.name = some s ∧ setting.Renders settings s) →
      ofLookup lookup = settings) ∧
    (∀ lost spoilt, Spoils lost lookup spoilt → ofLookup spoilt = (ofLookup lookup).forget lost) ∧
    ∀ (setting : Setting) s, setting.accepts s = true ↔ ∃ settings, setting.Renders settings s :=
  ⟨fun _ => ofLookup_rendered, fun _ _ => ofLookup_spoilt, Setting.accepts_iff⟩

/-- All variables rendered, and then one missing and one of no meaning. -/
theorem nzdAsGiven_read :
    let settings : Settings := ⟨⟨"NZD", by simp⟩, false, true, .asGiven, false⟩
    let rest := [("LARDER_APPLY_TAGS", "\tYES"), ("LARDER_LOCATION_ORDER", "as_given\n"),
      ("LARDER_USE_VARIANT_OVERRIDES", " No ")]
    let lookup (name : String) := ([("LARDER_DEFAULT_CURRENCY", " nZd\u3000"),
      ("LARDER_CHECKOUT", "0")] ++ rest).lookup name
    let spoilt (name : String) := (("LARDER_CHECKOUT", "maybe") :: rest).lookup name
    ofLookup lookup = settings ∧
      ofLookup spoilt = { settings with defaultCurrency := .usd, checkout := true } := by
  intro settings rest lookup spoilt
  have rendered : ∀ setting : Setting,
      ∃ s, lookup setting.name = some s ∧ setting.Renders settings s := by
    intro setting
    cases setting with
    | currency =>
      exact ⟨_, rfl, (Text.spelled_iff settings.defaultCurrency.solid_code).mpr (by decide)⟩
    | order =>
      exact ⟨_, rfl, (Text.frames_iff settings.visitingOrder.solid_name).mpr (by decide)⟩
    | checkout => exact ⟨"0", by decide, flag?_eq_some_iff.mp (by decide)⟩
    | tags => exact ⟨"\tYES", by decide, flag?_eq_some_iff.mp (by decide)⟩
    | overrides => exact ⟨" No ", by decide, flag?_eq_some_iff.mp (by decide)⟩
  have spoils : Spoils {.currency, .checkout} lookup spoilt := by
    refine ⟨?_, ?_⟩
    · intro setting kept
      rw [Finset.mem_insert, Finset.mem_singleton, not_or] at kept
      cases setting with
      | currency => exact absurd rfl kept.1
      | checkout => exact absurd rfl kept.2
      | tags | order | overrides => rfl
    · intro setting missing s given
      rw [Finset.mem_insert, Finset.mem_singleton] at missing
      rcases missing with rfl | rfl
      · contradiction
      · obtain rfl : "maybe" = s := Option.some.inj given
        decide
  refine ⟨(ofLookup_reads lookup).1 settings rendered, ?_⟩
  rw [(ofLookup_reads lookup).2.1 _ spoilt spoils, (ofLookup_reads lookup).1 settings rendered]
  rfl

end Settings
end Fulfilment
