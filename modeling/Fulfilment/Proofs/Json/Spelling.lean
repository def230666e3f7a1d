import Fulfilment.Proofs.Currency
import Fulfilment.Proofs.Json.Acceptance

/-! Records in which currency codes are spelled in another way.

A field is blind to the spelling where it reads the same from every spelling of a code, or
reads nothing from a code at all. A record of blind fields is blind itself. -/
namespace Fulfilment

namespace Decimal

/-- No plain number begins with a character from outside the range of signs, points and digits. -/
theorem readPlain?_outside {c : Char} (outside : c.toNat < 43 ∨ 57 < c.toNat) (rest : List Char) :
    readPlain? (c :: rest) = none := by
  have other (d : Char) (within : 43 ≤ d.toNat ∧ d.toNat ≤ 57) : c ≠ d := by
    rintro rfl
    omega
  have unsigned : splitSign (c :: rest) = (false, c :: rest) := by
    rw [splitSign]
    · intro tail same
      exact other '-' (by decide) (List.cons.inj same).1
    · intro tail same
      exact other '+' (by decide) (List.cons.inj same).1
  have noDigit : digitValue? c = none := by
    rw [digitValue?, if_neg]
    simp only [Char.le_def, UInt32.le_iff_toNat_le]
    have here : c.val.toNat = c.toNat := rfl
    have zero : '0'.val.toNat = 48 := rfl
    have nine : '9'.val.toNat = 57 := rfl
    omega
  have unread : readUnsigned? (c :: rest) = none := by
    rw [readUnsigned?, noDigit]
    · rfl
    · exact other '.' (by decide)
  rw [readPlain?, unsigned]
  simp only [unread, Option.bind_none]

theorem ofChars?_outside {c : Char} (outside : c.toNat < 43 ∨ 57 < c.toNat) (rest : List Char) :
    ofChars? (c :: rest) = none := by
  have base : readPlain? ((c :: rest).takeWhile fun c => c != 'e' && c != 'E') = none := by
    rw [List.takeWhile_cons]
    split
    · exact readPlain?_outside outside _
    · rfl
  have powers : readScientific? (c :: rest) = none := by
    rw [readScientific?, List.span_eq_takeWhile_dropWhile]
    -- Whatever power follows the letter, the number before it cannot be read.
    split
    · rfl
    all_goals
      rename_i divided
      obtain ⟨rfl, -⟩ := Prod.mk.inj divided
      rw [base]
      rfl
  rw [ofChars?, readPlain?_outside outside, powers]
  rfl

end Decimal

namespace Currency

/-- A code is no decimal, in whatever way it is spelled. -/
theorem Spells.ofText?_eq_none {s : String} {letters : List Char} (spells : Spells s letters) :
    Decimal.ofText? s = none := by
  obtain ⟨before, after, whole, blank⟩ := spells.around
  rw [Decimal.ofText?, whole]
  cases before with
  | cons c before =>
    have range := blank_range (blank c List.mem_cons_self)
    exact Decimal.ofChars?_outside (by omega) _
  | nil =>
    cases letters with
    | nil => cases spells.three
    | cons c letters =>
      have range := letter_range (spells.letters c List.mem_cons_self)
      exact Decimal.ofChars?_outside (by omega) _

end Currency

namespace Json

/-- A value in two spellings: the same value, or two texts for one currency code. -/
inductive Value.SameCode : Value → Value → Prop
  | refl (value : Value) : SameCode value value
  | code {s t : String} {c : Currency} (accepted : Currency.parse s = .ok c)
      (respelled : Currency.Respelled s t) : SameCode (.string s) (.string t)

/-- A record in two spellings: currency codes among its members or elements may differ in
theirs. -/
inductive Value.Respelled : Value → Value → Prop
  | refl (value : Value) : Respelled value value
  | object {members others : List (String × Value)} (matched : Matched SameCode members others) :
      Respelled (.object members) (.object others)
  | array {items others : List Value} (matched : List.Forall₂ SameCode items others) :
      Respelled (.array items) (.array others)

/-- What is read from a value is read from its other spellings too. -/
def Decoder.Blind {α : Type} (decode : Decoder α) : Prop :=
  ∀ ⦃value other : Value⦄, value.SameCode other →
    ∀ ⦃a : α⦄, decode value = .ok a → decode other = .ok a

namespace Decoder

variable {α : Type} {decode : Decoder α}

theorem blind_of_codes (texts : ∀ {s t : String} {c : Currency}, Currency.parse s = .ok c →
    Currency.Respelled s t → ∀ {a : α}, decode (.string s) = .ok a → decode (.string t) = .ok a) :
    decode.Blind := by
  intro value other same a read
  cases same with
  | refl => exact read
  | code accepted respelled => exact texts accepted respelled read

theorem blind_decimal : decimal.Blind := by
  apply blind_of_codes
  intro s t c accepted _ d read
  obtain ⟨letters, spells⟩ := Currency.exists_parse_iff.mp ⟨c, accepted⟩
  rw [decimal, spells.ofText?_eq_none] at read
  cases read

theorem blind_units : units.Blind := by
  apply blind_of_codes
  intro s t c _ _ n read
  cases read

theorem blind_currency : currency.Blind := by
  apply blind_of_codes
  intro s t c accepted respelled d read
  rw [currency, accepted] at read
  rw [currency, Currency.parse_respelled respelled accepted]
  exact read

theorem Blind.nullable (blind : decode.Blind) : decode.nullable.Blind := by
  have read_text (s : String) : decode.nullable (.string s) = (decode (.string s)).map some := rfl
  apply blind_of_codes
  intro s t c accepted respelled o read
  rw [read_text] at read ⊢
  cases first : decode (.string s) with
  | error reason =>
    rw [first] at read
    cases read
  | ok a =>
    rw [first] at read
    rw [blind (.code accepted respelled) first]
    exact read

end Decoder

namespace Layout

/-- A record of fields that are blind to the spelling of codes. -/
inductive Blind : {α : Type} → Layout α → Prop
  | pure {α : Type} (value : α) : Blind (Layout.pure value)
  | field {α : Type} (name : String) {decode : Decoder α} {absent ended : Option α}
      (blind : decode.Blind) : Blind (Layout.field name decode absent ended)
  | seq {α β : Type} {first : Layout (α → β)} {second : Layout α} (left : Blind first)
      (right : Blind second) : Blind (first.seq second)

theorem lookup_matched {members others : List (String × Value)} {R : Value → Value → Prop}
    (matched : Value.Matched R members others) (name : String) :
    Option.Rel R (members.lookup name) (others.lookup name) := by
  induction matched with
  | nil => exact .none
  | @cons member other _ _ head _ ih =>
    rw [Keyed.lookup_cons, Keyed.lookup_cons, ← head.1]
    split
    · exact .some head.2
    · exact ih

theorem forM_matched {members others : List (String × Value)} {R : Value → Value → Prop}
    (matched : Value.Matched R members others) {check : String × Value → Except DecodeError Unit}
    (kept : ∀ {name : String} {value other : Value}, R value other →
      check (name, value) = .ok () → check (name, other) = .ok ())
    (passed : members.forM check = .ok ()) : others.forM check = .ok () := by
  rw [forM_eq_ok] at passed ⊢
  induction matched with
  | nil => exact passed
  | @cons member other _ _ head _ ih =>
    obtain ⟨name, value⟩ := member
    obtain ⟨again, respelled⟩ := other
    obtain ⟨rfl, related⟩ := head
    rw [List.forall_mem_cons] at passed ⊢
    exact ⟨kept related passed.1, ih passed.2⟩

namespace Blind

variable {α : Type} {layout : Layout α} (blind : layout.Blind)

include blind

theorem visit {value other : Value} (same : value.SameCode other) {key : String}
    (read : layout.visit key value = .ok ()) : layout.visit key other = .ok () := by
  induction blind with
  | pure => rfl
  | @field α name decode absent ended blind =>
    rw [Layout.field] at read ⊢
    dsimp only at read ⊢
    split at read
    · rename_i here
      rw [if_pos here]
      cases first : decode value with
      | error reason =>
        rw [first] at read
        cases read
      | ok a =>
        rw [blind same first]
        rfl
    · rename_i other
      rw [if_neg other]
  | seq _ _ left right =>
    obtain ⟨⟨⟩, first, second⟩ := bind_eq_ok.mp read
    exact bind_eq_ok.mpr ⟨(), left first, right second⟩

theorem ofMembers {members others : List (String × Value)}
    (matched : Value.Matched Value.SameCode members others) {a : α}
    (read : layout.ofMembers members = .ok a) : layout.ofMembers others = .ok a := by
  induction blind with
  | pure => exact read
  | @field α name decode absent ended blind =>
    rw [Layout.field] at read ⊢
    dsimp only at read ⊢
    generalize members.lookup name = found, others.lookup name = again,
      lookup_matched matched name = related at read
    cases related with
    | none => exact read
    | some same => exact blind same read
  | seq _ _ left right =>
    obtain ⟨build, first, value, second, result⟩ := ofMembers_seq.mp read
    exact ofMembers_seq.mpr ⟨build, left first, value, right second, result⟩

theorem ofItems {expected : String} {position : Nat} {items others : List Value}
    (matched : List.Forall₂ Value.SameCode items others) {a : α} {rest : List Value}
    (read : layout.ofItems expected position items = .ok (a, rest)) :
    ∃ left, List.Forall₂ Value.SameCode rest left ∧
      layout.ofItems expected position others = .ok (a, left) := by
  induction blind generalizing position items others rest with
  | pure =>
    cases read
    exact ⟨others, matched, rfl⟩
  | @field α name decode absent ended blind =>
    rw [Layout.field] at read ⊢
    cases matched with
    | nil =>
      cases ended with
      | none => cases read
      | some value =>
        cases read
        exact ⟨[], .nil, rfl⟩
    | @cons item other rest left same tail =>
      dsimp only at read ⊢
      cases first : decode item with
      | error reason =>
        rw [first] at read
        cases read
      | ok value =>
        rw [first] at read
        cases read
        refine ⟨left, tail, ?_⟩
        rw [blind same first]
        rfl
  | seq _ _ left right =>
    obtain ⟨⟨build, between⟩, first, read⟩ := bind_eq_ok.mp read
    obtain ⟨⟨value, rest⟩, second, result⟩ := bind_eq_ok.mp read
    cases result
    obtain ⟨partway, matched, first⟩ := left matched first
    obtain ⟨remaining, matched, second⟩ := right matched second
    refine ⟨remaining, matched, ?_⟩
    exact bind_eq_ok.mpr ⟨_, first, bind_eq_ok.mpr ⟨_, second, rfl⟩⟩

/-- What a record is read as does not depend on how its codes are spelled. -/
theorem decode {value other : Value} (respelled : value.Respelled other) (title : String)
    (strict : Bool) {a : α} (read : layout.decode title strict value = .ok a) :
    layout.decode title strict other = .ok a := by
  cases respelled with
  | refl => exact read
  | object matched =>
    obtain ⟨⟨⟩, visited, read⟩ := bind_eq_ok.mp read
    refine bind_eq_ok.mpr ⟨(), forM_matched matched ?_ visited, blind.ofMembers matched read⟩
    intro name value other same passed
    by_cases listed : name ∈ layout.names
    · rw [if_pos listed] at passed ⊢
      exact blind.visit same passed
    · rw [if_neg listed] at passed ⊢
      exact passed
  | array matched =>
    obtain ⟨⟨value, rest⟩, read, ended⟩ := bind_eq_ok.mp read
    obtain ⟨left, matched, read⟩ := blind.ofItems matched read
    refine bind_eq_ok.mpr ⟨_, read, ?_⟩
    cases matched with
    | nil => exact ended
    | cons _ _ => cases ended

end Blind

end Layout
end Json
end Fulfilment
