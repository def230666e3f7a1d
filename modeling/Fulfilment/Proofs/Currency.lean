import Mathlib
import Fulfilment.Proofs.Json.Record

/-! Spellings of currency codes.

A text is a code where it is three letters with nothing but blanks around them. Two texts are
the same code where they agree up to those blanks and to the case of the letters. -/
namespace Fulfilment

theorem isLetter_toLower (c : Char) : isLetter c.toLower = isLetter c := by
  have letter (d : Char) : isLetter d = d.isAlpha := by
    rw [Bool.eq_iff_iff]
    simp [isLetter, Char.isAlpha, Char.isUpper, Char.isLower, Char.le_def, or_comm]
  rw [letter, letter, Char.isAlpha_toLower_eq_isAlpha]

theorem letter_range {c : Char} (letter : isLetter c = true) :
    65 ≤ c.toNat ∧ c.toNat ≤ 90 ∨ 97 ≤ c.toNat ∧ c.toNat ≤ 122 := by
  simp only [isLetter, Bool.or_eq_true, Bool.and_eq_true, decide_eq_true_eq, Char.le_def,
    UInt32.le_iff_toNat_le] at letter
  exact letter.symm

theorem blank_range {c : Char} (blank : Text.isBlank c = true) : c.toNat ≤ 32 ∨ 133 ≤ c.toNat := by
  simp only [Text.isBlank, Bool.or_eq_true, Bool.and_eq_true, decide_eq_true_eq,
    beq_iff_eq] at blank
  omega

theorem letter_not_blank {c : Char} (letter : isLetter c = true) : Text.isBlank c = false := by
  have range := letter_range letter
  rw [Bool.eq_false_iff]
  intro blank
  have outside := blank_range blank
  omega

namespace Text

theorem sameIgnoringCase_iff {a b : String} :
    sameIgnoringCase a b = true ↔ a.toList.map Char.toLower = b.toList.map Char.toLower :=
  beq_iff_eq

/-- Comparing without regard to case is blind to the case of either text. -/
theorem sameIgnoringCase_congr {a b c d : String} (first : sameIgnoringCase a b = true)
    (second : sameIgnoringCase c d = true) : sameIgnoringCase b d = sameIgnoringCase a c := by
  rw [sameIgnoringCase_iff] at first second
  rw [sameIgnoringCase, sameIgnoringCase, first, second]

theorem exists_around (cs : List Char) : ∃ before after, cs = before ++ trimChars cs ++ after ∧
    ∀ c ∈ before ++ after, isBlank c = true := by
  let rest := cs.dropWhile isBlank
  refine ⟨cs.takeWhile isBlank, (rest.reverse.takeWhile isBlank).reverse, ?_, ?_⟩
  · have back : trimChars cs ++ (rest.reverse.takeWhile isBlank).reverse = rest := by
      rw [trimChars, ← List.reverse_append, List.takeWhile_append_dropWhile, List.reverse_reverse]
    rw [List.append_assoc, back, List.takeWhile_append_dropWhile]
  · intro c member
    rcases List.mem_append.mp member with front | back
    · exact List.all_eq_true.mp List.all_takeWhile c front
    · exact List.all_eq_true.mp List.all_takeWhile c (List.mem_reverse.mp back)

theorem dropWhile_dense {core : List Char} (dense : ∀ c ∈ core, isBlank c = false)
    (full : core ≠ []) (rest : List Char) : (core ++ rest).dropWhile isBlank = core ++ rest := by
  cases core with
  | nil => exact absurd rfl full
  | cons c core =>
    have head : ¬ isBlank c = true := by
      rw [dense c List.mem_cons_self]
      exact Bool.false_ne_true
    rw [List.cons_append, List.dropWhile_cons_of_neg head]

theorem trimChars_around {before core after : List Char}
    (blank : ∀ c ∈ before ++ after, isBlank c = true) (dense : ∀ c ∈ core, isBlank c = false)
    (full : core ≠ []) : trimChars (before ++ core ++ after) = core := by
  have front : ∀ c ∈ before, isBlank c = true :=
    fun c member => blank c (List.mem_append_left _ member)
  have back : ∀ c ∈ after.reverse, isBlank c = true :=
    fun c member => blank c (List.mem_append_right _ (List.mem_reverse.mp member))
  have turned : core.reverse.dropWhile isBlank = core.reverse := by
    have mirrored : ∀ c ∈ core.reverse, isBlank c = false :=
      fun c member => dense c (List.mem_reverse.mp member)
    have whole := dropWhile_dense mirrored (List.reverse_ne_nil_iff.mpr full) []
    rwa [List.append_nil] at whole
  rw [trimChars, List.append_assoc, List.dropWhile_append_of_pos front,
    dropWhile_dense dense full after, List.reverse_append, List.dropWhile_append_of_pos back,
    turned, List.reverse_reverse]

end Text

namespace Currency

/-- Three letters with nothing but blanks around them. -/
structure Spells (s : String) (letters : List Char) : Prop where
  around : ∃ before after, s.toList = before ++ letters ++ after ∧
    ∀ c ∈ before ++ after, Text.isBlank c = true
  three : letters.length = 3
  letters : ∀ c ∈ letters, isLetter c = true

/-- Texts that agree up to the blanks around them and to the case of letters. -/
def Respelled (s t : String) : Prop := Text.sameIgnoringCase (Text.trim s) (Text.trim t) = true

instance (s t : String) : Decidable (Respelled s t) := inferInstanceAs (Decidable (_ = true))

theorem spells_iff {s : String} {letters : List Char} :
    Spells s letters ↔ Text.trimChars s.toList = letters ∧ IsCode letters := by
  constructor
  · intro spells
    obtain ⟨before, after, whole, blank⟩ := spells.around
    refine ⟨?_, spells.three, spells.letters⟩
    rw [whole]
    apply Text.trimChars_around blank fun c member => letter_not_blank (spells.letters c member)
    intro none
    have three := spells.three
    rw [none] at three
    contradiction
  · intro both
    obtain ⟨rfl, code⟩ := both
    exact ⟨Text.exists_around s.toList, code.1, code.2⟩

theorem ext_code {c d : Currency} : c = d ↔ c.code = d.code := by
  cases c
  cases d
  simp

theorem parse_ok {s : String} {c : Currency} : parse s = .ok c ↔
    IsCode (Text.trimChars s.toList) ∧
      c.code = String.ofList ((Text.trimChars s.toList).map Char.toUpper) := by
  by_cases code : IsCode (Text.trimChars s.toList)
  · rw [parse, dif_pos code, Except.ok.injEq, ext_code, and_iff_right code, eq_comm]
  · simp [parse, code]

theorem exists_parse_iff {s : String} :
    (∃ c, parse s = .ok c) ↔ ∃ letters, Spells s letters := by
  simp only [parse_ok, spells_iff, exists_eq_left']
  constructor
  · intro accepted
    exact accepted.choose_spec.1
  · intro code
    exact ⟨⟨_, capitals_of_isCode code⟩, code, rfl⟩

theorem respelled_iff {s t : String} : Respelled s t ↔
    (Text.trimChars s.toList).map Char.toLower = (Text.trimChars t.toList).map Char.toLower := by
  rw [Respelled, Text.sameIgnoringCase_iff, Text.trim, Text.trim, String.toList_ofList,
    String.toList_ofList]

theorem upper_eq_iff {first second : List Char} :
    first.map Char.toUpper = second.map Char.toUpper ↔
      first.map Char.toLower = second.map Char.toLower := by
  have down (cs : List Char) : (cs.map Char.toUpper).map Char.toLower = cs.map Char.toLower := by
    simp [Function.comp_def, Char.toLower_toUpper_eq_toLower]
  have up (cs : List Char) : (cs.map Char.toLower).map Char.toUpper = cs.map Char.toUpper := by
    simp [Function.comp_def, Char.toUpper_toLower_eq_toUpper]
  constructor
  · intro same
    rw [← down first, same, down]
  · intro same
    rw [← up first, same, up]

theorem isCode_of_toLower_eq {first second : List Char}
    (same : first.map Char.toLower = second.map Char.toLower) (code : IsCode first) :
    IsCode second := by
  have lowered {cs : List Char} : IsCode (cs.map Char.toLower) ↔ IsCode cs := by
    simp [IsCode, isLetter_toLower]
  rw [← lowered, ← same]
  exact lowered.mpr code

theorem parse_respelled {s t : String} (respelled : Respelled s t) {c : Currency}
    (accepted : parse s = .ok c) : parse t = .ok c := by
  have same := respelled_iff.mp respelled
  rw [parse_ok] at accepted ⊢
  refine ⟨isCode_of_toLower_eq same accepted.1, ?_⟩
  rw [accepted.2, upper_eq_iff.mpr same]

/-- Two accepted texts give one currency exactly where they agree up to blanks and case. -/
theorem eq_iff_respelled {s t : String} {c d : Currency} (first : parse s = .ok c)
    (second : parse t = .ok d) : c = d ↔ Respelled s t := by
  rw [ext_code, (parse_ok.mp first).2, (parse_ok.mp second).2, String.ofList_inj, upper_eq_iff,
    respelled_iff]

/-- Currencies read from two spellings of one code. -/
inductive Reread (c d : Currency) : Prop
  | intro {s t : String} (respelled : Respelled s t) (first : parse s = .ok c)
      (second : parse t = .ok d) : Reread c d

theorem Reread.eq {c d : Currency} (reread : Reread c d) : d = c := by
  obtain ⟨respelled, first, second⟩ := reread
  exact ((eq_iff_respelled first second).mpr respelled).symm

theorem eq_of_rel_reread {own other : Option Currency} (related : Option.Rel Reread own other) :
    other = own := by
  cases related with
  | none => rfl
  | some reread => rw [reread.eq]

end Currency
end Fulfilment
