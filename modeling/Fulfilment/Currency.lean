import Fulfilment.InputError
import Fulfilment.Text.Blank

/-! Currency codes: three upper-case basic Latin letters. -/
namespace Fulfilment

def isLetter (c : Char) : Bool := ('a' ≤ c && c ≤ 'z') || ('A' ≤ c && c ≤ 'Z')

structure Currency where
  code : String
  three_capitals : code.toList.length = 3 ∧ ∀ c ∈ code.toList, 'A' ≤ c ∧ c ≤ 'Z'
deriving DecidableEq

namespace Currency

/-- The currency of a caller that names none. -/
def usd : Currency := ⟨"USD", by simp⟩

def IsCode (cs : List Char) : Prop := cs.length = 3 ∧ ∀ c ∈ cs, isLetter c = true

instance (cs : List Char) : Decidable (IsCode cs) :=
  -- Looks at the given characters, not at all there are.
  have : Decidable (∀ c ∈ cs, isLetter c = true) := List.decidableBAll _ cs
  inferInstanceAs (Decidable (_ ∧ _))

private theorem toUpper_capital (c : Char) (letter : isLetter c = true) :
    'A' ≤ c.toUpper ∧ c.toUpper ≤ 'Z' := by
  simp only [isLetter, Bool.or_eq_true, Bool.and_eq_true, decide_eq_true_eq, Char.le_def,
    UInt32.le_iff_toNat_le] at letter ⊢
  unfold Char.toUpper
  split
  · rename_i small
    simp only [UInt32.le_iff_toNat_le] at small ⊢
    have shifted : (c.val + ('A'.val - 'a'.val)).toNat = c.val.toNat - 32 := by
      rw [UInt32.toNat_add]
      simp at *
      omega
    rw [shifted]
    simp at *
    omega
  · rename_i other
    simp [UInt32.le_iff_toNat_le] at *
    omega

theorem capitals_of_isCode {cs : List Char} (code : IsCode cs) :
    (String.ofList (cs.map Char.toUpper)).toList.length = 3 ∧
      ∀ c ∈ (String.ofList (cs.map Char.toUpper)).toList, 'A' ≤ c ∧ c ≤ 'Z' := by
  refine ⟨by simp [code.1], ?_⟩
  intro c member
  simp only [String.toList_ofList, List.mem_map] at member
  obtain ⟨letter, inside, rfl⟩ := member
  exact toUpper_capital letter (code.2 letter inside)

/-- Blanks around a code and the case of its letters do not matter. -/
def parse (s : String) : Except InputError Currency :=
  let trimmed := Text.trimChars s.toList
  if code : IsCode trimmed then
    .ok ⟨String.ofList (trimmed.map Char.toUpper), capitals_of_isCode code⟩
  else .error (.currency (String.ofList trimmed))

end Currency
end Fulfilment
