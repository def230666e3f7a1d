import Fulfilment.Identifier
import Mathlib.Algebra.GroupWithZero.Nat

/-! Reading the written form of an identifier. -/
namespace Fulfilment.Identifier

theorem hexValue?_hexDigit : ∀ n < 16, hexValue? (hexDigit n) = some n := by decide

theorem length_hexDigits (n width : Nat) : (hexDigits n width).length = width := by
  induction width generalizing n with
  | zero => rfl
  | succ more ih => rw [hexDigits, List.length_append, ih, List.length_singleton]

-- The last digit is read after the others, so the induction takes what follows them along.
theorem readHex?_hexDigits {n width : Nat} (small : n < 16 ^ width) (seen : Nat) (rest : List Char) :
    readHex? seen (hexDigits n width ++ rest) = readHex? (seen * 16 ^ width + n) rest := by
  induction width generalizing n rest with
  | zero =>
    obtain rfl : n = 0 := by simpa using small
    rw [hexDigits, List.nil_append, Nat.pow_zero, Nat.mul_one, Nat.add_zero]
  | succ more ih =>
    have front : n / 16 < 16 ^ more := by
      rw [Nat.pow_succ] at small
      omega
    have last := hexValue?_hexDigit (n % 16) (Nat.mod_lt n (by decide))
    have whole : (seen * 16 ^ more + n / 16) * 16 + n % 16 = seen * 16 ^ (more + 1) + n := by
      rw [Nat.pow_succ, Nat.add_mul, Nat.mul_assoc]
      omega
    rw [hexDigits, List.append_assoc, ih front, List.singleton_append, readHex?, last,
      Option.bind_some, whole]

theorem length_hyphenate {digits : List Char} (size : digits.length = 32) :
    (hyphenate digits).length = 36 := by
  simp [hyphenate, size]

theorem regroup (cs : List Char) :
    cs.take 8 ++ ((cs.drop 8).take 4 ++ ((cs.drop 12).take 4 ++ ((cs.drop 16).take 4 ++ cs.drop 20))) =
      cs := by
  have group (n : Nat) (rest : List Char) (tail : rest = cs.drop (n + 4)) :
      (cs.drop n).take 4 ++ rest = cs.drop n := by
    rw [tail, ← List.drop_drop, List.take_append_drop]
  rw [group 16 _ rfl, group 12 _ rfl, group 8 _ rfl, List.take_append_drop]

theorem unhyphenate?_hyphenate {digits : List Char} (size : digits.length = 32) :
    unhyphenate? (hyphenate digits) = some digits := by
  have kept : (hyphenate digits).take 8 ++ ((hyphenate digits).drop 9).take 4 ++
      ((hyphenate digits).drop 14).take 4 ++ ((hyphenate digits).drop 19).take 4 ++
      (hyphenate digits).drop 24 = digits := by
    simpa [hyphenate, List.take_append, List.drop_append, List.drop_take, size] using regroup digits
  rw [unhyphenate?]
  simp only [kept, length_hyphenate size, and_self, if_true]

theorem ofText?_text {kind : IdKind} (id : Identifier kind) : ofText? id.text = some id := by
  have size := length_hexDigits id.value 32
  have digits : digits? (hyphenate (hexDigits id.value 32)) = some (hexDigits id.value 32) := by
    simp only [digits?, length_hyphenate size, unhyphenate?_hyphenate size]
    rfl
  have small : id.value < 16 ^ 32 := id.value_lt
  have read := readHex?_hexDigits small 0 []
  rw [List.append_nil, Nat.zero_mul, Nat.zero_add] at read
  rw [ofText?, text, String.toList_ofList, digits, Option.bind_some, read, readHex?,
    Option.bind_some, ofNat?, dif_pos id.value_lt]

end Fulfilment.Identifier
