import Fulfilment.Decimal.Reader
import Mathlib.Tactic.IntervalCases

/-! Reading what was written.

The digits of a number are read back one by one, so that its text stands for the same number with
the same scale. Only the sign of a zero is lost. -/
namespace Fulfilment.Decimal

theorem digitValue?_digit {n : Nat} (small : n < 10) : digitValue? (digit n) = some n := by
  interval_cases n <;> rfl

theorem digit_ne {n : Nat} (small : n < 10) {c : Char} (other : digitValue? c = none) :
    digit n ≠ c := by
  rintro rfl
  rw [digitValue?_digit small] at other
  contradiction

theorem exists_first (n : Nat) {count : Nat} (some : 0 < count) :
    ∃ k < 10, ∃ rest, lastDigits n count = digit k :: rest := by
  induction count generalizing n with
  | zero => contradiction
  | succ more ih =>
    rcases Nat.eq_zero_or_pos more with rfl | many
    · exact ⟨n % 10, Nat.mod_lt n (by decide), [], rfl⟩
    · obtain ⟨k, small, rest, first⟩ := ih (n / 10) many
      exact ⟨k, small, rest ++ [digit (n % 10)], by rw [lastDigits, first, List.cons_append]⟩

theorem mod_tenPow_succ (n count : Nat) :
    n % tenPow (count + 1) = n / 10 % tenPow count * 10 + n % 10 := by
  rw [tenPow_succ, Nat.mul_comm, Nat.mod_mul]
  omega

theorem lt_tenPow_width (n : Nat) : n < tenPow (width n) := by
  induction n using width.induct with
  | case1 n small =>
    rw [width, if_pos small]
    exact small
  | case2 n large ih =>
    rw [width, if_neg large, tenPow_succ]
    omega

theorem width_pos (n : Nat) : 0 < width n := by
  rw [width]
  split <;> omega

section Digits

variable {n count : Nat} (rest : List Char)

theorem readWhole?_digit {mantissa k : Nat} (small : k < 10)
    (fits : mantissa * 10 + k < mantissaLimit) :
    readWhole? mantissa (digit k :: rest) = readWhole? (mantissa * 10 + k) rest := by
  rw [readWhole?, if_neg (digit_ne small rfl), if_neg (digit_ne small rfl),
    digitValue?_digit small, Option.bind_some, if_pos fits]

theorem readFraction?_digit {m : Magnitude} {k : Nat} (small : k < 10) (room : m.scale < 28)
    (fits : m.mantissa * 10 + k < mantissaLimit) :
    readFraction? m (digit k :: rest) = readFraction? ⟨m.mantissa * 10 + k, m.scale + 1⟩ rest := by
  rw [readFraction?, if_neg (fun both => digit_ne small rfl both.1), if_neg (Nat.ne_of_lt room),
    digitValue?_digit small, Option.bind_some, if_pos fits]

theorem append_digit_lt {mantissa : Nat}
    (fits : mantissa * tenPow (count + 1) + n % tenPow (count + 1) < mantissaLimit) :
    mantissa * tenPow count + n / 10 % tenPow count < mantissaLimit := by
  rw [mod_tenPow_succ, tenPow_succ, ← Nat.mul_assoc] at fits
  omega

-- The last digit is read after the others, so the induction takes what follows them along.
theorem readWhole?_lastDigits {mantissa : Nat}
    (fits : mantissa * tenPow count + n % tenPow count < mantissaLimit) :
    readWhole? mantissa (lastDigits n count ++ rest) =
      readWhole? (mantissa * tenPow count + n % tenPow count) rest := by
  induction count generalizing n rest with
  | zero => simp [lastDigits, Nat.mod_one]
  | succ more ih =>
    rw [lastDigits, List.append_assoc, ih _ (append_digit_lt fits), List.singleton_append]
    rw [mod_tenPow_succ, tenPow_succ, ← Nat.mul_assoc] at fits ⊢
    rw [readWhole?_digit _ (Nat.mod_lt n (by decide)) (by omega)]
    congr 1
    omega

theorem readFraction?_lastDigits {m : Magnitude} (room : m.scale + count ≤ 28)
    (fits : m.mantissa * tenPow count + n % tenPow count < mantissaLimit) :
    readFraction? m (lastDigits n count ++ rest) =
      readFraction? ⟨m.mantissa * tenPow count + n % tenPow count, m.scale + count⟩ rest := by
  induction count generalizing n rest with
  | zero => simp [lastDigits, Nat.mod_one]
  | succ more ih =>
    rw [lastDigits, List.append_assoc, ih _ (by omega) (append_digit_lt fits), List.singleton_append]
    rw [mod_tenPow_succ, tenPow_succ, ← Nat.mul_assoc] at fits ⊢
    rw [readFraction?_digit _ (Nat.mod_lt n (by decide)) (by dsimp only; omega) (by dsimp only; omega)]
    congr 2
    dsimp only
    omega

end Digits

theorem readUnsigned?_digit {k : Nat} (small : k < 10) (rest : List Char) :
    readUnsigned? (digit k :: rest) = readWhole? 0 (digit k :: rest) := by
  rw [readWhole?_digit rest small (by simp only [mantissaLimit]; omega), Nat.zero_mul, Nat.zero_add]
  interval_cases k <;> rfl

theorem splitSign_digit {k : Nat} (small : k < 10) (rest : List Char) :
    splitSign (digit k :: rest) = (false, digit k :: rest) := by
  interval_cases k <;> rfl

theorem exists_wholeDigits (n : Nat) : ∃ k < 10, ∃ rest, wholeDigits n = digit k :: rest :=
  exists_first n (width_pos n)

theorem readUnsigned?_wholeDigits {n : Nat} (small : n < mantissaLimit) (rest : List Char) :
    readUnsigned? (wholeDigits n ++ rest) = readWhole? n rest := by
  have whole : n % tenPow (width n) = n := Nat.mod_eq_of_lt (lt_tenPow_width n)
  have read : readWhole? 0 (wholeDigits n ++ rest) = readWhole? n rest := by
    rw [wholeDigits, readWhole?_lastDigits rest (by omega), whole, Nat.zero_mul, Nat.zero_add]
  obtain ⟨k, digitSize, more, first⟩ := exists_wholeDigits n
  rw [first, List.cons_append] at read ⊢
  rw [readUnsigned?_digit digitSize, read]

/-- The written form without its sign. -/
def unsignedChars (d : Decimal) : List Char :=
  wholeDigits (d.mantissa / tenPow d.scale) ++
    if d.scale = 0 then [] else '.' :: lastDigits d.mantissa d.scale

theorem splitSign_chars (d : Decimal) : splitSign d.chars = (d.negative, d.unsignedChars) := by
  have written : d.chars = (if d.negative then ['-'] else []) ++ d.unsignedChars :=
    List.append_assoc _ _ _
  obtain ⟨k, small, rest, first⟩ := exists_wholeDigits (d.mantissa / tenPow d.scale)
  rw [written]
  cases d.negative with
  | true => rfl
  | false =>
    rw [unsignedChars, first]
    exact splitSign_digit small _

theorem readUnsigned?_unsignedChars (d : Decimal) :
    readUnsigned? d.unsignedChars = some ⟨d.mantissa, d.scale⟩ := by
  have small := d.mantissa_lt
  rw [unsignedChars, readUnsigned?_wholeDigits (Nat.lt_of_le_of_lt (Nat.div_le_self _ _) small)]
  split
  · rename_i whole
    rw [whole, tenPow_zero, Nat.div_one, readWhole?]
  · have digits := Nat.div_add_mod' d.mantissa (tenPow d.scale)
    have read := readFraction?_lastDigits (n := d.mantissa) (m := ⟨d.mantissa / tenPow d.scale, 0⟩) []
      (by simpa using d.scale_le) (by rw [digits]; exact small)
    rw [List.append_nil, digits, Nat.zero_add] at read
    rw [readWhole?, if_pos rfl, read, readFraction?]

theorem ofText?_text (d : Decimal) : ofText? d.text = some d.plainZero := by
  have read : readPlain? d.chars = some d.plainZero := by
    rw [readPlain?, splitSign_chars]
    dsimp only
    rw [readUnsigned?_unsignedChars, Option.bind_some, ofMagnitude?, dif_pos ⟨d.mantissa_lt, d.scale_le⟩]
    rfl
  rw [ofText?, text, String.toList_ofList, ofChars?, read, Option.some_or]

end Fulfilment.Decimal
