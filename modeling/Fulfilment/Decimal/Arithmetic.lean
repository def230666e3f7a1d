import Fulfilment.Decimal.Basic

/-! Arithmetic on decimal numbers.

A result that needs too many digits loses the fewest that make it fit, and what is
left is rounded once, halves to the even neighbour. Where it does not fit even as a
whole number the operation has no result. -/
namespace Fulfilment.Decimal

/-- The nearest whole number to `n / d`; of two the even one. -/
def roundHalfEven (n d : Nat) : Nat :=
  if d < 2 * (n % d) ∨ (2 * (n % d) = d ∧ n / d % 2 = 1) then n / d + 1 else n / d

@[simp] theorem roundHalfEven_one (n : Nat) : roundHalfEven n 1 = n := by
  simp [roundHalfEven, Nat.mod_one]

theorem roundHalfEven_le_succ (n d : Nat) : roundHalfEven n d ≤ n / d + 1 := by
  unfold roundHalfEven
  split <;> omega

theorem roundHalfEven_lt {n : Nat} (d : Nat) (small : n < mantissaLimit) (ten : 10 ≤ d) :
    roundHalfEven n d < mantissaLimit := by
  have quotient : n / d ≤ n / 10 := Nat.div_le_div_left ten (by decide)
  have := roundHalfEven_le_succ n d
  simp only [mantissaLimit] at small ⊢
  omega

/-- The number with mantissa `m` and scale `s` after dropping the fewest of its fraction
digits that leave a mantissa below 2^96 and a scale of at most 28. -/
def fit? (negative : Bool) (m s : Nat) : Option Decimal :=
  (List.range (s + 1)).findSome? fun dropped =>
    if fits : roundHalfEven m (tenPow dropped) < mantissaLimit ∧ s ≤ 28 + dropped then
      some ⟨negative, roundHalfEven m (tenPow dropped), s - dropped, fits.1, by omega⟩
    else none

/-- The product. A zero factor gives a plain zero; so does a product of two small
factors that has more than 47 fraction digits. -/
def mul? (a b : Decimal) : Option Decimal :=
  if a.mantissa = 0 ∨ b.mantissa = 0 then some zero
  else
    let exact := fit? (a.negative != b.negative) (a.mantissa * b.mantissa) (a.scale + b.scale)
    if a.mantissa < 4294967296 ∧ b.mantissa < 4294967296 then
      if 47 < a.scale + b.scale then some zero else exact.map plainZero
    else exact

/-- The signed mantissa at the scale `s`, which is at least that of the number. -/
def mantissaAt (d : Decimal) (s : Nat) : Int :=
  let magnitude := d.mantissa * tenPow (s - d.scale)
  if d.negative then -(magnitude : Int) else magnitude

/-- The sum. A zero summand leaves the other as it is. -/
def add? (a b : Decimal) : Option Decimal :=
  if a.mantissa = 0 then some b
  else if b.mantissa = 0 then some a
  else
    let s := max a.scale b.scale
    let sum := a.mantissaAt s + b.mantissaAt s
    fit? (sum < 0) sum.natAbs s

def sum? (terms : List (Option Decimal)) : Option Decimal :=
  terms.foldlM (fun total term => term.bind total.add?) zero

def dropZeros (count : Nat) (d : Decimal) : Decimal :=
  if zeros : count ≤ d.scale ∧ d.mantissa % tenPow count = 0 then
    ⟨d.negative, d.mantissa / tenPow count, d.scale - count,
      Nat.lt_of_le_of_lt (Nat.div_le_self _ _) d.mantissa_lt, by have := d.scale_le; omega⟩
  else d

/-- Drops eight zeros at once, for which the last 32 bits of the mantissa must be zero. -/
def dropEightZeros (d : Decimal) : Decimal :=
  if d.mantissa % 4294967296 = 0 then dropZeros 8 d else d

/-- Drops zeros of the fraction in blocks of eight, four, two and one. -/
def shorten (d : Decimal) : Decimal :=
  dropZeros 1 <| dropZeros 2 <| dropZeros 4 <|
    dropEightZeros <| dropEightZeros <| dropEightZeros d

/-- A hundredth of a number whose mantissa ends in two zeros has the same scale. Any
other is written with up to seven zeros more, as many as fit, moved two places and
shortened; only what has no room for two more places is rounded. -/
def hundredth (d : Decimal) : Decimal :=
  if d.mantissa = 0 then zero
  else if d.mantissa % 100 = 0 then
    ⟨d.negative, d.mantissa / 100, d.scale,
      Nat.lt_of_le_of_lt (Nat.div_le_self _ _) d.mantissa_lt, d.scale_le⟩
  else
    let widened := [7, 6, 5, 4, 3, 2, 1, 0].findSome? fun zeros =>
      if fits : d.mantissa * tenPow zeros < mantissaLimit ∧ d.scale + 2 + zeros ≤ 28 then
        some (⟨d.negative, d.mantissa * tenPow zeros, d.scale + 2 + zeros, fits.1, fits.2⟩ : Decimal)
      else none
    match widened with
    | some result => result.shorten
    | none =>
      let places := if d.scale = 28 then 100 else 10
      (⟨d.negative, roundHalfEven d.mantissa places, 28,
        roundHalfEven_lt places d.mantissa_lt (by simp only [places]; split <;> decide),
        by decide⟩ : Decimal).plainZero.shorten

/-- At most two fraction digits. A zero keeps its sign here and has two of them; a number
that is rounded to zero has none. -/
def roundCents (d : Decimal) : Decimal :=
  if room : d.scale ≤ 2 then d
  else if d.mantissa = 0 then ⟨d.negative, 0, 2, zero.mantissa_lt, by decide⟩
  else
    (⟨d.negative, roundHalfEven d.mantissa (tenPow (d.scale - 2)), 2,
      roundHalfEven_lt _ d.mantissa_lt (ten_le_tenPow (by omega)), by decide⟩ : Decimal).plainZero

end Fulfilment.Decimal
