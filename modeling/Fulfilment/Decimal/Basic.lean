import Fulfilment.Decimal.Power

/-! Decimal numbers with a sign, a mantissa below 2^96 and a scale of at most 28.

The value is the mantissa divided by ten to the scale. Numbers of different scales
can have the same value, and the written form keeps the scale. Values are compared
through `atoms`, the value counted in units of 10^-28. -/
namespace Fulfilment

/-- The number 2^96, which no mantissa reaches. -/
abbrev Decimal.mantissaLimit : Nat := 79228162514264337593543950336

structure Decimal where
  negative : Bool
  mantissa : Nat
  scale : Nat
  mantissa_lt : mantissa < Decimal.mantissaLimit
  scale_le : scale ≤ 28
deriving DecidableEq

namespace Decimal

def zero : Decimal := ⟨false, 0, 0, by decide, by decide⟩

def ofNat? (n : Nat) : Option Decimal :=
  if small : n < mantissaLimit then some ⟨false, n, 0, small, by decide⟩ else none

def ofInt? (n : Int) : Option Decimal :=
  if small : n.natAbs < mantissaLimit then some ⟨n < 0, n.natAbs, 0, small, by decide⟩ else none

/-- The given digits, the last of them at the given place after the point. -/
def ofDigits (mantissa scale : Nat) : Decimal :=
  ⟨false, mantissa % mantissaLimit, min scale 28, Nat.mod_lt _ (by decide), Nat.min_le_right _ _⟩

def isZero (d : Decimal) : Bool := d.mantissa == 0

/-- The value in units of 10^-28. -/
def atoms (d : Decimal) : Int :=
  let magnitude := d.mantissa * tenPow (28 - d.scale)
  if d.negative then -(magnitude : Int) else magnitude

/-- The order of values; the scale and the sign of a zero do not matter. -/
def less (a b : Decimal) : Bool := a.atoms < b.atoms

def atMost (a b : Decimal) : Bool := a.atoms ≤ b.atoms

/-- A zero with its minus sign removed; other numbers are kept. -/
def plainZero (d : Decimal) : Decimal :=
  if d.mantissa = 0 then { d with negative := false } else d

@[simp] theorem atoms_zero : zero.atoms = 0 := rfl

@[simp] theorem atoms_plainZero (d : Decimal) : d.plainZero.atoms = d.atoms := by
  unfold plainZero
  split
  · rename_i zero
    simp [atoms, zero]
  · rfl

theorem less_iff {a b : Decimal} : a.less b = true ↔ a.atoms < b.atoms := by
  simp [less]

theorem not_less_iff {a b : Decimal} : a.less b = false ↔ b.atoms ≤ a.atoms := by
  simp [less]

/-! The written form. -/

def digit (n : Nat) : Char := Char.ofNat (48 + n)

/-- The last `width` decimal digits of `n`, with leading zeros. -/
def lastDigits (n : Nat) : (width : Nat) → List Char
  | 0 => []
  | width + 1 => lastDigits (n / 10) width ++ [digit (n % 10)]

def width (n : Nat) : Nat := if n < 10 then 1 else width (n / 10) + 1

def wholeDigits (n : Nat) : List Char := lastDigits n (width n)

/-- The sign of a negative number, the whole part, and after a point as many digits as
the scale says. -/
def chars (d : Decimal) : List Char :=
  (if d.negative then ['-'] else []) ++ wholeDigits (d.mantissa / tenPow d.scale) ++
    if d.scale = 0 then [] else '.' :: lastDigits d.mantissa d.scale

def text (d : Decimal) : String := String.ofList d.chars

end Decimal
end Fulfilment
