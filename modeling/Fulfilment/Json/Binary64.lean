/-! Finite binary floating-point numbers of 64 bits and their shortest decimal digits.

A number is kept as its bits: a sign, eleven bits of exponent and fifty-two of
fraction, which take up the numbers below 4503599627370496. It stands for every decimal
number that is closer to it than to any neighbour, and is written with the fewest digits
that do so. Of two equally near choices of these digits the caller says which to take. -/
namespace Fulfilment.Json

structure Binary64 where
  bits : UInt64
  finite : bits.toNat / 4503599627370496 % 2048 < 2047
deriving DecidableEq

/-- Decimal digits and a power of ten: `digits * 10 ^ exponent`. -/
structure Digits where
  negative : Bool
  digits : Nat
  exponent : Int
deriving DecidableEq

/-- Which of two neighbouring digit sequences stands for a number halfway between them. -/
inductive Tie
  | even | larger
deriving DecidableEq

/-- Whether a number halfway between `lower` and the next one is taken down. -/
def Tie.down (tie : Tie) (lower : Nat) : Bool :=
  match tie with
  | .even => lower % 2 == 0
  | .larger => false

namespace Binary64

def ofBits? (bits : UInt64) : Option Binary64 :=
  if finite : bits.toNat / 4503599627370496 % 2048 < 2047 then some ⟨bits, finite⟩ else none

def negative (x : Binary64) : Bool := 9223372036854775808 ≤ x.bits.toNat

def biased (x : Binary64) : Nat := x.bits.toNat / 4503599627370496 % 2048

def fraction (x : Binary64) : Nat := x.bits.toNat % 4503599627370496

/-- The magnitude is `significand * 2 ^ exponent`. -/
def significand (x : Binary64) : Nat :=
  if x.biased = 0 then x.fraction else 4503599627370496 + x.fraction

def exponent (x : Binary64) : Int :=
  if x.biased = 0 then -1074 else x.biased - 1075

/-- A power with an exponent of either sign, as a numerator and a denominator. -/
def ratio (base : Nat) (power : Int) : Nat × Nat :=
  if 0 ≤ power then (Nat.pow base power.toNat, 1) else (1, Nat.pow base (-power).toNat)

/-- The numerator of the magnitude over `(ratio 2 (exponent - 2)).2`, in quarters of the
last bit. -/
def quarters (x : Binary64) : Nat := 4 * x.significand

/-- Half the distance to the next smaller number, in quarters of the last bit. -/
def below (x : Binary64) : Nat := if x.fraction = 0 ∧ 1 < x.biased then 1 else 2

/-- Whether `d * 10 ^ e` rounds to this number: it lies within half the distance to each
neighbour, or at that distance if the significand is even. -/
def covers (x : Binary64) (d : Nat) (e : Int) : Bool :=
  let two := ratio 2 (x.exponent - 2)
  let ten := ratio 10 e
  let value := d * ten.1 * two.2
  let low := (x.quarters - x.below) * two.1 * ten.2
  let high := (x.quarters + 2) * two.1 * ten.2
  if x.significand % 2 = 0 then low ≤ value && value ≤ high else low < value && value < high

def digitCount (n : Nat) : Nat := if n = 0 then 0 else digitCount (n / 10) + 1

/-- The power of ten of the first digit of `n / d`. -/
def leading (n d : Nat) : Int :=
  if d ≤ n then (digitCount (n / d) : Int) - 1
  else
    let places := digitCount (d / n)
    if n * Nat.pow 10 (places - 1) = d then 1 - (places : Int) else -(places : Int)

/-- The neighbour with `count` digits that rounds to the number, the nearer one if both
do. -/
def neighbour? (x : Binary64) (tie : Tie) (count : Nat) : Option (Nat × Int) :=
  let two := ratio 2 (x.exponent - 2)
  let e := leading (x.quarters * two.1) two.2 - count + 1
  let ten := ratio 10 e
  let n := x.quarters * two.1 * ten.2
  let d := two.2 * ten.1
  let lower := n / d
  let nearer := if 2 * (n % d) < d ∨ (2 * (n % d) = d ∧ tie.down lower) then lower else lower + 1
  let other := if nearer = lower then lower + 1 else lower
  if x.covers nearer e then some (nearer, e)
  else if x.covers other e then some (other, e)
  else none

def stripZeros (digits : Nat) (exponent : Int) : Nat × Int :=
  if 0 < digits ∧ digits % 10 = 0 then stripZeros (digits / 10) (exponent + 1)
  else (digits, exponent)
termination_by digits
decreasing_by omega

def exactDigits (x : Binary64) : Nat × Int :=
  if 0 ≤ x.exponent then (x.significand * Nat.pow 2 x.exponent.toNat, 0)
  else (x.significand * Nat.pow 5 (-x.exponent).toNat, x.exponent)

/-- The fewest digits that stand for the number; seventeen always do. -/
def shortest (x : Binary64) (tie : Tie) : Digits :=
  if x.significand = 0 then ⟨x.negative, 0, 0⟩
  else
    let found := (((List.range 17).map (· + 1)).findSome? (x.neighbour? tie)).getD x.exactDigits
    let stripped := stripZeros found.1 found.2
    ⟨x.negative, stripped.1, stripped.2⟩

end Binary64

namespace Digits

def chars (d : Digits) : List Char := Nat.toDigits 10 d.digits

def sign (d : Digits) : List Char := if d.negative then ['-'] else []

/-- The power of ten of the first digit. -/
def leading (d : Digits) : Int := d.exponent + d.chars.length - 1

/-- All digits before and after a point, with zeros up to the point and, where there is
a fraction, after it. -/
def positional (d : Digits) : List Char :=
  let cs := d.chars
  if 0 ≤ d.exponent then
    if d.digits = 0 then cs else cs ++ List.replicate d.exponent.toNat '0'
  else
    let places := (-d.exponent).toNat
    let padded := List.replicate (places + 1 - cs.length) '0' ++ cs
    padded.take (padded.length - places) ++ '.' :: padded.drop (padded.length - places)

def plain (d : Digits) : List Char := d.sign ++ d.positional

/-- One digit, a point and the others, and the power of ten with its sign. -/
def scientific (d : Digits) : List Char :=
  let first := d.chars.take 1
  let others := d.chars.drop 1
  first ++ (if others.isEmpty then [] else '.' :: others) ++
    ['e', if d.leading < 0 then '-' else '+'] ++ Nat.toDigits 10 d.leading.natAbs

/-- How a number is shown in a message: positional, with at least one fraction digit,
while the first digit stands between 10^-5 and 10^15. -/
def shown (d : Digits) : List Char :=
  d.sign ++
    if -5 ≤ d.leading ∧ d.leading ≤ 15 then
      if 0 ≤ d.exponent then d.positional ++ ['.', '0'] else d.positional
    else d.scientific

end Digits
end Fulfilment.Json
