import Fulfilment.Decimal.Basic

/-! Reading decimal numbers.

A number is an optional sign and digits with at most one point, where underscores may
stand after the first digit. Digits after the point that do not fit are rounded away
at the first of them, and an underscore in its place counts as a zero unless the number
is long. A text that is no such number may be one followed by a power of
ten after an `e`. -/
namespace Fulfilment.Decimal

def digitValue? (c : Char) : Option Nat :=
  if '0' ≤ c ∧ c ≤ '9' then some (c.toNat - 48) else none

/-- What may follow the digit at which a fraction was cut. -/
def isFiller (c : Char) : Bool := c == '_' || (digitValue? c).isSome

structure Magnitude where
  mantissa : Nat
  scale : Nat
deriving DecidableEq

/-- Adds one at the last digit, giving up that digit where the mantissa would overflow. -/
def Magnitude.roundUp? (m : Magnitude) : Option Magnitude :=
  if m.mantissa + 1 < mantissaLimit then some ⟨m.mantissa + 1, m.scale⟩
  else if m.scale = 0 then none
  else some ⟨(m.mantissa + 5) / 10, m.scale - 1⟩

/-- Whether the digits before the last one make a mantissa of 1844674407370954906 or more.
Only after such a number is an underscore passed over where no digit fits any more. -/
def Magnitude.isLong (m : Magnitude) : Bool := 1844674407370954906 ≤ m.mantissa / 10

/-- Ends a fraction at the first digit that does not fit; an underscore counts as zero. -/
def Magnitude.settle? (m : Magnitude) (next : Char) (rest : List Char) : Option Magnitude :=
  if isFiller next && rest.all isFiller then
    if 5 ≤ (digitValue? next).getD 0 then m.roundUp? else some m
  else none

/-- The digits after the point. Underscores do not matter, except that after the
twenty-eighth digit of a number that is not long one ends the fraction. -/
def readFraction? (m : Magnitude) : List Char → Option Magnitude
  | [] => some m
  | c :: rest =>
    if c = '_' ∧ (m.scale < 28 ∨ m.isLong) then readFraction? m rest
    else if m.scale = 28 then m.settle? c rest
    else (digitValue? c).bind fun digit =>
      if m.mantissa * 10 + digit < mantissaLimit then
        readFraction? ⟨m.mantissa * 10 + digit, m.scale + 1⟩ rest
      else m.settle? c rest

/-- The digits before the point, after at least one of them, and the fraction. -/
def readWhole? (mantissa : Nat) : List Char → Option Magnitude
  | [] => some ⟨mantissa, 0⟩
  | c :: rest =>
    if c = '.' then readFraction? ⟨mantissa, 0⟩ rest
    else if c = '_' then readWhole? mantissa rest
    else (digitValue? c).bind fun digit =>
      if mantissa * 10 + digit < mantissaLimit then readWhole? (mantissa * 10 + digit) rest else none

def readUnsigned? : List Char → Option Magnitude
  | [] => none
  | '.' :: rest =>
    match rest with
    | c :: _ => if (digitValue? c).isSome then readFraction? ⟨0, 0⟩ rest else none
    | [] => none
  | c :: rest => (digitValue? c).bind fun digit => readWhole? digit rest

def splitSign : List Char → Bool × List Char
  | '-' :: rest => (true, rest)
  | '+' :: rest => (false, rest)
  | cs => (false, cs)

def ofMagnitude? (negative : Bool) (m : Magnitude) : Option Decimal :=
  if fits : m.mantissa < mantissaLimit ∧ m.scale ≤ 28 then
    some ⟨negative, m.mantissa, m.scale, fits.1, fits.2⟩
  else none

/-- A number without a power of ten; a zero has no sign. -/
def readPlain? (cs : List Char) : Option Decimal :=
  let (negative, body) := splitSign cs
  (readUnsigned? body).bind fun m => (ofMagnitude? negative m).map plainZero

/-! Powers of ten. -/

/-- A number of 32 bits in decimal digits, with an optional plus sign. -/
def readExponent? (cs : List Char) : Option Nat :=
  let digits := match cs with
    | '+' :: rest => rest
    | _ => cs
  if digits.isEmpty then none
  else
    (digits.foldlM (fun n c => (digitValue? c).map (n * 10 + ·)) 0).bind fun n =>
      if n < 4294967296 then some n else none

/-- Drops `places` digits; what is left is rounded to the nearest number, halves up. -/
def roundHalfUp (mantissa places : Nat) : Nat := (mantissa + tenPow places / 2) / tenPow places

def lower? (d : Decimal) (exponent : Nat) : Option Decimal :=
  if 28 < exponent then none
  else if d.scale + exponent ≤ 28 then ofMagnitude? d.negative ⟨d.mantissa, d.scale + exponent⟩
  else ofMagnitude? d.negative ⟨roundHalfUp d.mantissa (d.scale + exponent - 28), 28⟩

/-- Multiplies by ten to a power, which may exceed 28 only if the scale takes it up. -/
def raise? (d : Decimal) (exponent : Nat) : Option Decimal :=
  if exponent ≤ d.scale then ofMagnitude? d.negative ⟨d.mantissa, d.scale - exponent⟩
  else if 28 < exponent then none
  else ofMagnitude? d.negative ⟨d.mantissa * tenPow (exponent - d.scale), 0⟩

/-- A number and a power of ten, divided by the first `e` of either case. -/
def readScientific? (cs : List Char) : Option Decimal :=
  match cs.span fun c => c != 'e' && c != 'E' with
  | (_, []) => none
  | (base, _ :: '-' :: exponent) =>
    (readPlain? base).bind fun d => (readExponent? exponent).bind d.lower?
  | (base, _ :: exponent) =>
    (readPlain? base).bind fun d => (readExponent? exponent).bind d.raise?

def ofChars? (cs : List Char) : Option Decimal :=
  (readPlain? cs).or (readScientific? cs)

def ofText? (s : String) : Option Decimal := ofChars? s.toList

end Fulfilment.Decimal
