/-! Identifiers of the records that an allocation reads and writes.

An identifier is a number below 2^128 that carries the kind of record it names, so
that a variant is never taken for an order. It is written as thirty-two lower-case
hexadecimal digits in groups of 8, 4, 4, 4 and 12. -/
namespace Fulfilment

inductive IdKind
  | distributor | order | variant | stockLocation | shippingMethod | shippingCategory
deriving DecidableEq, Repr

/-- The name of a kind of identifier in error messages. -/
def IdKind.name : IdKind → String
  | .distributor => "DistributorId"
  | .order => "OrderId"
  | .variant => "VariantId"
  | .stockLocation => "StockLocationId"
  | .shippingMethod => "ShippingMethodId"
  | .shippingCategory => "ShippingCategoryId"

/-- The number 2^128, which no identifier reaches. -/
abbrev IdKind.limit : Nat := 340282366920938463463374607431768211456

structure Identifier (kind : IdKind) where
  value : Nat
  value_lt : value < IdKind.limit
deriving DecidableEq

abbrev DistributorId := Identifier .distributor
abbrev OrderId := Identifier .order
abbrev VariantId := Identifier .variant
abbrev StockLocationId := Identifier .stockLocation
abbrev ShippingMethodId := Identifier .shippingMethod
abbrev ShippingCategoryId := Identifier .shippingCategory

namespace Identifier

variable {kind : IdKind}

def ofNat? (n : Nat) : Option (Identifier kind) :=
  if small : n < IdKind.limit then some ⟨n, small⟩ else none

/-- A literal is the number that it names, below the limit. -/
instance (n : Nat) : OfNat (Identifier kind) n := ⟨n % IdKind.limit, Nat.mod_lt _ (by decide)⟩

instance : LE (Identifier kind) := ⟨fun a b => a.value ≤ b.value⟩

instance (a b : Identifier kind) : Decidable (a ≤ b) :=
  inferInstanceAs (Decidable (a.value ≤ b.value))

def sorted (ids : List (Identifier kind)) : List (Identifier kind) :=
  ids.mergeSort fun a b => decide (a ≤ b)

def sortedDistinct (ids : List (Identifier kind)) : List (Identifier kind) :=
  (sorted ids).eraseReps

theorem ext_iff_value {a b : Identifier kind} : a = b ↔ a.value = b.value := by
  cases a; cases b; simp

/-! Hexadecimal digits. -/

def hexDigit (n : Nat) : Char :=
  if n < 10 then Char.ofNat (48 + n) else Char.ofNat (87 + n)

def hexValue? (c : Char) : Option Nat :=
  if '0' ≤ c ∧ c ≤ '9' then some (c.toNat - 48)
  else if 'a' ≤ c ∧ c ≤ 'f' then some (c.toNat - 87)
  else if 'A' ≤ c ∧ c ≤ 'F' then some (c.toNat - 55)
  else none

/-- The last `width` hexadecimal digits of `n`, with leading zeros. -/
def hexDigits (n : Nat) : (width : Nat) → List Char
  | 0 => []
  | width + 1 => hexDigits (n / 16) width ++ [hexDigit (n % 16)]

/-- Reads hexadecimal digits of either case after those that gave `seen`. -/
def readHex? (seen : Nat) : List Char → Option Nat
  | [] => some seen
  | c :: rest => (hexValue? c).bind fun digit => readHex? (seen * 16 + digit) rest

/-! The written forms. -/

def bareText (id : Identifier kind) : String := String.ofList (hexDigits id.value 32)

def hyphenate (digits : List Char) : List Char :=
  digits.take 8 ++ '-' :: (digits.drop 8).take 4 ++ '-' :: (digits.drop 12).take 4 ++
    '-' :: (digits.drop 16).take 4 ++ '-' :: digits.drop 20

def text (id : Identifier kind) : String :=
  String.ofList (hyphenate (hexDigits id.value 32))

/-- The digits of a text of length 36 with hyphens after 8, 12, 16 and 20 of them. -/
def unhyphenate? (cs : List Char) : Option (List Char) :=
  let digits := cs.take 8 ++ (cs.drop 9).take 4 ++ (cs.drop 14).take 4 ++
    (cs.drop 19).take 4 ++ cs.drop 24
  if cs.length = 36 ∧ hyphenate digits = cs then some digits else none

/-- The digits of an identifier: bare, hyphenated, hyphenated in braces, or hyphenated
after a name-space heading whose letters may have either case. -/
def digits? (cs : List Char) : Option (List Char) :=
  if cs.length = 32 then some cs
  else if cs.length = 38 then
    if cs.head? = some '\x7b' ∧ cs.getLast? = some '\x7d' then
      unhyphenate? (cs.drop 1).dropLast
    else none
  else if cs.length = 45 then
    if (cs.take 9).map Char.toLower = "urn:uuid:".toList then unhyphenate? (cs.drop 9) else none
  else unhyphenate? cs

def ofText? (s : String) : Option (Identifier kind) :=
  (digits? s.toList).bind fun digits => (readHex? 0 digits).bind ofNat?

end Identifier
end Fulfilment
