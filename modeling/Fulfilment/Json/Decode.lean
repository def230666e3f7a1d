import Fulfilment.Currency
import Fulfilment.Decimal.Reader
import Fulfilment.Json.Value
import Fulfilment.Units

/-! Reading typed values out of JSON, and why that can fail. -/
namespace Fulfilment.Json

inductive DecodeError
  /-- A value of another type than the expected one. -/
  | invalidType (found : Value) (expected : String)
  /-- A value of the right type outside its range. -/
  | invalidValue (found : Value) (expected : String)
  | missingField (name : String)
  | unknownField (name : String) (known : List String)
  | unknownVariant (name : String) (known : List String)
  /-- A sequence with too few or too many elements. -/
  | invalidLength (length : Nat) (expected : String)
  | notIdentifier
  /-- A text that the domain refuses. -/
  | refused (reason : InputError)

namespace DecodeError

def ticked (name : String) : String := "`" ++ name ++ "`"

/-- The known names: one alone, two joined by a word, more as a list. -/
def alternatives : List String → String
  | [one] => "expected " ++ ticked one
  | [one, other] => "expected " ++ ticked one ++ " or " ++ ticked other
  | names => "expected one of " ++ ", ".intercalate (names.map ticked)

def message : DecodeError → String
  | invalidType found expected => "invalid type: " ++ found.describe ++ ", expected " ++ expected
  | invalidValue found expected => "invalid value: " ++ found.describe ++ ", expected " ++ expected
  | missingField name => "missing field " ++ ticked name
  | unknownField name known => "unknown field " ++ ticked name ++ ", " ++ alternatives known
  | unknownVariant name known => "unknown variant " ++ ticked name ++ ", " ++ alternatives known
  | invalidLength length expected => "invalid length " ++ toString length ++ ", expected " ++ expected
  | notIdentifier => "UUID parsing failed"
  | refused reason => reason.message

end DecodeError

abbrev Decoder (α : Type) := Value → Except DecodeError α

namespace Decoder

def any : Decoder Value := .ok

def string : Decoder String
  | .string s => .ok s
  | v => .error (.invalidType v "a string")

def boolean : Decoder Bool
  | .boolean b => .ok b
  | v => .error (.invalidType v "a boolean")

def long : Decoder Int
  | .integer n =>
    if -9223372036854775808 ≤ n ∧ n ≤ 9223372036854775807 then .ok n else .error (.invalidValue (.integer n) "i64")
  | v => .error (.invalidType v "i64")

/-- A count of units: an integer of 32 bits without a sign. -/
def units : Decoder Units
  | .integer n =>
    if small : 0 ≤ n ∧ n ≤ 4294967295 then .ok ⟨n.toNat, by omega⟩
    else .error (.invalidValue (.integer n) "u32")
  | v => .error (.invalidType v "u32")

def decimalName : String := "a Decimal type representing a fixed-point number"

/-- A decimal number: an integer, the shortest digits of a floating-point number, the
larger where two are equally near, or a text that reads as one. -/
def decimal : Decoder Decimal
  | .integer n => (Decimal.ofInt? n).elim (.error (.invalidValue (.integer n) decimalName)) .ok
  | .float x =>
    (Decimal.ofChars? (x.shortest .larger).plain).elim (.error (.invalidValue (.float x) decimalName)) .ok
  | .string s =>
    (Decimal.ofText? s).elim (.error (.invalidValue (.string s) decimalName)) .ok
  | v => .error (.invalidType v decimalName)

def identifier {kind : IdKind} : Decoder (Identifier kind)
  | .string s => (Identifier.ofText? s).elim (.error .notIdentifier) .ok
  | v => .error (.invalidType v "a formatted UUID string")

def currency : Decoder Currency
  | .string s => (Currency.parse s).mapError .refused
  | v => .error (.invalidType v "a string")

def nullable {α : Type} (item : Decoder α) : Decoder (Option α)
  | .null => .ok none
  | v => (item v).map some

def list {α : Type} (item : Decoder α) : Decoder (List α)
  | .array items => items.mapM item
  | v => .error (.invalidType v "a sequence")

def named {α : Type} (choices : List (String × α)) (name : String) : Except DecodeError α :=
  match choices.lookup name with
  | some value => .ok value
  | none => .error (.unknownVariant name (choices.map Prod.fst))

/-- One of several named values, as its name or as an object with that name and null. -/
def oneOf {α : Type} (choices : List (String × α)) : Decoder α
  | .string name => named choices name
  | .object [(name, content)] => do
    let value ← named choices name
    match content with
    | .null => .ok value
    | other => .error (.invalidType other "unit")
  | .object members => .error (.invalidValue (.object members) "map with a single key")
  | v => .error (.invalidType v "string or map")

end Decoder
end Fulfilment.Json
