import Fulfilment.Identifier
import Fulfilment.Text.Quoted

/-! Values that a caller may not give. -/
namespace Fulfilment

/-- Why an input value is refused. -/
inductive InputError
  /-- A currency code whose trimmed text is not three letters. -/
  | currency (trimmed : String)
  /-- A visiting order other than the two that exist. -/
  | visitingOrder (trimmed : String)
  | emptyLine
  | identifier (kind : IdKind)
deriving DecidableEq

namespace InputError

/-- The input field that an error is about, where it is about one. -/
def field? : InputError → Option String
  | currency _ => some "currency"
  | visitingOrder _ => some "location_order"
  | emptyLine => some "quantity"
  | identifier _ => none

def message : InputError → String
  | currency trimmed => "invalid currency: expected three ASCII letters, got " ++ Text.quote trimmed
  | visitingOrder trimmed =>
    "invalid location_order: expected by_id or as_given, got " ++ Text.quote trimmed
  | emptyLine => "invalid quantity: must be positive"
  | identifier kind => "invalid identifier: " ++ kind.name

end InputError

def Identifier.parse {kind : IdKind} (s : String) : Except InputError (Identifier kind) :=
  match Identifier.ofText? s with
  | some id => .ok id
  | none => .error (.identifier kind)

end Fulfilment
