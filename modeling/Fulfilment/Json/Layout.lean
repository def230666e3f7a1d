import Fulfilment.Json.Decode

/-! Records in JSON.

A layout lists the fields of a record. A record is read from an object by first
visiting its members in their order, where the first value that does not decode is
the error, and then looking for each field; or from an array that holds the fields in
the order of the layout. -/
namespace Fulfilment.Json

structure Layout (α : Type) where
  names : List String
  /-- Decodes one member, if it belongs to a field, only to see whether it can be. -/
  visit : String → Value → Except DecodeError Unit
  ofMembers : List (String × Value) → Except DecodeError α
  /-- Takes the fields from the front of an array, whose expected form is described for
  the case that it ends at a field of the given position. -/
  ofItems : (expected : String) → (position : Nat) → List Value → Except DecodeError (α × List Value)

namespace Layout

variable {α β : Type}

/-- A field with the value it has when an object lacks it and when an array ends before it. -/
def field (name : String) (decode : Decoder α) (absent ended : Option α) : Layout α where
  names := [name]
  visit key value := if key = name then (decode value).map fun _ => () else .ok ()
  ofMembers members :=
    match members.lookup name with
    | some value => decode value
    | none => absent.elim (.error (.missingField name)) .ok
  ofItems expected position items :=
    match items with
    | value :: rest => (decode value).map (·, rest)
    | [] => ended.elim (.error (.invalidLength position expected)) fun value => .ok (value, [])

def required (name : String) (decode : Decoder α) : Layout α := field name decode none none

/-- A field that may be null, and absent from an object but not from an array. -/
def nullable (name : String) (decode : Decoder α) : Layout (Option α) :=
  field name decode.nullable (some none) none

def defaulted (name : String) (decode : Decoder α) (value : α) : Layout α :=
  field name decode (some value) (some value)

protected def pure (value : α) : Layout α where
  names := []
  visit _ _ := .ok ()
  ofMembers _ := .ok value
  ofItems _ _ items := .ok (value, items)

protected def seq (first : Layout (α → β)) (second : Layout α) : Layout β where
  names := first.names ++ second.names
  visit key value := do
    first.visit key value
    second.visit key value
  ofMembers members := do
    let build ← first.ofMembers members
    let value ← second.ofMembers members
    return build value
  ofItems expected position items := do
    let (build, rest) ← first.ofItems expected position items
    let (value, rest) ← second.ofItems expected (position + first.names.length) rest
    return (build value, rest)

instance : Applicative Layout where
  pure := Layout.pure
  seq first second := Layout.seq first (second ())

def elements (n : Nat) : String := toString n ++ if n = 1 then " element" else " elements"

def ofObject (layout : Layout α) (strict : Bool) (members : List (String × Value)) :
    Except DecodeError α := do
  members.forM fun member =>
    if member.1 ∈ layout.names then layout.visit member.1 member.2
    else if strict then .error (.unknownField member.1 layout.names)
    else .ok ()
  layout.ofMembers members

def ofArray (layout : Layout α) (title surplus : String) (items : List Value) :
    Except DecodeError α := do
  let (value, rest) ← layout.ofItems (title ++ " with " ++ elements layout.names.length) 0 items
  if rest.isEmpty then .ok value else .error (.invalidLength items.length surplus)

/-- A record with a title for its messages; a strict one refuses other members. -/
def decode (layout : Layout α) (title : String) (strict : Bool) : Decoder α
  | .object members => layout.ofObject strict members
  | .array items => layout.ofArray title "fewer elements in array" items
  | v => .error (.invalidType v title)

/-- One of several records, told apart by the member `type` of an object or the first
element of an array. -/
def decodeTagged (title : String) (choices : List (String × String × Layout α)) : Decoder α
  | .object members =>
    match members.lookup "type" with
    | none => .error (.missingField "type")
    | some tag => do
      let chosen ← choose tag
      chosen.2.ofObject false members
  | .array [] => .error (.missingField "type")
  | .array (tag :: items) => do
    let chosen ← choose tag
    chosen.2.ofArray chosen.1 (elements chosen.2.names.length ++ " in sequence") items
  | v => .error (.invalidType v title)
where
  choose : Value → Except DecodeError (String × Layout α)
    | .string name => Decoder.named choices name
    | v => .error (.invalidType v "variant identifier")

end Layout
end Fulfilment.Json
