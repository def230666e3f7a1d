import Fulfilment.Json.Binary64
import Fulfilment.Text.Quoted

/-! JSON values.

A number without a fraction or an exponent is an integer, every other number is a
binary floating-point number. The members of an object stand in ascending order of
their names, each name once; `ofMembers` puts them so. -/
namespace Fulfilment.Json

inductive Value where
  | null
  | boolean (value : Bool)
  | integer (value : Int)
  | float (value : Binary64)
  | string (value : String)
  | array (items : List Value)
  | object (members : List (String × Value))

namespace Value

/-- Adds a member in its place; it takes the place of one with the same name. -/
def insertMember (name : String) (value : Value) :
    List (String × Value) → List (String × Value)
  | [] => [(name, value)]
  | member :: rest =>
    if name < member.1 then (name, value) :: member :: rest
    else if name = member.1 then (name, value) :: rest
    else member :: insertMember name value rest

/-- The object with the given members; of two with one name the last counts. -/
def ofMembers (members : List (String × Value)) : Value :=
  .object (members.foldl (fun placed member => insertMember member.1 member.2 placed) [])

/-- What a message says was found in place of what it expected. -/
def describe : Value → String
  | null => "null"
  | boolean value => "boolean `" ++ (if value then "true" else "false") ++ "`"
  | integer value => "integer `" ++ toString value ++ "`"
  | float value => "floating point `" ++ String.ofList (value.shortest .even).shown ++ "`"
  | string value => "string " ++ Text.quote value
  | array _ => "sequence"
  | object _ => "map"

end Value
end Fulfilment.Json
