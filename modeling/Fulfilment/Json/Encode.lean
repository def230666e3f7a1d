import Fulfilment.Currency
import Fulfilment.Decimal.Basic
import Fulfilment.Json.Value
import Fulfilment.Units

/-! JSON forms of the values that records are made of. -/
namespace Fulfilment

def Identifier.toJson {kind : IdKind} (id : Identifier kind) : Json.Value := .string id.text

def Decimal.toJson (d : Decimal) : Json.Value := .string d.text

def Currency.toJson (c : Currency) : Json.Value := .string c.code

def Units.toJson (u : Units) : Json.Value := .integer u.count

namespace Json.Value

def ofOption {α : Type} (encode : α → Value) : Option α → Value
  | none => .null
  | some a => encode a

def ofList {α : Type} (encode : α → Value) (items : List α) : Value := .array (items.map encode)

end Json.Value
end Fulfilment
