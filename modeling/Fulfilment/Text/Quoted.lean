import Fulfilment.Text.Hidden

/-! Text between double quotes, as error messages show it.

A double quote and a backslash get a backslash in front; newline, carriage return,
tab and the null character have their letters; any other hidden character is written
by its code point in hexadecimal. Everything else stands for itself. -/
namespace Fulfilment.Text

/-- The code point in lower-case hexadecimal, without padding. -/
def codePoint (c : Char) : List Char :=
  ['\\', 'u', '\x7b'] ++ Nat.toDigits 16 c.toNat ++ ['\x7d']

def quoteChar (c : Char) : List Char :=
  match c with
  | '\x22' => ['\\', '\x22']
  | '\\' => ['\\', '\\']
  | '\n' => ['\\', 'n']
  | '\r' => ['\\', 'r']
  | '\t' => ['\\', 't']
  | '\x00' => ['\\', '0']
  | _ => if isHidden c then codePoint c else [c]

def quote (s : String) : String :=
  String.ofList (['\x22'] ++ s.toList.flatMap quoteChar ++ ['\x22'])

end Fulfilment.Text
