import Fulfilment.Text.Blank

/-! The format of log output, which a text may choose. -/
namespace Fulfilment

inductive LogFormat
  | json | pretty
deriving DecidableEq

namespace LogFormat

def name : LogFormat → String
  | json => "json"
  | pretty => "pretty"

/-- Any text but the name of the pretty format means JSON. -/
def parse (s : String) : LogFormat :=
  if Text.sameIgnoringCase (Text.trim s) "pretty" then pretty else json

/-- The format that a variable chooses, if it is set. -/
def ofVariable (value : Option String) : LogFormat := value.elim json parse

end LogFormat
end Fulfilment
