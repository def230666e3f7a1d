import Fulfilment.Json.Encode
import Fulfilment.Json.Layout

/-! Ship addresses, as far as shipping zones look at them. -/
namespace Fulfilment

structure Address where
  country : String
  state : Option String
  city : Option String
  zipcode : Option String
deriving DecidableEq

namespace Address

def layout : Json.Layout Address :=
  Address.mk <$> .required "country" .string <*> .nullable "state" .string <*>
    .nullable "city" .string <*> .nullable "zipcode" .string

def decode : Json.Decoder Address := layout.decode "struct Address" false

def toJson (a : Address) : Json.Value :=
  .ofMembers [("country", .string a.country), ("state", .ofOption .string a.state),
    ("city", .ofOption .string a.city), ("zipcode", .ofOption .string a.zipcode)]

end Address
end Fulfilment
