import Fulfilment.Address
import Fulfilment.Text.Blank

/-! Shipping zones: countries, and states within countries.

Names of countries and states are compared without regard to the case of basic Latin
letters. -/
namespace Fulfilment

inductive ZoneMember
  | country (country : String)
  | state (country state : String)
deriving DecidableEq

namespace ZoneMember

def covers (member : ZoneMember) (address : Address) : Bool :=
  match member with
  | country name => Text.sameIgnoringCase name address.country
  | state name part =>
    Text.sameIgnoringCase name address.country &&
      address.state.any fun actual => Text.sameIgnoringCase actual part

def decode : Json.Decoder ZoneMember :=
  Json.Layout.decodeTagged "internally tagged enum ZoneMember"
    [("country", "struct variant ZoneMember::Country",
        ZoneMember.country <$> .required "country" .string),
      ("state", "struct variant ZoneMember::State",
        ZoneMember.state <$> .required "country" .string <*> .required "state" .string)]

def toJson : ZoneMember → Json.Value
  | country name => .ofMembers [("type", .string "country"), ("country", .string name)]
  | state name part =>
    .ofMembers [("type", .string "state"), ("country", .string name), ("state", .string part)]

end ZoneMember

structure Zone where
  name : String
  members : List ZoneMember
deriving DecidableEq

namespace Zone

def covers (zone : Zone) (address : Address) : Bool :=
  zone.members.any fun member => member.covers address

def layout : Json.Layout Zone :=
  Zone.mk <$> .required "name" .string <*> .required "members" (.list ZoneMember.decode)

def decode : Json.Decoder Zone := layout.decode "struct Zone" false

def toJson (zone : Zone) : Json.Value :=
  .ofMembers [("name", .string zone.name), ("members", .ofList ZoneMember.toJson zone.members)]

end Zone
end Fulfilment
