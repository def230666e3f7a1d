import Fulfilment.Json.Encode
import Fulfilment.Json.Layout

/-! Rules that show or hide tagged shipping methods.

A default rule holds for every customer, any other rule for customers with one of its
tags. Among the rules that name a tag of a method the first rule for the customer
decides, and if there is none the first default rule. -/
namespace Fulfilment

inductive Visibility
  | visible | hidden
deriving DecidableEq

namespace Visibility

def names : List (String × Visibility) := [("visible", visible), ("hidden", hidden)]

def decode : Json.Decoder Visibility := .oneOf names

def name : Visibility → String
  | visible => "visible"
  | hidden => "hidden"

end Visibility

structure TagRule where
  isDefault : Bool
  customerTags : List String
  methodTags : List String
  visibility : Visibility
deriving DecidableEq

namespace TagRule

def forAll (methodTags : List String) (visibility : Visibility) : TagRule :=
  ⟨true, [], methodTags, visibility⟩

def forCustomers (customerTags methodTags : List String) (visibility : Visibility) : TagRule :=
  ⟨false, customerTags, methodTags, visibility⟩

def share (tags others : List String) : Bool := tags.any fun tag => others.contains tag

def isFor (rule : TagRule) (customerTags : List String) : Bool :=
  !rule.isDefault && share rule.customerTags customerTags

def names (rule : TagRule) (methodTags : List String) : Bool := share rule.methodTags methodTags

/-- The rules that matter to a customer, those for the customer in particular first. -/
def applicable (rules : List TagRule) (customerTags : List String) : List TagRule :=
  rules.filter (·.isFor customerTags) ++ rules.filter (·.isDefault)

/-- The rule that decides on a method with the given tags. -/
def deciding? (rules : List TagRule) (customerTags methodTags : List String) : Option TagRule :=
  (applicable rules customerTags).find? (·.names methodTags)

/-- A method is hidden by a rule that says so, and shown if no rule names it. -/
def hides (rules : List TagRule) (customerTags methodTags : List String) : Bool :=
  (deciding? rules customerTags methodTags).any fun rule => rule.visibility != .visible

/-- What the rules leave of records that carry tags, in their order. -/
def keep {α : Type} (rules : List TagRule) (customerTags : List String)
    (tags : α → List String) (records : List α) : List α :=
  records.filter fun record => !hides rules customerTags (tags record)

def layout : Json.Layout TagRule :=
  TagRule.mk <$> .required "is_default" .boolean <*>
    .defaulted "customer_tags" (.list .string) [] <*>
    .required "method_tags" (.list .string) <*> .required "visibility" Visibility.decode

def decode : Json.Decoder TagRule := layout.decode "struct TagRule" false

def toJson (rule : TagRule) : Json.Value :=
  .ofMembers [("is_default", .boolean rule.isDefault),
    ("customer_tags", .ofList .string rule.customerTags),
    ("method_tags", .ofList .string rule.methodTags),
    ("visibility", .string rule.visibility.name)]

end TagRule
end Fulfilment
