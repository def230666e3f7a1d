import Fulfilment.Json.Encode
import Fulfilment.Json.Layout

/-! Purchasable variants of products. -/
namespace Fulfilment

structure Variant where
  id : VariantId
  sku : String
  /-- The weight of one unit, zero where it is not known. -/
  weight : Decimal
  /-- The price of one unit in the currency of the order. -/
  price : Decimal
  category : ShippingCategoryId
deriving DecidableEq

namespace Variant

def layout : Json.Layout Variant :=
  Variant.mk <$> .required "id" .identifier <*> .required "sku" .string <*>
    .required "weight" .decimal <*> .required "price" .decimal <*>
    .required "shipping_category" .identifier

def decode : Json.Decoder Variant := layout.decode "struct Variant" false

def toJson (v : Variant) : Json.Value :=
  .ofMembers [("id", v.id.toJson), ("sku", .string v.sku), ("weight", v.weight.toJson),
    ("price", v.price.toJson), ("shipping_category", v.category.toJson)]

end Variant
end Fulfilment
