import Fulfilment.Json.Encode
import Fulfilment.Json.Layout

/-! Stock records: how many units of a variant a location holds, and how much of a
requested quantity such a record can fill. -/
namespace Fulfilment

structure StockItem where
  variant : VariantId
  /-- Negative where more has been sold than there was. -/
  countOnHand : Int
  /-- Whether units beyond those on hand may be promised. -/
  backorderable : Bool
deriving DecidableEq

/-- The part of a request that can be sent now and the part that can be promised. -/
structure FillStatus where
  onHand : Units
  backordered : Units
deriving DecidableEq

namespace FillStatus

def nothing : FillStatus := ⟨.zero, .zero⟩

def total (status : FillStatus) : Nat := status.onHand.count + status.backordered.count

end FillStatus

/-- How one distributor sees the stock of one variant. A field that is not given leaves
the stock record as it is. -/
structure StockOverride where
  distributor : DistributorId
  variant : VariantId
  countOnHand : Option Int
  onDemand : Option Bool
deriving DecidableEq

namespace StockItem

/-- The units on hand, none where more has been sold than there was. -/
def available (item : StockItem) : Nat := item.countOnHand.toNat

/-- Fills what it can from the units on hand, as far as they can be counted; the rest is
promised if that is allowed. -/
def fill (item : StockItem) (quantity : Units) : FillStatus :=
  let onHand := quantity.upTo (Units.nearest item.countOnHand).count
  ⟨onHand, if item.backorderable then quantity - onHand else .zero⟩

def overriddenBy (item : StockItem) (override : StockOverride) : StockItem :=
  { item with
    countOnHand := override.countOnHand.getD item.countOnHand
    backorderable := override.onDemand.getD item.backorderable }

def layout : Json.Layout StockItem :=
  StockItem.mk <$> .required "variant_id" .identifier <*> .required "count_on_hand" .long <*>
    .required "backorderable" .boolean

def decode : Json.Decoder StockItem := layout.decode "struct StockItem" false

def toJson (item : StockItem) : Json.Value :=
  .ofMembers [("variant_id", item.variant.toJson), ("count_on_hand", .integer item.countOnHand),
    ("backorderable", .boolean item.backorderable)]

theorem fill_onHand_count (item : StockItem) (quantity : Units) :
    (item.fill quantity).onHand.count = min quantity.count item.available := by
  have small := quantity.count_le
  simp only [fill, Units.count_upTo, Units.count_nearest, available]
  omega

theorem fill_total_le (item : StockItem) (quantity : Units) :
    (item.fill quantity).total ≤ quantity.count := by
  simp only [fill, FillStatus.total]
  split
  · simp only [Units.count_upTo, Units.count_sub]
    omega
  · simp only [Units.count_upTo, Units.count_zero]
    omega

end StockItem

namespace StockOverride

def layout : Json.Layout StockOverride :=
  StockOverride.mk <$> .required "distributor_id" .identifier <*>
    .required "variant_id" .identifier <*> .nullable "count_on_hand" .long <*>
    .nullable "on_demand" .boolean

def decode : Json.Decoder StockOverride := layout.decode "struct VariantOverride" false

def toJson (override : StockOverride) : Json.Value :=
  .ofMembers [("distributor_id", override.distributor.toJson),
    ("variant_id", override.variant.toJson),
    ("count_on_hand", .ofOption .integer override.countOnHand),
    ("on_demand", .ofOption .boolean override.onDemand)]

end StockOverride
end Fulfilment
