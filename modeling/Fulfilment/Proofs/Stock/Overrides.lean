import Fulfilment.Proofs.Package.Offer

/-! What a history of overrides makes of stock records.

Of all overrides that a distributor gave for a variant the last one counts. A location seen
through them is the same as one whose records were rewritten. -/
namespace Fulfilment

theorem Keyed.find?_foldl_put {α κ : Type} [DecidableEq κ] (key : α → κ) (k : κ) (given : List α)
    (records : List α) :
    find? key k (given.foldl (fun records record => put key record records) records) =
      (given.filter fun record => key record = k).getLast?.or (find? key k records) := by
  induction given generalizing records with
  | nil => rfl
  | cons record rest ih =>
    rw [List.foldl_cons, ih]
    by_cases same : key record = k
    · rw [List.filter_cons_of_pos (by simpa using same), List.getLast?_cons, ← same,
        find?_put_self]
      cases (rest.filter fun other => key other = key record).getLast? <;> rfl
    · rw [List.filter_cons_of_neg (by simpa using same), find?_put_of_ne key record k same]

namespace StockOverrides

/-- The last override that was given for a distributor and a variant. -/
def last? (given : List StockOverride) (distributor : DistributorId) (variant : VariantId) :
    Option StockOverride :=
  (given.filter fun override =>
    override.distributor = distributor ∧ override.variant = variant).getLast?

theorem entries_foldl_insert (given : List StockOverride) (overrides : StockOverrides) :
    (given.foldl insert overrides).entries =
      given.foldl (fun records override => Keyed.put key override records) overrides.entries := by
  induction given generalizing overrides with
  | nil => rfl
  | cons override rest ih => exact ih (overrides.insert override)

theorem find?_ofList (given : List StockOverride) (distributor : DistributorId)
    (variant : VariantId) : (ofList given).find? distributor variant =
      last? given distributor variant := by
  have found := Keyed.find?_foldl_put key (distributor, variant) given empty.entries
  rw [← entries_foldl_insert] at found
  have none : Keyed.find? key (distributor, variant) empty.entries = none := rfl
  rw [none, Option.or_none] at found
  refine found.trans ?_
  simp only [key, Prod.mk.injEq, last?]

/-- What the last override sets: the units on hand, and whether more may be promised. -/
def effect (given : List StockOverride) (distributor : DistributorId) (variant : VariantId) :
    Option Int × Option Bool :=
  ((last? given distributor variant).bind (·.countOnHand),
    (last? given distributor variant).bind (·.onDemand))

end StockOverrides

open StockOverrides

namespace StockItem

/-- The record with the count and the policy that its last override sets, and with its own where
that sets none. -/
def rewritten (given : List StockOverride) (distributor : DistributorId) (item : StockItem) :
    StockItem :=
  { item with
    countOnHand := (effect given distributor item.variant).1.getD item.countOnHand
    backorderable := (effect given distributor item.variant).2.getD item.backorderable }

end StockItem

namespace StockLocation

def rewritten (given : List StockOverride) (distributor : DistributorId)
    (location : StockLocation) : StockLocation :=
  { location with items := location.items.map (·.rewritten given distributor) }

variable (given : List StockOverride) (location : StockLocation)

theorem variant_of_item? {location : StockLocation} {variant : VariantId} {item : StockItem}
    (found : location.item? variant = some item) : item.variant = variant := by
  have named := List.find?_some found
  simpa using named

theorem item?_rewritten (distributor : DistributorId) (variant : VariantId) :
    (location.rewritten given distributor).item? variant =
      (location.item? variant).map (·.rewritten given distributor) := by
  rw [item?, rewritten, Keyed.find?, List.find?_map]
  rfl

theorem holdsAny_rewritten (distributor : DistributorId) (variants : List VariantId) :
    (location.rewritten given distributor).holdsAny variants = location.holdsAny variants := by
  simp only [holdsAny, item?_rewritten, Option.isSome_map]

theorem seen?_none (order : Order) (variant : VariantId) :
    location.seen? none order variant = location.item? variant := by
  rw [seen?_eq]
  exact Option.map_id'

theorem seen?_ofList (order : Order) (variant : VariantId) :
    location.seen? (some (ofList given)) order variant =
      (location.item? variant).map (·.rewritten given order.distributor.id) := by
  have held : (location.items.find? fun item => item.variant = variant) =
      location.item? variant := rfl
  simp only [seen?, Option.bind_some, ← find?_eq, find?_ofList, held]
  cases found : location.item? variant with
  | none => rfl
  | some item =>
    have named := variant_of_item? found
    rw [Option.map_some, Option.map_some, StockItem.rewritten, named, effect]

end StockLocation
end Fulfilment
