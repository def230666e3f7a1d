import Fulfilment.Proofs.Order.Requests
import Fulfilment.Proofs.Package.Contents

/-! Packages under any changes.

Units are added, quantities are set and empty items are removed in any order. There is always
one item for a variant in a state, found by its place; units added to it raise its quantity up to
the largest count, and the totals are those of the items. -/
namespace Fulfilment

namespace Package

/-- What adding units does to a package: to the units of their key and of every other one, and to
the items. -/
structure Adds (package : Package) (variant : Variant) (quantity : Units) (state : SupplyState)
    (added : Package) : Prop where
  raised : added.units variant.id state = package.units variant.id state +
    min quantity.count (4294967295 - package.units variant.id state)
  others : ∀ other otherState, (other, otherState) ≠ (variant.id, state) →
    added.units other otherState = package.units other otherState
  merged : ∀ index, package.index? variant.id state = some index →
    added.contents.map Content.label = package.contents.map Content.label
  appended : package.index? variant.id state = none →
    added.contents.map Content.label = package.contents.map Content.label ++ [(variant, state)]

section Add

variable {package : Package} {variant : Variant} {state : SupplyState} (quantity : Units)

theorem sameItems_around {before after : List Content} {content : Content}
    (split : package.contents = before ++ content :: after) :
    package.SameItems { package with contents := before ++ { content with quantity } :: after } := by
  refine ⟨rfl, rfl, rfl, rfl, ?_⟩
  simp [split, Content.label]

theorem adds_merged (single : package.Single) {before after : List Content} {content : Content}
    (split : package.contents = before ++ content :: after)
    (key : content.key = (variant.id, state)) :
    package.Adds variant quantity state { package with contents :=
      before ++ { content with quantity := content.quantity + quantity } :: after } := by
  have same := sameItems_around (content.quantity + quantity) split
  have bound := content.quantity.count_le
  refine ⟨?_, ?_, fun _ _ => same.labels, ?_⟩
  · rw [units_of_split single split key, units_of_split (same.single single) rfl key,
      Units.count_add]
    omega
  · intro other otherState different
    rw [units, units, split]
    exact Content.tally_of_other (key.trans_ne different.symm) _
  · intro missing
    have listed : content ∈ package.contents := by simp [split]
    exact absurd key (index?_eq_none_iff.mp missing content listed)

theorem adds_appended (absent : ∀ content ∈ package.contents, content.key ≠ (variant.id, state)) :
    package.Adds variant quantity state
      { package with contents := package.contents ++ [⟨variant, quantity, state⟩] } := by
  have units_append (other : VariantId) (otherState : SupplyState) : units other otherState
      { package with contents := package.contents ++ [⟨variant, quantity, state⟩] } =
        package.units other otherState +
          if (⟨variant, quantity, state⟩ : Content).holds other otherState then quantity.count
          else 0 := by
    rw [units, units, Content.tally_append, Content.tally_cons]
    rfl
  have missing := index?_eq_none_iff.mpr absent
  have bound := quantity.count_le
  refine ⟨?_, ?_, ?_, ?_⟩
  · have own : (⟨variant, quantity, state⟩ : Content).holds variant.id state = true :=
      (Content.holds_iff _ _ _).mpr rfl
    rw [units_append, if_pos own, units_of_index?_eq_none missing]
    omega
  · intro other otherState different
    have foreign : ¬ ((⟨variant, quantity, state⟩ : Content).holds other otherState = true) := by
      rw [Content.holds_iff]
      exact different.symm
    rw [units_append, if_neg foreign, Nat.add_zero]
  · intro index found
    rw [missing] at found
    contradiction
  · intro _
    rw [List.map_append]
    rfl

theorem add_adds (single : package.Single) (variant : Variant) (state : SupplyState)
    (positive : 0 < quantity.count) :
    package.Adds variant quantity state (package.add variant quantity state) := by
  rw [add, if_neg (Nat.ne_of_gt positive)]
  rcases Content.add_cases variant quantity state package.contents with
    ⟨before, content, after, split, key, added⟩ | ⟨absent, added⟩
  · rw [added]
    exact adds_merged quantity single split key
  · rw [added]
    exact adds_appended quantity absent

theorem single_add (single : package.Single) (variant : Variant) (state : SupplyState) :
    (package.add variant quantity state).Single := by
  unfold add
  split
  · exact single
  rcases Content.add_cases variant quantity state package.contents with
    ⟨before, content, after, split, _, added⟩ | ⟨absent, added⟩
  · rw [added]
    exact (sameItems_around (content.quantity + quantity) split).single single
  · have last : (variant.id, state) ∉ package.contents.map Content.key := by
      intro member
      obtain ⟨content, inside, same⟩ := List.mem_map.mp member
      exact absent content inside same
    rw [added, Single, Content.Single, List.map_append]
    exact List.concat_eq_append ▸ List.Nodup.concat last single

end Add

/-- A change of the contents of a package. -/
inductive Change
  | add (variant : Variant) (quantity : Units) (state : SupplyState)
  | setQuantity (index : Nat) (quantity : Units)
  | removeEmpty

def Change.apply (package : Package) : Change → Package
  | add variant quantity state => package.add variant quantity state
  | setQuantity index quantity => package.setQuantity index quantity
  | removeEmpty => package.removeEmpty

theorem single_empty (order : Order) (location : StockLocation) (currency : Currency) :
    (empty order location currency).Single := List.nodup_nil

theorem apply_single {package : Package} (single : package.Single) (change : Change) :
    (change.apply package).Single := by
  cases change with
  | add variant quantity state => exact single_add quantity single variant state
  | setQuantity index quantity => exact (package.sameItems_setQuantity index quantity).single single
  | removeEmpty => exact Content.Single.sublist single List.filter_sublist

-- One change keeps the items single; a run of changes does by induction over the changes.
theorem foldl_apply_single {package : Package} (single : package.Single) (changes : List Change) :
    (changes.foldl Change.apply package).Single := by
  induction changes generalizing package with
  | nil => exact single
  | cons change rest ih => exact ih (apply_single single change)

/-! Totals of the contents. -/

theorem quantity_none (package : Package) : package.quantity none =
    (package.contents.map fun content => content.quantity.count).sum := by
  rw [quantity_eq]
  simp

theorem quantity_by_state (package : Package) : package.quantity none =
    package.quantity (some .onHand) + package.quantity (some .backordered) := by
  rw [quantity_eq, quantity_eq, quantity_eq]
  generalize package.contents = contents
  induction contents with
  | nil => rfl
  | cons content rest ih =>
    cases promised : content.state <;> simp [promised] at ih ⊢ <;> omega

theorem isEmpty_iff_quantity (package : Package) :
    package.isEmpty = true ↔ package.quantity none = 0 := by
  rw [isEmpty_iff, quantity_none, List.sum_eq_zero_iff_forall_eq_nat, List.forall_mem_map]

theorem sum_counts_le (contents : List Content) :
    (contents.map fun content => content.quantity.count).sum ≤ contents.length * 4294967295 := by
  induction contents with
  | nil => exact Nat.le_refl 0
  | cons content rest ih =>
    have bound := content.quantity.count_le
    rw [List.map_cons, List.sum_cons, List.length_cons]
    omega

theorem quantity_le (package : Package) (state : Option SupplyState) :
    package.quantity state ≤ package.contents.length * 4294967295 := by
  rw [quantity_eq]
  exact Nat.le_trans (sum_counts_le _) (Nat.mul_le_mul_right _ (List.length_filter_le _ _))

/-- One item for a variant in a state, and operations that agree with the items. -/
structure Tidy (package : Package) : Prop where
  single : package.Single
  found : ∀ variant state index, package.index? variant state = some index ↔
    ∃ content, package.item? index = some content ∧ content.key = (variant, state)
  adds : ∀ variant quantity state, 0 < quantity.count →
    package.Adds variant quantity state (package.add variant quantity state)
  addsNone : ∀ variant quantity state, quantity.count = 0 →
    package.add variant quantity state = package
  beyond : ∀ index quantity, package.contents.length ≤ index →
    package.setQuantity index quantity = package
  exactly : package.quantity none =
    (package.contents.map fun content => content.quantity.count).sum
  byState : package.quantity none =
    package.quantity (some .onHand) + package.quantity (some .backordered)
  /-- The totals of up to 2^32 + 1 items are numbers of 64 bits. -/
  fits : package.contents.length ≤ 4294967297 → ∀ state, package.quantity state < 2 ^ 64
  empty : package.isEmpty = true ↔ package.quantity none = 0

theorem Single.tidy {package : Package} (single : package.Single) : package.Tidy where
  single
  found _ _ _ := index?_eq_some_iff single
  adds variant quantity state := add_adds quantity single variant state
  addsNone _ _ _ none := if_pos none
  beyond index quantity outside := by
    rw [setQuantity, List.modify_eq_self outside]
  exactly := package.quantity_none
  byState := package.quantity_by_state
  fits few state := by
    have most := package.quantity_le state
    omega
  empty := package.isEmpty_iff_quantity

/-- After any changes of a package that starts empty it holds one item for a variant in a state,
which is found by its place; units are added to it or go last; and the totals are those of its
items. -/
theorem changes_tidy (order : Order) (location : StockLocation) (currency : Currency)
    (changes : List Change) : (changes.foldl Change.apply (empty order location currency)).Tidy :=
  Single.tidy (foldl_apply_single (single_empty order location currency) changes)

-- An item set to none is still the place for its units, also those of another record.
example :
    let shed : StockLocation := ⟨7, "shed", true, []⟩
    let lamp : Variant := .plain 1 "lamp"
    let rug : Variant := .plain 2 "rug"
    let changes : List Change := [.add lamp 3 .onHand, .add rug 4294967295 .backordered,
      .setQuantity 0 0, .add (.plain 1 "lantern") 2 .onHand, .add rug 1 .backordered]
    (changes.foldl Change.apply (empty (.ofLines []) shed .usd)).contents =
      [⟨lamp, 2, .onHand⟩, ⟨rug, 4294967295, .backordered⟩] := by
  decide

end Package
end Fulfilment
