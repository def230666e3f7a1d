import Fulfilment.Proofs.Allocation.Conservation
import Fulfilment.Proofs.Package.Totals
import Mathlib.Algebra.BigOperators.Ring.List
import Mathlib.Algebra.BigOperators.Ring.Finset
import Mathlib.Tactic.NormNum

/-! The value and the weight of an order that is split.

Where every ordered unit is sent, the totals of the packages add up to that of the order. None
of them is rounded as long as the total of the order has few enough digits at the scale of its
finest amount. -/
namespace Fulfilment

/-- A sum may be taken key by key. -/
theorem sum_by_key {α κ : Type} [DecidableEq κ] (key : α → κ) (rate : κ → Nat) (size : α → Nat)
    {keys : List κ} (distinct : keys.Nodup) (items : List α) (covered : ∀ item ∈ items, key item ∈ keys) :
    (items.map fun item => rate (key item) * size item).sum =
      (keys.map fun k => rate k * ((items.filter fun item => key item = k).map size).sum).sum := by
  induction items with
  | nil => simp
  | cons item rest ih =>
    -- An item adds to the term of its own key, which occurs once, and to no other.
    have own : (keys.map fun k => if key item = k then rate k * size item else 0).sum =
        rate (key item) * size item := by
      rw [List.sum_map_eq_nsmul_single (key item) _ fun k other _ => if_neg (Ne.symm other),
        List.count_eq_one_of_mem distinct (covered item List.mem_cons_self), if_pos rfl, one_nsmul]
    have split : ∀ k, rate k * (((item :: rest).filter fun item => key item = k).map size).sum =
        (if key item = k then rate k * size item else 0) +
          rate k * ((rest.filter fun item => key item = k).map size).sum := by
      intro k
      by_cases same : key item = k
      · simp [same, Nat.mul_add]
      · simp [same]
    have later := ih fun other member => covered other (List.mem_cons_of_mem _ member)
    simp only [split, List.map_cons, List.sum_cons, List.sum_map_add, own, later]

namespace LineItem

def load (digits : Variant → Nat) (lines : List LineItem) : Nat :=
  (lines.map fun line => digits line.variant * line.quantity.count).sum

end LineItem

namespace Order

/-- Lines for one variant carry one record of it. -/
def Coherent (order : Order) : Prop :=
  ∀ line ∈ order.lines, ∀ other ∈ order.lines, line.variant.id = other.variant.id →
    line.variant = other.variant

/-- The exact total of an amount that every ordered unit has. -/
def worth (amount : Variant → Decimal) (order : Order) : ℚ :=
  (order.lines.map fun line => (amount line.variant).value * line.quantity.count).sum

def finestScale (amount : Variant → Decimal) (order : Order) : Nat :=
  (order.lines.map fun line => (amount line.variant).scale).foldr max 0

/-- No amount is negative, and their total is below 2^96 digits at the largest scale. -/
structure Tractable (amount : Variant → Decimal) (order : Order) : Prop where
  nonneg : ∀ line ∈ order.lines, 0 ≤ (amount line.variant).value
  small : order.worth amount * 10 ^ order.finestScale amount < 2 ^ 96

/-- The whole number of a variant, by its identifier. -/
def rate (digits : Variant → Nat) (order : Order) (variant : VariantId) : Nat :=
  (order.lines.find? fun line => line.variant.id = variant).elim 0 fun line => digits line.variant

/-- The amount of a unit in digits of the largest scale. -/
def digits (amount : Variant → Decimal) (order : Order) (variant : Variant) : Nat :=
  (amount variant).mantissa * Decimal.tenPow (order.finestScale amount - (amount variant).scale)

theorem ordered_le (order : Order) (variant : VariantId) :
    order.ordered variant ≤ (order.lines.map fun line => line.quantity.count).sum := by
  apply List.Sublist.sum_le_sum
  · exact List.filter_sublist.map _
  · exact fun _ _ => Nat.zero_le _

variable {order : Order}

theorem rate_of_mem (coherent : order.Coherent) (digits : Variant → Nat) {line : LineItem}
    (member : line ∈ order.lines) : order.rate digits line.variant.id = digits line.variant := by
  unfold rate
  cases found : order.lines.find? fun other => other.variant.id = line.variant.id with
  | none =>
    have absent := List.find?_eq_none.mp found line member
    simp at absent
  | some other =>
    have named : other.variant.id = line.variant.id := by simpa using List.find?_some found
    exact congrArg digits (coherent other (List.mem_of_find?_eq_some found) line member named)

theorem sum_by_variant (coherent : order.Coherent) (digits : Variant → Nat) {α : Type}
    (variant : α → Variant) (size : α → Nat) {items : List α}
    (drawn : ∀ item ∈ items, ∃ line ∈ order.lines, line.variant = variant item) :
    (items.map fun item => digits (variant item) * size item).sum =
      (order.variants.map fun id => order.rate digits id *
        ((items.filter fun item => (variant item).id = id).map size).sum).sum := by
  have named : ∀ item ∈ items, (variant item).id ∈ order.variants := by
    intro item member
    obtain ⟨line, listed, same⟩ := drawn item member
    exact mem_variants_iff.mpr ⟨line, listed, congrArg Variant.id same⟩
  have rated : (items.map fun item => digits (variant item) * size item) =
      items.map fun item => order.rate digits (variant item).id * size item := by
    apply List.map_congr_left
    intro item member
    obtain ⟨line, listed, same⟩ := drawn item member
    rw [← same, rate_of_mem coherent digits listed]
  rw [rated]
  exact sum_by_key (fun item => (variant item).id) (order.rate digits) size order.variants_nodup
    items named

theorem load_lines (coherent : order.Coherent) (digits : Variant → Nat) :
    LineItem.load digits order.lines =
      (order.variants.map fun variant => order.rate digits variant * order.ordered variant).sum :=
  sum_by_variant coherent digits LineItem.variant (fun line => line.quantity.count)
    fun line member => ⟨line, member, rfl⟩

theorem scale_le_finestScale (amount : Variant → Decimal) {line : LineItem}
    (member : line ∈ order.lines) : (amount line.variant).scale ≤ order.finestScale amount :=
  List.le_max_of_le' 0 (List.mem_map.mpr ⟨line, member, rfl⟩) le_rfl

section Amounts

variable {amount : Variant → Decimal} (tractable : order.Tractable amount)

include tractable

theorem measures_digits {line : LineItem} (member : line ∈ order.lines) :
    (amount line.variant).Measures (order.finestScale amount) (order.digits amount line.variant) :=
  Decimal.measures_of_nonneg (scale_le_finestScale amount member) (tractable.nonneg line member)

theorem worth_eq : order.worth amount =
    LineItem.load (order.digits amount) order.lines / 10 ^ order.finestScale amount :=
  eq_div_of_mul_eq (by positivity)
    (Decimal.sum_value_mul fun line member => measures_digits tractable member)

theorem load_lt : LineItem.load (order.digits amount) order.lines < Decimal.mantissaLimit := by
  have small := tractable.small
  rw [worth_eq tractable, div_mul_cancel₀ _ (by positivity)] at small
  exact_mod_cast small

end Amounts

end Order

theorem Package.held_eq_sum (variant : VariantId) (package : Package) :
    package.held variant = ((package.contents.filter fun content =>
      content.variant.id = variant).map fun content => content.quantity.count).sum := by
  unfold held units
  induction package.contents with
  | nil => rfl
  | cons content rest ih =>
    rw [Content.tally_cons, Content.tally_cons]
    by_cases named : content.variant.id = variant
    · -- An item is in one of the two states, so that it counts once.
      have once : (if content.holds variant .onHand then content.quantity.count else 0) +
          (if content.holds variant .backordered then content.quantity.count else 0) =
          content.quantity.count := by
        cases state : content.state <;> simp [Content.holds, named, state]
      rw [List.filter_cons_of_pos (by simpa using named), List.map_cons, List.sum_cons, ← ih]
      omega
    · have other (state : SupplyState) : content.holds variant state = false := by
        simp [Content.holds, named]
      rw [List.filter_cons_of_neg (by simpa using named), other, other, ← ih]
      simp

namespace Allocation
open Reconciliation

/-- Every item is of a variant as some line of the order carries it. -/
def Drawn (order : Order) (package : Package) : Prop :=
  ∀ content ∈ package.contents, ∃ line ∈ order.lines, line.variant = content.variant

section Loads

variable {order : Order} {locations : List StockLocation} {overrides : Option StockOverrides}
  {settings : Settings} {allocation : Allocation}

theorem drawn_visitedOffers :
    ∀ package ∈ visitedOffers order locations overrides settings, Drawn order package := by
  intro package member content inside
  obtain ⟨location, _, rfl⟩ := List.mem_map.mp member
  rw [Package.offer_eq] at inside
  obtain ⟨request, requested, offered⟩ := List.mem_flatMap.mp inside
  rw [Content.variant_of_offered offered]
  exact Order.exists_line requested

theorem drawn_of_sameItems {before after : Package} (same : before.SameItems after)
    (drawn : Drawn order before) : Drawn order after := by
  intro content inside
  have listed : content.label ∈ before.contents.map Content.label := by
    rw [← same.labels]
    exact List.mem_map.mpr ⟨content, inside, rfl⟩
  obtain ⟨original, member, label⟩ := List.mem_map.mp listed
  have variant : original.variant = content.variant := (Prod.ext_iff.mp label).1
  rw [← variant]
  exact drawn original member

theorem drawn_packages (ok : allocate order locations overrides settings = .ok allocation) :
    ∀ package ∈ allocation.packages, Drawn order package := by
  obtain ⟨settled, settles, prices, _⟩ := allocate_ok _ _ _ _ ok
  have settledDrawn : ∀ package ∈ settled.packages, Drawn order package :=
    forall_of_forall₂ (fun _ _ same => drawn_of_sameItems same) settles.items drawn_visitedOffers
  have pruned : ∀ package ∈ prune settled.packages, Drawn order package := by
    intro package member content inside
    obtain ⟨before, listed, rfl⟩ := List.mem_map.mp (List.mem_of_mem_filter member)
    exact settledDrawn before listed content (List.mem_of_mem_filter inside)
  refine forall_of_forall₂ ?_ prices pruned
  intro before after priced drawn
  obtain ⟨rates, _, rfl⟩ := priced
  exact drawn

theorem load_contents (coherent : order.Coherent) (digits : Variant → Nat) {package : Package}
    (drawn : Drawn order package) : Content.load digits package.contents =
      (order.variants.map fun variant => order.rate digits variant * package.held variant).sum := by
  simp only [Package.held_eq_sum]
  exact Order.sum_by_variant coherent digits Content.variant
    (fun content => content.quantity.count) drawn

theorem load_packages (coherent : order.Coherent) (digits : Variant → Nat)
    {packages : List Package} (drawn : ∀ package ∈ packages, Drawn order package) :
    (packages.map fun package => Content.load digits package.contents).sum =
      (order.variants.map fun variant =>
        order.rate digits variant * (packages.map (Package.held variant)).sum).sum := by
  induction packages with
  | nil => simp
  | cons package rest ih =>
    have later := ih fun other member => drawn other (List.mem_cons_of_mem _ member)
    rw [List.map_cons, List.sum_cons, later, load_contents coherent digits (drawn package (by simp)),
      ← List.sum_map_add]
    simp only [List.map_cons, List.sum_cons, Nat.mul_add]

theorem placed_of_isComplete (counted : ∀ variant, order.ordered variant ≤ Units.most.count)
    (ok : allocate order locations overrides settings = .ok allocation)
    (complete : allocation.isComplete = true) (variant : VariantId) :
    allocation.placed variant = order.ordered variant := by
  have whole := placed_add_missing _ _ _ _ ok variant
  rw [order.sought_requests, missing_of_isComplete complete, ← Units.count_most] at whole
  have bound := counted variant
  omega

/-- What every ordered unit carries is found in the packages, where all of them are sent. -/
theorem load_conserved (coherent : order.Coherent)
    (counted : ∀ variant, order.ordered variant ≤ Units.most.count)
    (ok : allocate order locations overrides settings = .ok allocation)
    (complete : allocation.isComplete = true) (digits : Variant → Nat) :
    (allocation.packages.map fun package => Content.load digits package.contents).sum =
      LineItem.load digits order.lines := by
  rw [load_packages coherent digits (drawn_packages ok), Order.load_lines coherent]
  congr 1
  apply List.map_congr_left
  intro variant _
  rw [← placed_of_isComplete counted ok complete, placed]

theorem exists_totals {packages : List Package} {total? : Package → Option Decimal}
    {value : Package → ℚ}
    (each : ∀ package ∈ packages, ∃ total, total? package = some total ∧ total.value = value package) :
    ∃ totals : List Decimal, packages.map total? = totals.map some ∧
      totals.map Decimal.value = packages.map value := by
  induction packages with
  | nil => exact ⟨[], rfl, rfl⟩
  | cons package rest ih =>
    obtain ⟨total, found, equal⟩ := each package List.mem_cons_self
    obtain ⟨totals, later, values⟩ := ih fun other member => each other (List.mem_cons_of_mem _ member)
    exact ⟨total :: totals, by rw [List.map_cons, found, later, List.map_cons],
      by rw [List.map_cons, equal, values, List.map_cons]⟩

theorem totals_of_tractable (coherent : order.Coherent)
    (counted : ∀ variant, order.ordered variant ≤ Units.most.count)
    (ok : allocate order locations overrides settings = .ok allocation)
    (complete : allocation.isComplete = true) {amount : Variant → Decimal}
    (tractable : order.Tractable amount) :
    ∃ totals : List Decimal, (allocation.packages.map fun package => Content.total? amount package.contents) =
        totals.map some ∧ (totals.map Decimal.value).sum = order.worth amount := by
  have conserved := load_conserved coherent counted ok complete (order.digits amount)
  have each : ∀ package ∈ allocation.packages, ∃ total,
      Content.total? amount package.contents = some total ∧
        total.value = (Content.load (order.digits amount) package.contents : ℚ) *
          (10 ^ order.finestScale amount)⁻¹ := by
    intro package member
    -- A package carries a part of what the whole order does, which fits.
    have part : Content.load (order.digits amount) package.contents ≤
        LineItem.load (order.digits amount) order.lines := by
      rw [← conserved]
      exact List.le_sum_of_mem (List.mem_map.mpr ⟨package, member, rfl⟩)
    have measures : ∀ content ∈ package.contents, (amount content.variant).Measures
        (order.finestScale amount) (order.digits amount content.variant) := by
      intro content inside
      obtain ⟨line, listed, same⟩ := drawn_packages ok package member content inside
      rw [← same]
      exact Order.measures_digits tractable listed
    obtain ⟨total, found, exact⟩ := Content.total?_measures measures
      (Nat.lt_of_le_of_lt part (Order.load_lt tractable))
    exact ⟨total, found, by rw [exact.value_eq, div_eq_mul_inv]⟩
  obtain ⟨totals, found, values⟩ := exists_totals each
  refine ⟨totals, found, ?_⟩
  rw [values, List.sum_map_mul_right, Order.worth_eq tractable, ← conserved, Nat.cast_list_sum,
    List.map_map, div_eq_mul_inv]
  rfl

end Loads

/-- Where every ordered unit is sent, the item totals of the packages are numbers that add up to
the exact value of the order, and the weights to its exact weight. -/
theorem allocate_conserves_value (order : Order) (locations : List StockLocation)
    (overrides : Option StockOverrides) (settings : Settings) {allocation : Allocation}
    (coherent : order.Coherent) (counted : ∀ variant, order.ordered variant ≤ Units.most.count)
    (ok : allocate order locations overrides settings = .ok allocation)
    (complete : allocation.isComplete = true) :
    (order.Tractable Variant.price → ∃ totals : List Decimal,
      allocation.packages.map Package.itemTotal? = totals.map some ∧
        (totals.map Decimal.value).sum = order.worth Variant.price) ∧
    (order.Tractable Variant.weight → ∃ totals : List Decimal,
      allocation.packages.map Package.weight? = totals.map some ∧
        (totals.map Decimal.value).sum = order.worth Variant.weight) := by
  rw [Package.itemTotal?_eq, Package.weight?_eq]
  constructor
  · intro tractable
    exact totals_of_tractable coherent counted ok complete tractable
  · intro tractable
    exact totals_of_tractable coherent counted ok complete tractable

def vase : Variant := ⟨5, "vase", .ofDigits 5 1, .ofDigits 125 2, 0⟩

def bowl : Variant := ⟨6, "bowl", .zero, .ofDigits 1 1, 0⟩

def tableware : Order := .ofLines [.counted vase 3, .counted bowl 2, .counted vase 1]

def twoShelves : List StockLocation :=
  [⟨1, "upper", true, [⟨vase.id, 2, false⟩]⟩,
    ⟨2, "lower", true, [⟨bowl.id, 5, false⟩, ⟨vase.id, 0, true⟩]⟩]

theorem tableware_keeps_value : ∃ allocation,
    allocate tableware twoShelves none inGivenOrder = .ok allocation ∧
      (∃ totals : List Decimal, allocation.packages.map Package.itemTotal? = totals.map some ∧
        (totals.map Decimal.value).sum = tableware.worth Variant.price) ∧
      ∃ totals : List Decimal, allocation.packages.map Package.weight? = totals.map some ∧
        (totals.map Decimal.value).sum = tableware.worth Variant.weight := by
  have coherent : tableware.Coherent := by
    unfold Order.Coherent
    decide
  have counted : ∀ variant, tableware.ordered variant ≤ Units.most.count := by
    intro variant
    exact Nat.le_trans (tableware.ordered_le variant) (by decide)
  have prices : tableware.Tractable Variant.price := by
    refine ⟨fun line member => Decimal.value_nonneg ?_, ?_⟩
    · revert line member
      decide
    · norm_num [Order.worth, Order.finestScale, tableware, Order.ofLines, LineItem.counted, vase,
        bowl, Decimal.ofDigits, Decimal.value]
  have weights : tableware.Tractable Variant.weight := by
    refine ⟨fun line member => Decimal.value_nonneg ?_, ?_⟩
    · revert line member
      decide
    · norm_num [Order.worth, Order.finestScale, tableware, Order.ofLines, LineItem.counted, vase,
        bowl, Decimal.ofDigits, Decimal.value, Decimal.zero]
  obtain ⟨allocation, allocated, complete⟩ : ∃ allocation,
      allocate tableware twoShelves none inGivenOrder = .ok allocation ∧
        allocation.isComplete = true := ⟨_, rfl, by decide⟩
  have conserved := allocate_conserves_value _ _ _ _ coherent counted allocated complete
  exact ⟨allocation, allocated, conserved.1 prices, conserved.2 weights⟩

end Allocation
end Fulfilment
