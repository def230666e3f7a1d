import Fulfilment.Package.Basic
import Fulfilment.Proofs.Keyed
import Mathlib.Algebra.GroupWithZero.Nat
import Mathlib.Data.List.Forall2
import Mathlib.Data.List.Nodup

/-! Contents of packages: how many units of a variant they hold in a state.

Contents with one item for a variant in a state are counted through `tally`, which the
operations on packages change for the key that they work on and for no other. -/
namespace Fulfilment

theorem map_eq_of_forall₂ {α β γ : Type} {R : α → β → Prop} {f : α → γ} {g : β → γ}
    (agree : ∀ a b, R a b → g b = f a) {first : List α} {second : List β}
    (related : List.Forall₂ R first second) : second.map g = first.map f := by
  induction related with
  | nil => rfl
  | cons head _ ih => rw [List.map_cons, List.map_cons, agree _ _ head, ih]

theorem forall_of_forall₂ {α β : Type} {R : α → β → Prop} {P : α → Prop} {Q : β → Prop}
    (pass : ∀ a b, R a b → P a → Q b) {first : List α} {second : List β}
    (related : List.Forall₂ R first second) (given : ∀ a ∈ first, P a) : ∀ b ∈ second, Q b := by
  induction related with
  | nil =>
    intro b member
    contradiction
  | cons head _ ih =>
    intro b member
    rcases List.mem_cons.mp member with rfl | later
    · exact pass _ _ head (given _ List.mem_cons_self)
    · exact ih (fun a inside => given a (List.mem_cons_of_mem _ inside)) b later

namespace Content

def key (content : Content) : VariantId × SupplyState := (content.variant.id, content.state)

def label (content : Content) : Variant × SupplyState := (content.variant, content.state)

/-- At most one item for a variant in a state. -/
def Single (contents : List Content) : Prop := (contents.map key).Nodup

instance (contents : List Content) : Decidable (Single contents) :=
  inferInstanceAs (Decidable (List.Nodup _))

/-- The units of a variant in a state, over all items. -/
def tally (variant : VariantId) (state : SupplyState) (contents : List Content) : Nat :=
  ((contents.filter (holds variant state)).map fun content => content.quantity.count).sum

theorem holds_iff (variant : VariantId) (state : SupplyState) (content : Content) :
    content.holds variant state = true ↔ content.key = (variant, state) := by
  simp [holds, key]

theorem holds_eq (variant : VariantId) (state : SupplyState) :
    holds variant state = fun content => decide (content.key = (variant, state)) := by
  funext content
  rw [Bool.eq_iff_iff, holds_iff, decide_eq_true_iff]

@[simp] theorem tally_nil (variant : VariantId) (state : SupplyState) :
    tally variant state [] = 0 := rfl

theorem tally_cons (variant : VariantId) (state : SupplyState) (content : Content)
    (rest : List Content) :
    tally variant state (content :: rest) =
      (if content.holds variant state then content.quantity.count else 0) +
        tally variant state rest := by
  by_cases found : content.holds variant state = true <;> simp [tally, found]

theorem tally_append (variant : VariantId) (state : SupplyState) (first second : List Content) :
    tally variant state (first ++ second) =
      tally variant state first + tally variant state second := by
  simp [tally]

theorem tally_of_absent {variant : VariantId} {state : SupplyState} {contents : List Content}
    (absent : ∀ content ∈ contents, content.key ≠ (variant, state)) :
    tally variant state contents = 0 := by
  have empty : contents.filter (holds variant state) = [] := by
    rw [List.filter_eq_nil_iff]
    intro content member found
    exact absent content member ((holds_iff _ _ _).mp found)
  rw [tally, empty]
  rfl

theorem key_of_label (contents : List Content) :
    contents.map key = (contents.map label).map fun label => (label.1.id, label.2) := by
  rw [List.map_map]
  rfl

theorem Single.around {before after : List Content} {content : Content}
    (single : Single (before ++ content :: after)) :
    (∀ other ∈ before, other.key ≠ content.key) ∧ ∀ other ∈ after, other.key ≠ content.key := by
  unfold Single at single
  rw [List.map_append, List.map_cons] at single
  have distinct := List.nodup_middle.mp single
  have absent := (List.nodup_cons.mp distinct).1
  rw [← List.map_append] at absent
  constructor
  · intro other member same
    exact absent (List.mem_map.mpr ⟨other, List.mem_append_left _ member, same⟩)
  · intro other member same
    exact absent (List.mem_map.mpr ⟨other, List.mem_append_right _ member, same⟩)

theorem tally_around {before after : List Content} {content : Content}
    (single : Single (before ++ content :: after)) {variant : VariantId} {state : SupplyState}
    (key : content.key = (variant, state)) :
    tally variant state (before ++ content :: after) = content.quantity.count := by
  have found : content.holds variant state = true := (holds_iff _ _ _).mpr key
  have absent := single.around
  rw [key] at absent
  rw [tally_append, tally_cons, if_pos found, tally_of_absent absent.1, tally_of_absent absent.2]
  omega

theorem tally_of_other {before after : List Content} {content : Content} {variant : VariantId}
    {state : SupplyState} (other : content.key ≠ (variant, state)) (quantity : Units) :
    tally variant state (before ++ { content with quantity } :: after) =
      tally variant state (before ++ content :: after) := by
  have unrelated (q : Units) :
      ¬ (holds variant state { content with quantity := q } = true) := by
    rw [holds_iff]
    exact other
  rw [tally_append, tally_append, tally_cons, tally_cons, if_neg (unrelated quantity),
    if_neg (unrelated content.quantity)]

theorem tally_of_mem {contents : List Content} (single : Single contents) {content : Content}
    (member : content ∈ contents) :
    tally content.variant.id content.state contents = content.quantity.count := by
  obtain ⟨before, after, rfl⟩ := List.append_of_mem member
  exact tally_around single rfl

theorem Single.sublist {contents fewer : List Content} (single : Single contents)
    (sublist : fewer.Sublist contents) : Single fewer :=
  List.Nodup.sublist (sublist.map key) single

theorem tally_filter_positive (variant : VariantId) (state : SupplyState)
    (contents : List Content) :
    tally variant state (contents.filter fun content => 0 < content.quantity.count) =
      tally variant state contents := by
  induction contents with
  | nil => rfl
  | cons content rest ih =>
    by_cases positive : 0 < content.quantity.count
    · rw [List.filter_cons_of_pos (by simpa using positive), tally_cons, tally_cons, ih]
    · have zero : content.quantity.count = 0 := by omega
      rw [List.filter_cons_of_neg (by simpa using positive), tally_cons, ih, zero]
      simp

/-- Added units go to the item of their key or make a new last item. -/
theorem add_cases (variant : Variant) (quantity : Units) (state : SupplyState)
    (contents : List Content) :
    (∃ before content after, contents = before ++ content :: after ∧
      content.key = (variant.id, state) ∧ add variant quantity state contents =
        before ++ { content with quantity := content.quantity + quantity } :: after) ∨
    (∀ content ∈ contents, content.key ≠ (variant.id, state)) ∧
      add variant quantity state contents = contents ++ [⟨variant, quantity, state⟩] := by
  induction contents with
  | nil => exact .inr ⟨by simp, rfl⟩
  | cons content rest ih =>
    by_cases found : content.holds variant.id state = true
    · refine .inl ⟨[], content, rest, rfl, (holds_iff _ _ _).mp found, ?_⟩
      rw [add, if_pos found]
      rfl
    · rw [add, if_neg found]
      rcases ih with ⟨before, item, after, rfl, key, added⟩ | ⟨absent, added⟩
      · exact .inl ⟨content :: before, item, after, rfl, key, by rw [added]; rfl⟩
      · refine .inr ⟨?_, by rw [added]; rfl⟩
        rintro other member same
        rcases List.mem_cons.mp member with rfl | later
        · exact found ((holds_iff _ _ _).mpr same)
        · exact absent other later same

theorem add_of_absent {variant : Variant} {state : SupplyState} {contents : List Content}
    (absent : ∀ content ∈ contents, content.key ≠ (variant.id, state)) (quantity : Units) :
    add variant quantity state contents = contents ++ [⟨variant, quantity, state⟩] := by
  rcases add_cases variant quantity state contents with
    ⟨before, content, after, split, key, _⟩ | ⟨_, added⟩
  · exact absurd key (absent content (by simp [split]))
  · exact added

end Content

namespace Package

/-- The units of a variant in a state that a package holds. -/
def units (variant : VariantId) (state : SupplyState) (package : Package) : Nat :=
  Content.tally variant state package.contents

def Single (package : Package) : Prop := Content.Single package.contents

instance (package : Package) : Decidable package.Single :=
  inferInstanceAs (Decidable (Content.Single _))

/-- The same package with the same items in the same order, up to their quantities. -/
structure SameItems (before after : Package) : Prop where
  order : after.order = before.order
  location : after.location = before.location
  currency : after.currency = before.currency
  rates : after.rates = before.rates
  labels : after.contents.map Content.label = before.contents.map Content.label

namespace SameItems

theorem refl (package : Package) : SameItems package package := ⟨rfl, rfl, rfl, rfl, rfl⟩

theorem trans {first second third : Package} (a : SameItems first second)
    (b : SameItems second third) : SameItems first third :=
  ⟨b.order.trans a.order, b.location.trans a.location, b.currency.trans a.currency,
    b.rates.trans a.rates, b.labels.trans a.labels⟩

theorem single {before after : Package} (same : SameItems before after)
    (single : before.Single) : after.Single := by
  unfold Single Content.Single at *
  rwa [Content.key_of_label, same.labels, ← Content.key_of_label]

end SameItems

theorem sameItems_setQuantity (package : Package) (index : Nat) (quantity : Units) :
    package.SameItems (package.setQuantity index quantity) := by
  refine ⟨rfl, rfl, rfl, rfl, ?_⟩
  apply List.ext_getElem?
  intro place
  simp only [setQuantity, List.getElem?_map, List.getElem?_modify]
  cases package.contents[place]? with
  | none => rfl
  | some content => by_cases here : index = place <;> simp [here, Content.label]

theorem quantity_eq (package : Package) (state : Option SupplyState) :
    package.quantity state = ((package.contents.filter fun content =>
      state.all fun only => content.state == only).map fun content => content.quantity.count).sum := by
  rw [quantity, List.sum_eq_foldr, List.foldr_map]

theorem index?_eq_none_iff {package : Package} {variant : VariantId} {state : SupplyState} :
    package.index? variant state = none ↔
      ∀ content ∈ package.contents, content.key ≠ (variant, state) := by
  simp [index?, Content.holds_eq]

theorem index?_eq_some_iff {package : Package} (single : package.Single) {variant : VariantId}
    {state : SupplyState} {index : Nat} : package.index? variant state = some index ↔
      ∃ content, package.item? index = some content ∧ content.key = (variant, state) := by
  rw [index?, Content.holds_eq]
  exact Keyed.findIdx?_eq_some_iff single

theorem units_of_split {package : Package} (single : package.Single) {before after : List Content}
    {content : Content} (split : package.contents = before ++ content :: after)
    {variant : VariantId} {state : SupplyState} (key : content.key = (variant, state)) :
    package.units variant state = content.quantity.count := by
  rw [units, split]
  exact Content.tally_around (split ▸ single) key

theorem units_of_index?_eq_none {package : Package} {variant : VariantId} {state : SupplyState}
    (missing : package.index? variant state = none) : package.units variant state = 0 :=
  Content.tally_of_absent (index?_eq_none_iff.mp missing)

theorem split_of_index?_eq_some {package : Package} {variant : VariantId} {state : SupplyState}
    {index : Nat} (found : package.index? variant state = some index) :
    ∃ before content after, package.contents = before ++ content :: after ∧
      content.key = (variant, state) ∧ package.item? index = some content ∧
      ∀ quantity, (package.setQuantity index quantity).contents =
        before ++ { content with quantity } :: after := by
  obtain ⟨bound, holds, _⟩ := List.findIdx?_eq_some_iff_getElem.mp found
  let before := package.contents.take index
  let after := package.contents.drop (index + 1)
  have split : package.contents = before ++ package.contents[index] :: after := by
    rw [List.getElem_cons_drop bound, List.take_append_drop]
  refine ⟨before, package.contents[index], after, split, ?_, List.getElem?_eq_getElem bound, ?_⟩
  · exact (Content.holds_iff _ _ _).mp holds
  · intro quantity
    exact List.modify_eq_take_cons_drop bound

theorem setQuantity_found {package : Package} (single : package.Single) {variant : VariantId}
    {state : SupplyState} {index : Nat} (found : package.index? variant state = some index)
    (quantity : Units) :
    package.SameItems (package.setQuantity index quantity) ∧
      (package.setQuantity index quantity).units variant state = quantity.count ∧
      ∀ otherVariant otherState, (otherVariant, otherState) ≠ (variant, state) →
        (package.setQuantity index quantity).units otherVariant otherState =
          package.units otherVariant otherState := by
  obtain ⟨before, content, after, split, key, _, changed⟩ := split_of_index?_eq_some found
  have changed := changed quantity
  have same := package.sameItems_setQuantity index quantity
  refine ⟨same, units_of_split (same.single single) changed key, ?_⟩
  intro otherVariant otherState other
  rw [units, units, changed, split, Content.tally_of_other (key.trans_ne other.symm)]

theorem quantity_found {package : Package} (single : package.Single) {variant : VariantId}
    {state : SupplyState} {index : Nat} (found : package.index? variant state = some index) :
    ((package.item? index).elim .zero Content.quantity).count = package.units variant state := by
  obtain ⟨before, content, after, split, key, item, _⟩ := split_of_index?_eq_some found
  rw [item, units_of_split single split key]
  rfl

@[simp] theorem units_removeEmpty (package : Package) (variant : VariantId)
    (state : SupplyState) : package.removeEmpty.units variant state = package.units variant state :=
  Content.tally_filter_positive variant state package.contents

theorem isEmpty_iff (package : Package) :
    package.isEmpty = true ↔ ∀ content ∈ package.contents, content.quantity.count = 0 := by
  simp [isEmpty]

@[simp] theorem isEmpty_removeEmpty (package : Package) :
    package.removeEmpty.isEmpty = package.isEmpty := by
  rw [Bool.eq_iff_iff, isEmpty_iff, isEmpty_iff]
  constructor
  · intro empty content member
    by_contra positive
    exact positive (empty content (List.mem_filter.mpr ⟨member, by simp; omega⟩))
  · intro empty content member
    exact empty content (List.mem_of_mem_filter member)

theorem not_isEmpty (package : Package) : (!package.isEmpty) =
    package.contents.any fun content => decide (0 < content.quantity.count) := by
  rw [Bool.eq_iff_iff]
  simp [isEmpty, Nat.pos_iff_ne_zero]

theorem isEmpty_eq_of_positive {package : Package}
    (positive : ∀ content ∈ package.contents, 0 < content.quantity.count) :
    package.isEmpty = package.contents.isEmpty := by
  rw [Bool.eq_iff_iff, isEmpty_iff, List.isEmpty_iff]
  constructor
  · intro empty
    apply List.eq_nil_iff_forall_not_mem.mpr
    intro content member
    exact Nat.ne_of_gt (positive content member) (empty content member)
  · intro bare content member
    rw [bare] at member
    contradiction

theorem positive_removeEmpty (package : Package) :
    ∀ content ∈ package.removeEmpty.contents, 0 < content.quantity.count :=
  fun content member => by simpa using (List.mem_filter.mp member).2

theorem units_of_isEmpty {package : Package} (empty : package.isEmpty = true)
    (variant : VariantId) (state : SupplyState) : package.units variant state = 0 := by
  rw [units, Content.tally, List.sum_eq_zero_iff_forall_eq_nat]
  intro count member
  obtain ⟨content, inside, rfl⟩ := List.mem_map.mp member
  exact package.isEmpty_iff.mp empty content (List.mem_of_mem_filter inside)

end Package
end Fulfilment
