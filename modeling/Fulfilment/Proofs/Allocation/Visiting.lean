import Fulfilment.Allocation
import Fulfilment.Proofs.Package.Quote

/-! The order in which stock locations are visited.

Only open locations are, either as they are given or by their identifiers; those that share an
identifier keep the order in which they are given. There is one such order. -/
namespace Fulfilment

section Groups

variable {α κ : Type} [DecidableEq κ] {key : α → κ}

theorem mem_iff_of_groups {first second : List α}
    (groups : ∀ k, (first.filter fun a => key a = k) = second.filter fun a => key a = k) (a : α) :
    a ∈ first ↔ a ∈ second := by
  have same : a ∈ first.filter (fun b => key b = key a) ↔
      a ∈ second.filter fun b => key b = key a := by rw [groups]
  simpa using same

/-- A list in the order of a key is determined by its elements of each key. -/
theorem eq_of_groups (key : α → κ) (le : κ → κ → Prop)
    (antisymm : ∀ a b, le a b → le b a → a = b) {first second : List α}
    (ordered : first.Pairwise fun a b => le (key a) (key b))
    (reordered : second.Pairwise fun a b => le (key a) (key b))
    (groups : ∀ k, (first.filter fun a => key a = k) = second.filter fun a => key a = k) :
    first = second := by
  induction first generalizing second with
  | nil =>
    refine (List.eq_nil_iff_forall_not_mem.mpr fun a inside => ?_).symm
    exact List.not_mem_nil ((mem_iff_of_groups groups a).mpr inside)
  | cons a rest ih =>
    cases second with
    | nil => exact absurd ((mem_iff_of_groups groups a).mp List.mem_cons_self) List.not_mem_nil
    | cons b others =>
      obtain ⟨least, tail⟩ := List.pairwise_cons.mp ordered
      obtain ⟨lowest, remainder⟩ := List.pairwise_cons.mp reordered
      -- Each head comes before all other elements, so before the other head.
      have keys : key a = key b := by
        rcases List.mem_cons.mp ((mem_iff_of_groups groups a).mp List.mem_cons_self) with rfl | later
        · rfl
        rcases List.mem_cons.mp ((mem_iff_of_groups groups b).mpr List.mem_cons_self) with rfl | after
        · rfl
        exact antisymm _ _ (least b after) (lowest a later)
      have heads := groups (key a)
      rw [List.filter_cons_of_pos (by simp), List.filter_cons_of_pos (by simp [keys])] at heads
      obtain ⟨rfl, _⟩ := List.cons.inj heads
      rw [ih tail remainder]
      intro k
      have group := groups k
      by_cases own : key a = k
      · rw [List.filter_cons_of_pos (by simpa using own),
          List.filter_cons_of_pos (by simpa using own)] at group
        exact (List.cons.inj group).2
      · rwa [List.filter_cons_of_neg (by simpa using own),
          List.filter_cons_of_neg (by simpa using own)] at group

end Groups

namespace Allocation

/-- The open locations as they are visited: in the given order, or by their identifiers and, for
one identifier, in the given order. -/
structure Visits (settings : Settings) (locations sites : List StockLocation) : Prop where
  permuted : sites.Perm (locations.filter fun location => location.active)
  asGiven : settings.visitingOrder = .asGiven →
    sites = locations.filter fun location => location.active
  ascending : settings.visitingOrder = .byId →
    sites.Pairwise fun first second => first.id.value ≤ second.id.value
  ties : settings.visitingOrder = .byId → ∀ id, (sites.filter fun site => site.id = id) =
    (locations.filter fun location => location.active).filter fun location => location.id = id

theorem Visits.unique {settings : Settings} {locations first second : List StockLocation}
    (visits : Visits settings locations first) (others : Visits settings locations second) :
    first = second := by
  cases order : settings.visitingOrder with
  | asGiven => rw [visits.asGiven order, others.asGiven order]
  | byId =>
    apply eq_of_groups StockLocation.id fun a b => a.value ≤ b.value
    · intro a b lower upper
      exact Identifier.ext_iff_value.mpr (Nat.le_antisymm lower upper)
    · exact visits.ascending order
    · exact others.ascending order
    · intro id
      rw [visits.ties order, others.ties order]

section Identifiers

variable (a b c : StockLocation)

theorem id_le_trans (first : decide (a.id ≤ b.id) = true) (second : decide (b.id ≤ c.id) = true) :
    decide (a.id ≤ c.id) = true := by
  have lower : a.id.value ≤ b.id.value := of_decide_eq_true first
  have upper : b.id.value ≤ c.id.value := of_decide_eq_true second
  exact decide_eq_true (Nat.le_trans lower upper)

theorem id_le_total : (decide (a.id ≤ b.id) || decide (b.id ≤ a.id)) = true := by
  rcases Nat.le_total a.id.value b.id.value with first | second
  · exact Bool.or_eq_true_iff.mpr (.inl (decide_eq_true first))
  · exact Bool.or_eq_true_iff.mpr (.inr (decide_eq_true second))

end Identifiers

theorem visits_visited (settings : Settings) (locations : List StockLocation) :
    Visits settings locations (visited settings locations) := by
  unfold visited
  cases order : settings.visitingOrder with
  | asGiven => exact ⟨.refl _, fun _ => rfl, by simp [order], by simp [order]⟩
  | byId =>
    refine ⟨List.mergeSort_perm _ _, by simp [order], fun _ => ?_, fun _ id => ?_⟩
    · exact (List.pairwise_mergeSort id_le_trans id_le_total _).imp of_decide_eq_true
    · apply filter_mergeSort id_le_trans id_le_total
      intro a b first second
      simp only [decide_eq_true_eq] at first second
      rw [first, second]
      exact decide_eq_true (Nat.le_refl id.value)

end Allocation
end Fulfilment
