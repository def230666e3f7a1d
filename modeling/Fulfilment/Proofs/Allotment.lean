import Mathlib.Algebra.GroupWithZero.Nat

/-! Allotting a need to a row of offers.

Each offer covers what it can of the need that the offers before it leave. What an
offer covers is then the step that the prefix sums of the offers, cut off at the need,
make at its place. -/
namespace Fulfilment.Allotment

/-- What each offer covers of a need, in order. -/
def parts (need : Nat) : List Nat → List Nat
  | [] => []
  | offer :: rest => min offer need :: parts (need - offer) rest

/-- The step at place `i` of the prefix sums of offers, cut off at a need. -/
def share (need : Nat) (offers : List Nat) (i : Nat) : Nat :=
  min (offers.take (i + 1)).sum need - min (offers.take i).sum need

@[simp] theorem parts_length (need : Nat) (offers : List Nat) :
    (parts need offers).length = offers.length := by
  induction offers generalizing need with
  | nil => rfl
  | cons offer rest ih => simp [parts, ih]

theorem parts_append (need : Nat) (first second : List Nat) :
    parts need (first ++ second) = parts need first ++ parts (need - first.sum) second := by
  induction first generalizing need with
  | nil => simp [parts]
  | cons offer rest ih =>
    rw [List.cons_append, parts, ih, parts, List.sum_cons, Nat.sub_sub, List.cons_append]

theorem parts_sum (need : Nat) (offers : List Nat) :
    (parts need offers).sum = min offers.sum need := by
  induction offers generalizing need with
  | nil => simp [parts]
  | cons offer rest ih =>
    rw [parts, List.sum_cons, ih, List.sum_cons]
    omega

theorem le_of_mem_parts {need part : Nat} {offers : List Nat} (member : part ∈ parts need offers) :
    ∃ offer ∈ offers, part ≤ offer := by
  induction offers generalizing need with
  | nil => contradiction
  | cons offer rest ih =>
    rcases List.mem_cons.mp member with rfl | later
    · exact ⟨offer, List.mem_cons_self, Nat.min_le_left _ _⟩
    · obtain ⟨other, inside, within⟩ := ih later
      exact ⟨other, List.mem_cons_of_mem _ inside, within⟩

private theorem share_succ (need offer : Nat) (rest : List Nat) (i : Nat) :
    share need (offer :: rest) (i + 1) = share (need - offer) rest i := by
  simp only [share, List.take_succ_cons, List.sum_cons]
  omega

/-- Covering a need in order makes every part a step of the cut off prefix sums. -/
theorem parts_eq_share (need : Nat) (offers : List Nat) :
    parts need offers = (List.range offers.length).map (share need offers) := by
  induction offers generalizing need with
  | nil => rfl
  | cons offer rest ih =>
    have head : share need (offer :: rest) 0 = min offer need := by simp [share]
    rw [parts, ih, List.length_cons, List.range_succ_eq_map, List.map_cons, head, List.map_map]
    congr 1
    apply List.map_congr_left
    intro i _
    exact (share_succ need offer rest i).symm

theorem parts_capped (need cap : Nat) (enough : need ≤ cap) (offers : List Nat) :
    parts need (offers.map (min cap)) = parts need offers := by
  induction offers generalizing need with
  | nil => rfl
  | cons offer rest ih =>
    have left : need - min cap offer = need - offer := by omega
    have covered : min (min cap offer) need = min offer need := by omega
    rw [List.map_cons, parts, parts, left, covered, ih (need - offer) (by omega)]

theorem parts_zero (offers : List Nat) : parts 0 offers = offers.map fun _ => 0 := by
  induction offers with
  | nil => rfl
  | cons offer rest ih => simp [parts, ih]

/-- Where every offer is nothing or all that is needed, the first real one covers it all. -/
theorem parts_of_all_or_nothing {α : Type} (need : Nat) (willing : α → Bool) (amount : α → Nat)
    (givers : List α) (enough : ∀ giver ∈ givers, willing giver = true → need ≤ amount giver) :
    parts need (givers.map fun giver => if willing giver then amount giver else 0) =
      (List.range givers.length).map fun k =>
        if givers.findIdx? willing = some k then need else 0 := by
  induction givers with
  | nil => rfl
  | cons giver rest ih =>
    rw [List.map_cons, parts, List.length_cons, List.range_succ_eq_map, List.map_cons, List.map_map]
    by_cases yes : willing giver = true
    -- After the first willing giver nothing is needed any more.
    · have covered : need ≤ amount giver := enough giver (by simp) yes
      rw [if_pos yes, Nat.min_eq_right covered, Nat.sub_eq_zero_of_le covered, parts_zero]
      simp [List.findIdx?_cons, yes, Function.comp_def, List.map_const']
    · have later := ih fun other member => enough other (List.mem_cons_of_mem _ member)
      rw [if_neg yes, Nat.sub_zero, later]
      simp [List.findIdx?_cons, yes, Function.comp_def]

theorem sum_of_all_or_nothing {α : Type} (need : Nat) (willing : α → Bool) (amount : α → Nat)
    (givers : List α) (enough : ∀ giver ∈ givers, willing giver = true → need ≤ amount giver) :
    min (givers.map fun giver => if willing giver then amount giver else 0).sum need =
      if givers.any willing then need else 0 := by
  induction givers with
  | nil => simp
  | cons giver rest ih =>
    have later := ih fun other member => enough other (List.mem_cons_of_mem _ member)
    rw [List.map_cons, List.sum_cons, List.any_cons]
    by_cases yes : willing giver = true
    · have covered := enough giver (by simp) yes
      simp only [yes, if_true, Bool.true_or]
      omega
    · simpa [yes] using later

end Fulfilment.Allotment
