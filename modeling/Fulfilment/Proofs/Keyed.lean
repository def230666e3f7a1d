import Fulfilment.Keyed
import Mathlib.Data.List.Nodup

/-! Records by key: the first one for each key, and the place and the value of the only one.

The first records of a list do not change when further records for keys that have been seen
are put anywhere behind. -/
namespace Fulfilment.Keyed

variable {α β κ : Type} [DecidableEq κ]

/-- The first record for each key, in the order of these records. -/
def firsts (key : α → κ) : List α → List α
  | [] => []
  | record :: rest => record :: (firsts key rest).filter fun later => key later ≠ key record

/-- The mixed records are the others with some added anywhere among them. -/
structure Scattered (added others mixed : List α) : Prop where
  kept : others.Sublist mixed
  all : mixed.Perm (added ++ others)

theorem firsts_append (key : α → κ) (front back : List α) : firsts key (front ++ back) =
    firsts key front ++ (firsts key back).filter fun record => key record ∉ front.map key := by
  induction front with
  | nil => simp [firsts]
  | cons record rest ih =>
    rw [List.cons_append, firsts, firsts, ih, List.filter_append, List.filter_filter]
    simp

theorem firsts_concat (key : α → κ) (front : List α) (record : α) :
    firsts key (front ++ [record]) =
      if key record ∈ front.map key then firsts key front else firsts key front ++ [record] := by
  have alone : firsts key [record] = [record] := rfl
  rw [firsts_append, alone, List.filter_cons, List.filter_nil]
  by_cases seen : key record ∈ front.map key
  · rw [if_neg (by simpa using seen), if_pos seen, List.append_nil]
  · rw [if_pos (by simpa using seen), if_neg seen]

theorem firsts_filter (key : α → κ) (p : κ → Bool) (records : List α) :
    firsts key (records.filter fun record => p (key record)) =
      (firsts key records).filter fun record => p (key record) := by
  induction records with
  | nil => rfl
  | cons record rest ih =>
    rw [firsts, List.filter_cons, List.filter_cons, List.filter_filter]
    by_cases kept : p (key record) = true
    · rw [if_pos kept, if_pos kept, firsts, ih, List.filter_filter]
      simp only [Bool.and_comm]
    · rw [if_neg kept, if_neg kept, ih]
      apply List.filter_congr
      intro later _
      by_cases same : key later = key record
      · simp [same, kept]
      · simp [same]

theorem map_firsts (key : β → κ) (f : α → β) (records : List α) :
    (firsts (fun record => key (f record)) records).map f = firsts key (records.map f) := by
  induction records with
  | nil => rfl
  | cons record rest ih =>
    rw [firsts, List.map_cons, List.map_cons, firsts, ← ih, List.filter_map]
    rfl

theorem Scattered.filter {added others mixed : List α} (scattered : Scattered added others mixed)
    {p : α → Bool} (passed : ∀ record ∈ added, p record = false) :
    mixed.filter p = others.filter p := by
  have none : added.filter p = [] := by simpa using passed
  have same := (scattered.all.filter p).length_eq
  rw [List.filter_append, none, List.nil_append] at same
  exact ((scattered.kept.filter p).eq_of_length same.symm).symm

theorem firsts_append_scattered (key : α → κ) {front added others mixed : List α}
    (scattered : Scattered added others mixed)
    (seen : ∀ record ∈ added, key record ∈ front.map key) :
    firsts key (front ++ mixed) = firsts key (front ++ others) := by
  have fresh (records : List α) := firsts_filter key (fun k => k ∉ front.map key) records
  have same := scattered.filter (p := fun record => key record ∉ front.map key)
    fun record member => by simpa using seen record member
  rw [firsts_append, firsts_append, ← fresh, ← fresh, same]

theorem findIdx?_eq_some_iff {key : α → κ} {records : List α}
    (distinct : (records.map key).Nodup) {k : κ} {place : Nat} :
    (records.findIdx? fun record => key record = k) = some place ↔
      ∃ record, records[place]? = some record ∧ key record = k := by
  rw [List.findIdx?_eq_some_iff_getElem]
  constructor
  · rintro ⟨bound, found, _⟩
    exact ⟨records[place], List.getElem?_eq_getElem bound, of_decide_eq_true found⟩
  · rintro ⟨record, stands, named⟩
    obtain ⟨bound, rfl⟩ := List.getElem?_eq_some_iff.mp stands
    refine ⟨bound, decide_eq_true named, ?_⟩
    intro earlier before found
    have same : key records[earlier] = key records[place] :=
      (of_decide_eq_true found).trans named.symm
    have apart := List.pairwise_iff_getElem.mp distinct earlier place (by simp; omega)
      (by simpa using bound) before
    rw [List.getElem_map, List.getElem_map] at apart
    exact apart same

section Lookup

variable [BEq κ] [LawfulBEq κ]

theorem lookup_cons (k : κ) (entry : κ × α) (rest : List (κ × α)) :
    (entry :: rest).lookup k = if k = entry.1 then some entry.2 else rest.lookup k := by
  rw [List.lookup_cons]
  by_cases here : k = entry.1
  · rw [if_pos here, beq_iff_eq.mpr here]
  · rw [if_neg here, beq_eq_false_iff_ne.mpr here]

theorem lookup_eq_some_iff_mem {entries : List (κ × α)} (distinct : (entries.map Prod.fst).Nodup)
    {k : κ} {a : α} : entries.lookup k = some a ↔ (k, a) ∈ entries := by
  induction entries with
  | nil => simp
  | cons entry rest ih =>
    obtain ⟨fresh, others⟩ := List.nodup_cons.mp distinct
    rw [lookup_cons, List.mem_cons]
    by_cases here : k = entry.1
    · rw [if_pos here]
      constructor
      · intro found
        exact .inl (Prod.ext here (Option.some.inj found).symm)
      · intro inside
        rcases inside with same | later
        · rw [← same]
        · exact absurd (List.mem_map_of_mem later) (here ▸ fresh)
    · rw [if_neg here, ih others]
      constructor
      · exact .inr
      · intro inside
        exact inside.resolve_left fun same => here (congrArg Prod.fst same)

end Lookup

end Fulfilment.Keyed
