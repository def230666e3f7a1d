import Fulfilment.Proofs.Order.Places
import Mathlib.Algebra.GroupWithZero.Nat
import Mathlib.Data.List.Nodup

/-! The requests that the lines of an order make up.

Every variant is requested once, in the order of its first line, and for as many units
as its lines add up to, up to the largest count. -/
namespace Fulfilment

def LineItem.total (variant : VariantId) (lines : List LineItem) : Nat :=
  ((lines.filter fun line => line.variant.id = variant).map fun line => line.quantity.count).sum

/-- The units of a variant that an order asks for. -/
def Order.ordered (order : Order) (variant : VariantId) : Nat := LineItem.total variant order.lines

namespace Request

def variants (requests : List Request) : List VariantId :=
  requests.map fun request => request.variant.id

/-- The units of a variant that requests ask for, by the first of them that names it. -/
def sought (variant : VariantId) (requests : List Request) : Nat :=
  (requests.find? fun request => request.variant.id = variant).elim 0
    fun request => request.quantity.count

theorem records_addLine (line : LineItem) (requests : List Request) :
    (addLine line requests).map Request.variant =
      if line.variant.id ∈ variants requests then requests.map Request.variant
      else requests.map Request.variant ++ [line.variant] := by
  induction requests with
  | nil => simp [addLine, variants]
  | cons request rest ih =>
    by_cases same : request.variant.id = line.variant.id
    · simp [addLine, same, variants]
    · have other : line.variant.id ≠ request.variant.id := Ne.symm same
      rw [addLine, if_neg same, List.map_cons, ih]
      by_cases later : line.variant.id ∈ variants rest
      · rw [if_pos later, if_pos (by simpa [variants, other] using later)]
        rfl
      · rw [if_neg later, if_neg (by simpa [variants, other] using later)]
        rfl

theorem variants_eq_map (requests : List Request) :
    variants requests = (requests.map Request.variant).map Variant.id := by
  rw [List.map_map]
  rfl

theorem variants_addLine (line : LineItem) (requests : List Request) :
    variants (addLine line requests) =
      if line.variant.id ∈ variants requests then variants requests
      else variants requests ++ [line.variant.id] := by
  rw [variants_eq_map, records_addLine, variants_eq_map]
  split
  · rfl
  · rw [List.map_append]
    rfl

theorem nodup_foldl_addLine (lines : List LineItem) (requests : List Request)
    (distinct : (variants requests).Nodup) :
    (variants (lines.foldl (fun requests line => addLine line requests) requests)).Nodup := by
  induction lines generalizing requests with
  | nil => exact distinct
  | cons line rest ih =>
    apply ih
    rw [variants_addLine]
    split
    · exact distinct
    · rename_i fresh
      exact List.nodup_append.mpr ⟨distinct, by simp, fun variant member other single same =>
        fresh (List.mem_singleton.mp single ▸ same ▸ member)⟩

theorem mem_variants {variant : VariantId} {requests : List Request} :
    variant ∈ variants requests ↔ ∃ request ∈ requests, request.variant.id = variant := by
  simp [variants]

theorem variants_foldl_addLine (lines : List LineItem) (requests : List Request)
    (seen : List VariantId) (named : variants requests = seen.eraseDups) :
    variants (lines.foldl (fun requests line => addLine line requests) requests) =
      (seen ++ lines.map fun line => line.variant.id).eraseDups := by
  induction lines generalizing requests seen with
  | nil => simpa using named
  | cons line rest ih =>
    have next : variants (addLine line requests) = (seen ++ [line.variant.id]).eraseDups := by
      rw [variants_addLine, named, List.eraseDups_append]
      by_cases known : line.variant.id ∈ seen <;>
        simp [known, List.removeAll, List.eraseDups_cons]
    rw [List.foldl_cons, ih _ _ next, List.map_cons, List.append_assoc, List.singleton_append]

theorem sought_cons (variant : VariantId) (request : Request) (rest : List Request) :
    sought variant (request :: rest) =
      if request.variant.id = variant then request.quantity.count else sought variant rest := by
  by_cases same : request.variant.id = variant <;> simp [sought, same]

theorem sought_addLine (variant : VariantId) (line : LineItem) (requests : List Request) :
    sought variant (addLine line requests) =
      if line.variant.id = variant then
        min (sought variant requests + line.quantity.count) 4294967295
      else sought variant requests := by
  induction requests with
  | nil =>
    have bound := line.quantity.count_le
    rw [addLine, sought_cons]
    split
    · simp only [sought, List.find?_nil, Option.elim_none]
      omega
    · rfl
  | cons request rest ih =>
    rw [addLine]
    by_cases same : request.variant.id = line.variant.id
    · rw [if_pos same, sought_cons, sought_cons]
      by_cases named : line.variant.id = variant
      · rw [if_pos (same.trans named), if_pos (same.trans named), if_pos named]
        rfl
      · have unnamed : request.variant.id ≠ variant := fun equal => named (same.symm.trans equal)
        rw [if_neg unnamed, if_neg unnamed, if_neg named]
    · rw [if_neg same, sought_cons, sought_cons, ih]
      by_cases first : request.variant.id = variant
      · have unnamed : line.variant.id ≠ variant := fun equal => same (first.trans equal.symm)
        rw [if_pos first, if_pos first, if_neg unnamed]
      · rw [if_neg first, if_neg first]

theorem sought_le (variant : VariantId) (requests : List Request) :
    sought variant requests ≤ 4294967295 := by
  unfold sought
  cases requests.find? fun request => request.variant.id = variant with
  | none => exact Nat.zero_le _
  | some request => exact request.quantity.count_le

theorem sought_foldl_addLine (variant : VariantId) (lines : List LineItem)
    (requests : List Request) :
    sought variant (lines.foldl (fun requests line => addLine line requests) requests) =
      min (sought variant requests + LineItem.total variant lines) 4294967295 := by
  induction lines generalizing requests with
  | nil =>
    have bound := sought_le variant requests
    simp only [List.foldl_nil, LineItem.total, List.filter_nil, List.map_nil, List.sum_nil]
    omega
  | cons line rest ih =>
    rw [List.foldl_cons, ih, sought_addLine]
    by_cases named : line.variant.id = variant
    · simp only [named, if_true, LineItem.total, List.filter_cons_of_pos, decide_true,
        List.map_cons, List.sum_cons]
      omega
    · simp [named, LineItem.total]

theorem sought_of_mem {requests : List Request} (distinct : (variants requests).Nodup)
    {request : Request} (member : request ∈ requests) :
    sought request.variant.id requests = request.quantity.count := by
  induction requests with
  | nil => contradiction
  | cons first rest ih =>
    obtain ⟨fresh, later⟩ := List.nodup_cons.mp distinct
    rw [sought_cons]
    rcases List.mem_cons.mp member with rfl | inside
    · rw [if_pos rfl]
    · have other : first.variant.id ≠ request.variant.id :=
        fun same => fresh (mem_variants.mpr ⟨request, inside, same.symm⟩)
      rw [if_neg other, ih later inside]

theorem exists_split {requests : List Request} (distinct : (variants requests).Nodup)
    {request : Request} (member : request ∈ requests) :
    ∃ before after, requests = before ++ request :: after ∧
      (∀ other ∈ before, other.variant.id ≠ request.variant.id) ∧
      ∀ other ∈ after, other.variant.id ≠ request.variant.id := by
  obtain ⟨before, after, rfl⟩ := List.append_of_mem member
  unfold variants at distinct
  rw [List.map_append, List.map_cons] at distinct
  have alone := (List.nodup_cons.mp (List.nodup_middle.mp distinct)).1
  rw [List.mem_append] at alone
  refine ⟨before, after, rfl, ?_, ?_⟩
  · intro other inside same
    exact alone (.inl (List.mem_map.mpr ⟨other, inside, same⟩))
  · intro other inside same
    exact alone (.inr (List.mem_map.mpr ⟨other, inside, same⟩))

theorem sought_of_not_mem {requests : List Request} {variant : VariantId}
    (absent : variant ∉ variants requests) : sought variant requests = 0 := by
  have missing : requests.find? (fun request => request.variant.id = variant) = none := by
    rw [List.find?_eq_none]
    intro request member same
    exact absent (mem_variants.mpr ⟨request, member, by simpa using same⟩)
  rw [sought, missing]
  rfl

theorem variant_of_addLine {line : LineItem} {requests : List Request} {request : Request}
    (member : request ∈ addLine line requests) :
    request.variant = line.variant ∨ ∃ earlier ∈ requests, earlier.variant = request.variant := by
  induction requests with
  | nil =>
    rw [List.mem_singleton.mp member]
    exact .inl rfl
  | cons first rest ih =>
    rw [addLine] at member
    split at member
    · rcases List.mem_cons.mp member with rfl | later
      · exact .inr ⟨first, List.mem_cons_self, rfl⟩
      · exact .inr ⟨request, List.mem_cons_of_mem _ later, rfl⟩
    · rcases List.mem_cons.mp member with rfl | later
      · exact .inr ⟨request, List.mem_cons_self, rfl⟩
      · rcases ih later with new | ⟨earlier, inside, same⟩
        · exact .inl new
        · exact .inr ⟨earlier, List.mem_cons_of_mem _ inside, same⟩

theorem variant_of_foldl_addLine {lines : List LineItem} {requests : List Request}
    {request : Request}
    (member : request ∈ lines.foldl (fun requests line => addLine line requests) requests) :
    (∃ line ∈ lines, line.variant = request.variant) ∨
      ∃ earlier ∈ requests, earlier.variant = request.variant := by
  induction lines generalizing requests with
  | nil => exact .inr ⟨request, member, rfl⟩
  | cons line rest ih =>
    rcases ih member with ⟨other, inside, same⟩ | ⟨earlier, inside, same⟩
    · exact .inl ⟨other, List.mem_cons_of_mem _ inside, same⟩
    · rcases variant_of_addLine inside with new | ⟨first, listed, equal⟩
      · exact .inl ⟨line, List.mem_cons_self, new.symm.trans same⟩
      · exact .inr ⟨first, listed, equal.trans same⟩

end Request

namespace Order

theorem requests_eq (order : Order) : order.requests =
    order.lines.foldl (fun requests line => Request.addLine line requests) [] :=
  Merging.requests_ofLines order.lines

theorem exists_line {order : Order} {request : Request} (member : request ∈ order.requests) :
    ∃ line ∈ order.lines, line.variant = request.variant := by
  rw [requests_eq] at member
  rcases Request.variant_of_foldl_addLine member with named | ⟨earlier, none, _⟩
  · exact named
  · exact absurd none List.not_mem_nil

theorem variants_eq_eraseDups (order : Order) :
    order.variants = (order.lines.map fun line => line.variant.id).eraseDups := by
  rw [variants, requests_eq]
  exact Request.variants_foldl_addLine order.lines [] [] rfl

theorem mem_variants_iff {order : Order} {variant : VariantId} :
    variant ∈ order.variants ↔ ∃ line ∈ order.lines, line.variant.id = variant := by
  rw [variants_eq_eraseDups, List.mem_eraseDups, List.mem_map]

theorem variants_nodup (order : Order) : order.variants.Nodup := by
  rw [variants, requests_eq]
  exact Request.nodup_foldl_addLine order.lines [] List.nodup_nil

/-- What an order seeks of a variant is what its lines ask for, up to the largest count. -/
theorem sought_requests (order : Order) (variant : VariantId) :
    Request.sought variant order.requests = min (order.ordered variant) 4294967295 := by
  have merged := Request.sought_foldl_addLine variant order.lines []
  rwa [← requests_eq, show Request.sought variant [] = 0 from rfl, Nat.zero_add] at merged

def ofLines (lines : List LineItem) : Order :=
  ⟨0, ⟨0, "hub", [], []⟩, none, none, [], lines⟩

end Order

def Variant.plain (id : VariantId) (sku : String) : Variant :=
  ⟨id, sku, .zero, .zero, 0⟩

/-- A line for the given count of units, or for one if it is none. -/
def LineItem.counted (variant : Variant) (n : Nat) : LineItem :=
  ⟨variant, ⟨min (max 1 n) 4294967295, Nat.min_le_right _ _⟩, by simp only; omega⟩

end Fulfilment
