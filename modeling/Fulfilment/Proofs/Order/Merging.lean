import Fulfilment.Proofs.Keyed
import Fulfilment.Proofs.Order.Requests
import Mathlib.Algebra.Order.BigOperators.Group.List
import Mathlib.Algebra.Order.Group.Nat
import Mathlib.Data.List.Induction

/-! Merging the lines of an order into requests.

A request carries the record of the first line for its variant and the units of all of its
lines. So neither splitting a line nor moving lines about matters, as long as the first line
of each variant and the order of the first lines stay. -/
namespace Fulfilment

namespace LineItem

/-- Lines of the record of another that make up its units. -/
structure Divides (pieces : List LineItem) (line : LineItem) : Prop where
  variant : ∀ piece ∈ pieces, piece.variant = line.variant
  units : (pieces.map fun piece => piece.quantity.count).sum = line.quantity.count

/-- The second lines are the first with one line divided, its pieces placed anywhere after
the first line for its variant. -/
inductive Split : List LineItem → List LineItem → Prop
  /-- One piece stays where the line was, which may have been the first for its variant. -/
  | inPlace {line piece : LineItem} {pieces front back mixed : List LineItem} :
    Divides (piece :: pieces) line → Keyed.Scattered pieces back mixed →
      Split (front ++ line :: back) (front ++ piece :: mixed)
  /-- An earlier line for the variant stays before all pieces. -/
  | later {first line : LineItem} {pieces front middle back mixed : List LineItem} :
    first ∈ front → first.variant.id = line.variant.id →
      Divides pieces line → Keyed.Scattered pieces (middle ++ back) mixed →
        Split (front ++ (middle ++ line :: back)) (front ++ mixed)

theorem total_append (variant : VariantId) (front back : List LineItem) :
    total variant (front ++ back) = total variant front + total variant back := by
  simp [total]

theorem total_cons (variant : VariantId) (line : LineItem) (rest : List LineItem) :
    total variant (line :: rest) = total variant [line] + total variant rest :=
  total_append variant [line] rest

theorem total_perm (variant : VariantId) {lines others : List LineItem}
    (perm : lines.Perm others) : total variant lines = total variant others :=
  ((perm.filter _).map _).sum_eq

theorem Divides.total {pieces : List LineItem} {line : LineItem} (divides : Divides pieces line)
    (variant : VariantId) : total variant pieces = total variant [line] := by
  by_cases named : line.variant.id = variant
  · have all : pieces.filter (fun piece => piece.variant.id = variant) = pieces := by
      rw [List.filter_eq_self]
      intro piece member
      rw [divides.variant piece member]
      exact decide_eq_true named
    simp [LineItem.total, all, named, divides.units]
  · have none : pieces.filter (fun piece => piece.variant.id = variant) = [] := by
      rw [List.filter_eq_nil_iff]
      intro piece member
      rw [divides.variant piece member]
      simpa using named
    simp [LineItem.total, none, named]

theorem Scattered.total {added others mixed : List LineItem}
    (scattered : Keyed.Scattered added others mixed) (variant : VariantId) :
    LineItem.total variant mixed = LineItem.total variant added + LineItem.total variant others := by
  rw [total_perm variant scattered.all, total_append]

theorem Split.total {lines others : List LineItem} (split : Split lines others)
    (variant : VariantId) : LineItem.total variant others = LineItem.total variant lines := by
  cases split with
  | @inPlace line piece pieces front back mixed divides scattered =>
    have whole := divides.total variant
    rw [total_cons] at whole
    rw [total_append, total_append, total_cons variant line, total_cons variant piece,
      Scattered.total scattered]
    omega
  | @later _ line pieces front middle back mixed _ _ divides scattered =>
    have whole := divides.total variant
    rw [total_append, total_append, total_append, total_cons variant line,
      Scattered.total scattered, total_append]
    omega

-- The moved pieces stand behind a line for their variant, so none of them is a first line.
theorem Split.firsts {lines others : List LineItem} (split : Split lines others) :
    (Keyed.firsts (fun line => line.variant.id) others).map LineItem.variant =
      (Keyed.firsts (fun line => line.variant.id) lines).map LineItem.variant := by
  cases split with
  | @inPlace line piece pieces front back mixed divides scattered =>
    have named : piece.variant = line.variant := divides.variant piece List.mem_cons_self
    have seen : ∀ other ∈ pieces, other.variant.id ∈
        (front ++ [piece]).map fun line => line.variant.id := by
      intro other member
      rw [divides.variant other (List.mem_cons_of_mem _ member), ← named]
      simp
    have moved := Keyed.firsts_append_scattered (fun line => line.variant.id) scattered seen
    rw [List.append_assoc, List.append_assoc, List.singleton_append, List.singleton_append] at moved
    rw [moved, Keyed.map_firsts Variant.id, Keyed.map_firsts Variant.id, List.map_append,
      List.map_append, List.map_cons, List.map_cons, named]
  | @later first line pieces front middle back mixed member same divides scattered =>
    have seen : line.variant.id ∈ front.map fun line => line.variant.id :=
      List.mem_map.mpr ⟨first, member, same⟩
    have lone : Keyed.Scattered [line] (middle ++ back) (middle ++ line :: back) :=
      ⟨(List.sublist_cons_self line back).append_left middle, List.perm_middle⟩
    rw [Keyed.firsts_append_scattered _ scattered, Keyed.firsts_append_scattered _ lone]
    · intro other listed
      rwa [List.mem_singleton.mp listed]
    · intro other listed
      rwa [divides.variant other listed]

end LineItem

namespace Request

theorem records_foldl_addLine (lines : List LineItem) :
    (lines.foldl (fun requests line => addLine line requests) []).map Request.variant =
      (Keyed.firsts (fun line => line.variant.id) lines).map LineItem.variant := by
  induction lines using List.reverseRecOn with
  | nil => rfl
  | append_singleton lines line ih =>
    have named := variants_foldl_addLine lines [] [] rfl
    rw [List.foldl_append, List.foldl_cons, List.foldl_nil, records_addLine, named, ih,
      Keyed.firsts_concat, List.nil_append]
    by_cases seen : line.variant.id ∈ lines.map fun line => line.variant.id
    · rw [if_pos (List.mem_eraseDups.mpr seen), if_pos seen]
    · rw [if_neg (List.mem_eraseDups.not.mpr seen), if_neg seen, List.map_append]
      rfl

end Request

/-- Every noted place is that of the request for its variant, and every request has its place
noted. -/
def Merging.Points (merging : Merging) : Prop := ∀ variant place,
  merging.place? variant = some place ↔
    ∃ request, merging.requests[place]? = some request ∧ request.variant.id = variant

/-- One request for each variant of the lines, in the order in which the variants first appear:
the record of its first line, with the units of all its lines up to the largest count. -/
structure Request.Merges (lines : List LineItem) (requests : List Request) : Prop where
  variants : Request.variants requests = (lines.map fun line => line.variant.id).eraseDups
  distinct : (Request.variants requests).Nodup
  amounts : (requests.map fun request => (request.variant, request.quantity.count)) =
    (Keyed.firsts (fun line => line.variant.id) lines).map fun first =>
      (first.variant, min (LineItem.total first.variant.id lines) 4294967295)
  positive : ∀ request ∈ requests, 1 ≤ request.quantity.count

namespace Order

theorem quantity_of_mem {order : Order} {request : Request} (member : request ∈ order.requests) :
    request.quantity.count = min (order.ordered request.variant.id) 4294967295 := by
  rw [← Request.sought_of_mem order.variants_nodup member, sought_requests]

theorem amounts_requests (order : Order) :
    (order.requests.map fun request => (request.variant, request.quantity.count)) =
      (Keyed.firsts (fun line => line.variant.id) order.lines).map fun first =>
        (first.variant, min (order.ordered first.variant.id) 4294967295) := by
  let amount (variant : Variant) := (variant, min (order.ordered variant.id) 4294967295)
  have records := Request.records_foldl_addLine order.lines
  rw [← requests_eq] at records
  calc order.requests.map (fun request => (request.variant, request.quantity.count))
      = order.requests.map (amount ∘ Request.variant) :=
        List.map_congr_left fun request member => by
          rw [quantity_of_mem member]
          rfl
    _ = ((Keyed.firsts (fun line => line.variant.id) order.lines).map LineItem.variant).map
          amount := by rw [← List.map_map, records]
    _ = _ := List.map_map

theorem requests_merge (order : Order) : Request.Merges order.lines order.requests where
  variants := order.variants_eq_eraseDups
  distinct := order.variants_nodup
  amounts := order.amounts_requests
  positive := by
    intro request member
    obtain ⟨line, listed, same⟩ := exists_line member
    have counted : line.quantity.count ≤ order.ordered request.variant.id := by
      apply List.single_le_sum fun _ _ => Nat.zero_le _
      exact List.mem_map.mpr ⟨line, List.mem_filter.mpr ⟨listed, by simp [same]⟩, rfl⟩
    have positive := line.quantity_pos
    rw [quantity_of_mem member]
    omega

end Order

theorem Request.ext_amount {first second : Request} (variant : first.variant = second.variant)
    (count : first.quantity.count = second.quantity.count) : first = second := by
  cases first
  cases second
  obtain rfl := variant
  obtain rfl := Units.ext_count count
  rfl

theorem Request.Merges.unique {lines others : List LineItem} {requests merged : List Request}
    (first : Merges lines requests) (second : Merges others merged)
    (records : (Keyed.firsts (fun line => line.variant.id) others).map LineItem.variant =
      (Keyed.firsts (fun line => line.variant.id) lines).map LineItem.variant)
    (totals : ∀ variant, LineItem.total variant others = LineItem.total variant lines) :
    merged = requests := by
  let amount (variant : Variant) := (variant, min (LineItem.total variant.id lines) 4294967295)
  have apart : Function.Injective fun request : Request =>
      (request.variant, request.quantity.count) := by
    intro a b same
    exact ext_amount (Prod.mk.inj same).1 (Prod.mk.inj same).2
  apply List.map_injective_iff.mpr apart
  rw [second.amounts, first.amounts]
  calc (Keyed.firsts (fun line => line.variant.id) others).map _
      = ((Keyed.firsts (fun line => line.variant.id) others).map LineItem.variant).map amount := by
        simp only [List.map_map, totals]
        rfl
    _ = ((Keyed.firsts (fun line => line.variant.id) lines).map LineItem.variant).map amount := by
        rw [records]
    _ = _ := List.map_map

namespace Merging

theorem ofLines_points (lines : List LineItem) : (ofLines lines).Points := by
  intro variant place
  have distinct := Request.nodup_foldl_addLine lines [] List.nodup_nil
  rw [← requests_ofLines] at distinct
  rw [ofLines_placed lines variant, Request.place?]
  exact Keyed.findIdx?_eq_some_iff distinct

end Merging

/-- The lines of an order are merged by variant, and after any number of them each noted place is
that of the request it is noted for. Dividing a line or moving lines about leaves the requests
as they are, as long as the first lines stay first and in their order. -/
theorem Order.requests_merged (order : Order) :
    Request.Merges order.lines order.requests ∧
    order.variants = Request.variants order.requests ∧
    (∀ read, (Merging.ofLines (order.lines.take read)).Points) ∧
    (∀ other : Order, LineItem.Split order.lines other.lines → other.requests = order.requests) ∧
    ∀ other : Order, other.lines.Perm order.lines →
      Keyed.firsts (fun line => line.variant.id) other.lines =
        Keyed.firsts (fun line => line.variant.id) order.lines →
      other.requests = order.requests := by
  refine ⟨order.requests_merge, rfl, fun read => Merging.ofLines_points _, ?split, ?moved⟩
  case split =>
    intro other split
    exact order.requests_merge.unique other.requests_merge split.firsts split.total
  case moved =>
    intro other perm same
    refine order.requests_merge.unique other.requests_merge (congrArg _ same) ?_
    exact fun variant => LineItem.total_perm variant perm

/-- Six lamps on a later line, as one on a line before the rugs and five on a line after them. -/
theorem Order.tenLampsThreeRugs_merged :
    let lamps (n : Nat) := LineItem.counted (.plain 1 "lamp") n
    let rugs := LineItem.counted (.plain 2 "rug") 3
    let order := Order.ofLines [lamps 4, rugs, lamps 6]
    let divided := Order.ofLines [lamps 4, lamps 1, rugs, lamps 5]
    let moved := Order.ofLines [lamps 4, lamps 5, rugs, lamps 1]
    LineItem.Split order.lines divided.lines ∧ moved.lines.Perm divided.lines ∧
      divided.requests = order.requests ∧ moved.requests = divided.requests ∧
      order.requests = [⟨.plain 1 "lamp", 10⟩, ⟨.plain 2 "rug", 3⟩] := by
  intro lamps rugs order divided moved
  have scattered : Keyed.Scattered [lamps 1, lamps 5] ([rugs] ++ []) [lamps 1, rugs, lamps 5] :=
    ⟨.cons _ (.cons_cons _ (.cons _ .slnil)), .cons _ (.swap _ _ _)⟩
  have divides : LineItem.Divides [lamps 1, lamps 5] (lamps 6) :=
    ⟨by simp [lamps, LineItem.counted], by decide⟩
  have named : (lamps 4).variant.id = (lamps 6).variant.id := rfl
  have split : LineItem.Split order.lines divided.lines :=
    .later (List.mem_singleton_self (lamps 4)) named divides scattered
  have perm : moved.lines.Perm divided.lines :=
    .cons _ (List.reverse_perm [lamps 1, rugs, lamps 5])
  exact ⟨split, perm, order.requests_merged.2.2.2.1 divided split,
    divided.requests_merged.2.2.2.2 moved perm rfl, by decide⟩

end Fulfilment
