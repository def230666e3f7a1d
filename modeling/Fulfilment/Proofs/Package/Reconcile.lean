import Fulfilment.Package.Reconcile
import Fulfilment.Proofs.Allotment
import Fulfilment.Proofs.Order.Requests
import Fulfilment.Proofs.Package.Contents

/-! What reconciling packages with requests leaves in them.

One request works only on the items of its variant: along the units on hand of all
packages and then along the promised ones it allots its quantity to what is offered.
Requests for different variants do not see each other's items, so that each of them is
allotted to the packages as they were given. -/
namespace Fulfilment

/-- The units of a variant that packages offer: those on hand in the order of the packages,
and then the promised ones. -/
def Package.offers (variant : VariantId) (packages : List Package) : List Nat :=
  packages.map (units variant .onHand) ++ packages.map (units variant .backordered)

theorem Package.mem_offers {variant : VariantId} {packages : List Package} {count : Nat} :
    count ∈ offers variant packages ↔
      ∃ package ∈ packages, ∃ state, package.units variant state = count := by
  simp only [offers, List.mem_append, List.mem_map]
  constructor
  · rintro (⟨package, member, rfl⟩ | ⟨package, member, rfl⟩)
    · exact ⟨package, member, .onHand, rfl⟩
    · exact ⟨package, member, .backordered, rfl⟩
  · rintro ⟨package, member, state, rfl⟩
    cases state with
    | onHand => exact .inl ⟨package, member, rfl⟩
    | backordered => exact .inr ⟨package, member, rfl⟩

namespace Demand

structure Serves (demand : Demand) (package kept : Package) (left : Demand) : Prop where
  items : package.SameItems kept
  taken : kept.units demand.variant demand.state =
    min (package.units demand.variant demand.state) demand.need.count
  others : ∀ variant state, (variant, state) ≠ (demand.variant, demand.state) →
    kept.units variant state = package.units variant state
  variant : left.variant = demand.variant
  state : left.state = demand.state
  need : left.need.count =
    demand.need.count - package.units demand.variant demand.state

theorem visit_cons (demand : Demand) (package : Package) (rest : List Package)
    (single : package.Single) :
    ∃ kept left, demand.Serves package kept left ∧
      demand.visit (package :: rest) = (kept :: (left.visit rest).1, (left.visit rest).2) := by
  cases found : package.index? demand.variant demand.state with
  | none =>
    have nothing := Package.units_of_index?_eq_none found
    refine ⟨package, demand, ⟨.refl package, ?_, fun _ _ _ => rfl, rfl, rfl, ?_⟩, ?_⟩
    · omega
    · omega
    · rw [visit, found]
  | some index =>
    have held := Package.quantity_found single found
    generalize quantity : (package.item? index).elim .zero Content.quantity = units at held
    obtain ⟨items, taken, others⟩ :=
      Package.setQuantity_found single found (demand.take units).1
    obtain ⟨variant, state⟩ := demand.take_seeks units
    have kept := demand.take_kept units
    have conserved := demand.take_conserves units
    refine ⟨package.setQuantity index (demand.take units).1, (demand.take units).2,
      ⟨items, ?_, others, variant, state, ?_⟩, ?_⟩
    · rw [taken, kept, held]
    · omega
    · rw [visit, found]
      simp only [quantity]

structure ServesAll (demand : Demand) (packages kept : List Package) (left : Demand) : Prop where
  items : List.Forall₂ Package.SameItems packages kept
  taken : kept.map (Package.units demand.variant demand.state) =
    Allotment.parts demand.need.count (packages.map (Package.units demand.variant demand.state))
  others : ∀ variant state, (variant, state) ≠ (demand.variant, demand.state) →
    kept.map (Package.units variant state) = packages.map (Package.units variant state)
  variant : left.variant = demand.variant
  need : left.need.count =
    demand.need.count - (packages.map (Package.units demand.variant demand.state)).sum

theorem visit_serves (demand : Demand) (packages : List Package)
    (single : ∀ package ∈ packages, package.Single) :
    demand.ServesAll packages (demand.visit packages).1 (demand.visit packages).2 := by
  induction packages generalizing demand with
  | nil => exact ⟨.nil, rfl, fun _ _ _ => rfl, rfl, by simp [visit]⟩
  | cons package rest ih =>
    obtain ⟨kept, left, here, visited⟩ := visit_cons demand package rest (single package (by simp))
    -- The rest is visited with what the first package leaves of the demand.
    have there := ih left fun other member => single other (List.mem_cons_of_mem _ member)
    have taken := there.taken
    have need := there.need
    rw [here.variant, here.state] at taken need
    rw [visited]
    refine ⟨.cons here.items there.items, ?_, ?_, there.variant.trans here.variant, ?_⟩
    · rw [List.map_cons, List.map_cons, Allotment.parts, here.taken, taken, here.need]
    · intro variant state other
      have later := there.others variant state (by rwa [here.variant, here.state])
      rw [List.map_cons, List.map_cons, here.others variant state other, later]
    · rw [need, here.need, List.map_cons, List.sum_cons, Nat.sub_sub]

end Demand

theorem Package.single_of_sameItems {packages kept : List Package}
    (items : List.Forall₂ Package.SameItems packages kept)
    (single : ∀ package ∈ packages, package.Single) : ∀ package ∈ kept, package.Single :=
  forall_of_forall₂ (fun _ _ same => same.single) items single

theorem Package.sameItems_trans {first second third : List Package}
    (a : List.Forall₂ Package.SameItems first second)
    (b : List.Forall₂ Package.SameItems second third) :
    List.Forall₂ Package.SameItems first third := by
  induction a generalizing third with
  | nil => exact b
  | cons head _ ih =>
    cases b with
    | cons next rest => exact .cons (head.trans next) (ih rest)

theorem Package.sameItems_at {packages kept : List Package}
    (items : List.Forall₂ Package.SameItems packages kept) {k : Nat} {package after : Package}
    (here : packages[k]? = some package) (there : kept[k]? = some after) :
    package.SameItems after := by
  obtain ⟨bound, rfl⟩ := List.getElem?_eq_some_iff.mp here
  obtain ⟨limit, rfl⟩ := List.getElem?_eq_some_iff.mp there
  exact items.get bound limit

def Shortfall.amount (shortfall : Shortfall) : VariantId × Nat :=
  (shortfall.variant, shortfall.quantity.count)

namespace Reconciliation

/-- What stays open of requests that are allotted to the offers of packages. -/
def openAmounts (requests : List Request) (packages : List Package) : List (VariantId × Nat) :=
  (requests.map fun request => (request.variant.id, request.quantity.count -
    min (Package.offers request.variant.id packages).sum request.quantity.count)).filter
      fun gap => 0 < gap.2

/-- What settling requests one after the other makes of packages. -/
structure Settles (requests : List Request) (before after : Reconciliation) : Prop where
  items : List.Forall₂ Package.SameItems before.packages after.packages
  allotted : ∀ request ∈ requests, Package.offers request.variant.id after.packages =
    Allotment.parts request.quantity.count (Package.offers request.variant.id before.packages)
  others : ∀ variant, (∀ request ∈ requests, request.variant.id ≠ variant) →
    Package.offers variant after.packages = Package.offers variant before.packages
  shortfalls : after.shortfalls.map Shortfall.amount =
    before.shortfalls.map Shortfall.amount ++ openAmounts requests before.packages

private theorem amounts_of_left (left : Demand) (shortfalls : List Shortfall) (variant : VariantId)
    (missing : Nat) (named : left.variant = variant) (need : left.need.count = missing) :
    (if left.isMet then shortfalls else shortfalls ++ [⟨left.variant, left.need⟩]).map
        Shortfall.amount =
      shortfalls.map Shortfall.amount ++ [(variant, missing)].filter fun gap => 0 < gap.2 := by
  subst named need
  by_cases met : left.need.count = 0
  · simp [Demand.isMet, met]
  · simp [Demand.isMet, met, Shortfall.amount, Nat.pos_of_ne_zero met]

theorem settle_settles (state : Reconciliation) (request : Request)
    (single : ∀ package ∈ state.packages, package.Single) :
    Settles [request] state (state.settle request) := by
  let demand := Demand.start request.variant.id request.quantity
  have first := demand.visit_serves state.packages single
  let kept := (demand.visit state.packages).1
  let turned := (demand.visit state.packages).2.turnToBackorders
  have second := turned.visit_serves kept (Package.single_of_sameItems first.items single)
  let left := (turned.visit kept).2
  have settled : state.settle request = ⟨(turned.visit kept).1, if left.isMet then state.shortfalls
      else state.shortfalls ++ [⟨left.variant, left.need⟩]⟩ := rfl
  have variant : turned.variant = request.variant.id := first.variant
  -- The sweep for units on hand leaves the promised ones for the next sweep to find.
  have promised : kept.map (Package.units request.variant.id .backordered) =
      state.packages.map (Package.units request.variant.id .backordered) :=
    first.others request.variant.id .backordered (by simp [demand, Demand.start])
  have onHand : (turned.visit kept).1.map (Package.units request.variant.id .onHand) =
      kept.map (Package.units request.variant.id .onHand) :=
    second.others request.variant.id .onHand (by simp [turned, Demand.turnToBackorders])
  have need : turned.need.count = request.quantity.count -
    (state.packages.map (Package.units request.variant.id .onHand)).sum := first.need
  have taken : (turned.visit kept).1.map (Package.units request.variant.id .backordered) =
      Allotment.parts turned.need.count
        (kept.map (Package.units request.variant.id .backordered)) := by
    rw [← variant]
    exact second.taken
  have short : left.need.count = turned.need.count -
      (kept.map (Package.units request.variant.id .backordered)).sum := by
    rw [← variant]
    exact second.need
  rw [settled]
  refine ⟨Package.sameItems_trans first.items second.items, ?_, ?_, ?_⟩
  · intro wanted member
    rw [List.mem_singleton.mp member, Package.offers, Package.offers, Allotment.parts_append,
      onHand, taken, promised, need]
    exact congrArg (· ++ _) first.taken
  · intro other different
    have apart := (different request (by simp)).symm
    have here (state : SupplyState) : (other, state) ≠ (demand.variant, demand.state) :=
      fun same => apart (Prod.ext_iff.mp same).1
    have there (state : SupplyState) : (other, state) ≠ (turned.variant, turned.state) :=
      fun same => apart ((Prod.ext_iff.mp same).1.trans variant)
    simp only [Package.offers, second.others _ _ (there _), kept, first.others _ _ (here _)]
  · apply amounts_of_left left state.shortfalls request.variant.id _ (second.variant.trans variant)
    rw [short, need, promised, Package.offers, List.sum_append]
    omega

private theorem openAmounts_append (first second : List Request) (packages : List Package) :
    openAmounts (first ++ second) packages =
      openAmounts first packages ++ openAmounts second packages := by
  simp [openAmounts]

theorem mem_openAmounts {requests : List Request} {packages : List Package}
    {gap : VariantId × Nat} (member : gap ∈ openAmounts requests packages) :
    ∃ request ∈ requests, request.variant.id = gap.1 := by
  obtain ⟨request, inside, rfl⟩ := List.mem_map.mp (List.mem_of_mem_filter member)
  exact ⟨request, inside, rfl⟩

theorem openAmounts_filter {requests : List Request}
    (distinct : (Request.variants requests).Nodup) {request : Request}
    (member : request ∈ requests) (packages : List Package) :
    (openAmounts requests packages).filter (fun gap => gap.1 = request.variant.id) =
      openAmounts [request] packages := by
  obtain ⟨before, after, rfl, early, late⟩ := Request.exists_split distinct member
  have absent (others : List Request)
      (apart : ∀ other ∈ others, other.variant.id ≠ request.variant.id) :
      (openAmounts others packages).filter (fun gap => gap.1 = request.variant.id) = [] := by
    rw [List.filter_eq_nil_iff]
    intro gap inside same
    obtain ⟨other, listed, named⟩ := mem_openAmounts inside
    exact apart other listed (named.trans (by simpa using same))
  have own : (openAmounts [request] packages).filter (fun gap => gap.1 = request.variant.id) =
      openAmounts [request] packages := by
    rw [List.filter_eq_self]
    intro gap inside
    obtain ⟨other, listed, named⟩ := mem_openAmounts inside
    rw [List.mem_singleton.mp listed] at named
    simp [named]
  rw [← List.singleton_append, openAmounts_append, openAmounts_append, List.filter_append,
    List.filter_append, absent before early, absent after late, own, List.nil_append,
    List.append_nil]

theorem openAmounts_congr {requests : List Request} {packages others : List Package}
    (same : ∀ request ∈ requests,
      min (Package.offers request.variant.id packages).sum request.quantity.count =
        min (Package.offers request.variant.id others).sum request.quantity.count) :
    openAmounts requests packages = openAmounts requests others := by
  unfold openAmounts
  congr 1
  apply List.map_congr_left
  intro request member
  rw [same request member]

namespace Settles

theorem nil (state : Reconciliation) : Settles [] state state := by
  refine ⟨List.forall₂_same.mpr fun package _ => .refl package, ?_, fun _ _ => rfl, ?_⟩
  · intro request member
    contradiction
  · simp [openAmounts]

theorem append {first second : List Request} {before between after : Reconciliation}
    (a : Settles first before between) (b : Settles second between after)
    (apart : ∀ request ∈ first, ∀ other ∈ second, other.variant.id ≠ request.variant.id) :
    Settles (first ++ second) before after := by
  -- The later requests find the offers of their variants as they were at first.
  have untouched : ∀ other ∈ second, Package.offers other.variant.id between.packages =
      Package.offers other.variant.id before.packages :=
    fun other member => a.others _ fun request inside => (apart request inside other member).symm
  refine ⟨Package.sameItems_trans a.items b.items, ?_, ?_, ?_⟩
  · intro request member
    rcases List.mem_append.mp member with early | late
    · rw [b.others _ (apart request early), a.allotted request early]
    · rw [b.allotted request late, untouched request late]
  · intro variant other
    rw [b.others _ fun request member => other request (List.mem_append_right _ member),
      a.others _ fun request member => other request (List.mem_append_left _ member)]
  · have left : openAmounts second between.packages = openAmounts second before.packages :=
      openAmounts_congr fun other member => by rw [untouched other member]
    rw [b.shortfalls, a.shortfalls, openAmounts_append, left, List.append_assoc]

theorem onHand_and_backordered {requests : List Request} {before after : Reconciliation}
    (settles : Settles requests before after) {request : Request} (member : request ∈ requests) :
    after.packages.map (Package.units request.variant.id .onHand) =
        Allotment.parts request.quantity.count
          (before.packages.map (Package.units request.variant.id .onHand)) ∧
      after.packages.map (Package.units request.variant.id .backordered) =
        Allotment.parts (request.quantity.count -
            (before.packages.map (Package.units request.variant.id .onHand)).sum)
          (before.packages.map (Package.units request.variant.id .backordered)) := by
  have whole := settles.allotted request member
  rw [Package.offers, Package.offers, Allotment.parts_append] at whole
  exact List.append_inj whole (by simp [settles.items.length_eq])

end Settles

theorem foldl_settle (requests : List Request) (state : Reconciliation)
    (distinct : (Request.variants requests).Nodup)
    (single : ∀ package ∈ state.packages, package.Single) :
    Settles requests state (requests.foldl settle state) := by
  induction requests generalizing state with
  | nil => exact .nil state
  | cons request rest ih =>
    have head := settle_settles state request single
    obtain ⟨fresh, later⟩ := List.nodup_cons.mp distinct
    have tail := ih (state.settle request) later (Package.single_of_sameItems head.items single)
    refine head.append tail ?_
    intro first member other inside same
    rw [List.mem_singleton.mp member] at same
    exact fresh (Request.mem_variants.mpr ⟨other, inside, same⟩)

theorem exists_settled (order : Order) (packages : List Package)
    (single : ∀ package ∈ packages, package.Single) :
    ∃ settled : Reconciliation, Settles order.requests ⟨packages, []⟩ settled ∧
      ofPackages order.requests packages = ⟨prune settled.packages, settled.shortfalls⟩ :=
  ⟨order.requests.foldl settle ⟨packages, []⟩,
    foldl_settle order.requests ⟨packages, []⟩ order.variants_nodup single, rfl⟩

theorem prune_eq (packages : List Package) :
    prune packages =
      (packages.filter fun package => !package.isEmpty).map Package.removeEmpty := by
  unfold prune
  rw [List.filter_map]
  congr 1
  apply List.filter_congr
  intro package _
  exact congrArg not package.isEmpty_removeEmpty

theorem sum_units_prune (variant : VariantId) (state : SupplyState) (packages : List Package) :
    ((prune packages).map (Package.units variant state)).sum =
      (packages.map (Package.units variant state)).sum := by
  induction packages with
  | nil => rfl
  | cons package rest ih =>
    rw [List.map_cons, List.sum_cons]
    by_cases empty : package.isEmpty = true
    · have dropped : prune (package :: rest) = prune rest := by simp [prune, empty]
      rw [dropped, Package.units_of_isEmpty empty, ih, Nat.zero_add]
    · have kept : prune (package :: rest) = package.removeEmpty :: prune rest := by
        simp [prune, empty]
      rw [kept, List.map_cons, List.sum_cons, package.units_removeEmpty, ih]

end Reconciliation

/-! Packages without items. -/

namespace Package

def hasItems (package : Package) : Bool := !package.contents.isEmpty

theorem hasItems_setQuantity (package : Package) (index : Nat) (quantity : Units) :
    (package.setQuantity index quantity).hasItems = package.hasItems := by
  rw [Bool.eq_iff_iff]
  simp [hasItems, setQuantity]

theorem hasItems_of_index? {package : Package} {variant : VariantId} {state : SupplyState}
    {index : Nat} (found : package.index? variant state = some index) :
    package.hasItems = true := by
  obtain ⟨before, content, after, split, _⟩ := split_of_index?_eq_some found
  simp [hasItems, split]

end Package

theorem Demand.visit_filter (demand : Demand) (packages : List Package) :
    demand.visit (packages.filter Package.hasItems) =
      ((demand.visit packages).1.filter Package.hasItems, (demand.visit packages).2) := by
  induction packages generalizing demand with
  | nil => rfl
  | cons package rest ih =>
    cases found : package.index? demand.variant demand.state with
    | none =>
      have whole : demand.visit (package :: rest) =
          (package :: (demand.visit rest).1, (demand.visit rest).2) := by rw [visit, found]
      rw [whole]
      by_cases items : package.hasItems = true
      · rw [List.filter_cons_of_pos items, visit, found, List.filter_cons_of_pos items]
        simp only [ih]
      · rw [List.filter_cons_of_neg items, List.filter_cons_of_neg items, ih]
    | some index =>
      have items := Package.hasItems_of_index? found
      rw [List.filter_cons_of_pos items, visit, visit, found]
      simp only [ih]
      rw [List.filter_cons_of_pos (by rwa [Package.hasItems_setQuantity])]

namespace Reconciliation

def dropBare (state : Reconciliation) : Reconciliation :=
  { state with packages := state.packages.filter Package.hasItems }

theorem settle_dropBare (state : Reconciliation) (request : Request) :
    state.dropBare.settle request = (state.settle request).dropBare := by
  simp only [settle, dropBare, Demand.visit_filter]

theorem foldl_settle_dropBare (requests : List Request) (state : Reconciliation) :
    requests.foldl settle state.dropBare = (requests.foldl settle state).dropBare := by
  induction requests generalizing state with
  | nil => rfl
  | cons request rest ih => rw [List.foldl_cons, settle_dropBare, ih, List.foldl_cons]

theorem prune_filter_hasItems (packages : List Package) :
    prune (packages.filter Package.hasItems) = prune packages := by
  rw [prune_eq, prune_eq, List.filter_filter]
  congr 1
  apply List.filter_congr
  intro package _
  cases items : package.contents with
  | nil => simp [Package.isEmpty, items]
  | cons content rest => simp [Package.hasItems, items]

theorem ofPackages_filter_hasItems (requests : List Request) (packages : List Package) :
    ofPackages requests (packages.filter Package.hasItems) = ofPackages requests packages := by
  let settled := requests.foldl settle ⟨packages, []⟩
  have dropped : requests.foldl settle ⟨packages.filter Package.hasItems, []⟩ = settled.dropBare :=
    foldl_settle_dropBare requests ⟨packages, []⟩
  calc ofPackages requests (packages.filter Package.hasItems)
      = ⟨prune settled.dropBare.packages, settled.shortfalls⟩ := by
        rw [ofPackages, dropped]
        rfl
    _ = ⟨prune settled.packages, settled.shortfalls⟩ := by
        rw [dropBare, prune_filter_hasItems]

end Reconciliation

/-! The quantities of the items. -/

namespace Package

/-- The place of an item of the package at position `k` among the offers of its variant. -/
def place (count k : Nat) : SupplyState → Nat
  | .onHand => k
  | .backordered => count + k

theorem offers_place {packages : List Package} {k : Nat} {package : Package}
    (here : packages[k]? = some package) (variant : VariantId) (state : SupplyState) :
    (offers variant packages)[place packages.length k state]? =
      some (package.units variant state) := by
  have bound : k < packages.length := (List.getElem?_eq_some_iff.mp here).1
  cases state with
  | onHand =>
    rw [offers, place, List.getElem?_append_left (by simpa using bound), List.getElem?_map, here]
    rfl
  | backordered =>
    rw [offers, place, List.getElem?_append_right (by simp), List.getElem?_map, List.length_map,
      Nat.add_sub_cancel_left, here]
    rfl

/-- The same items with quantities that a function gives. -/
structure Requantified (quantity : Content → Nat) (before after : Package) : Prop where
  order : after.order = before.order
  location : after.location = before.location
  currency : after.currency = before.currency
  rates : after.rates = before.rates
  contents : (after.contents.map fun content =>
      (content.variant, content.state, content.quantity.count)) =
    before.contents.map fun content => (content.variant, content.state, quantity content)

/-- The quantities of the items in their order. -/
def counts (package : Package) : List Nat :=
  package.contents.map fun content => content.quantity.count

theorem Requantified.counts {quantity : Content → Nat} {before after : Package}
    (requantified : Requantified quantity before after) :
    after.counts = before.contents.map quantity := by
  have counted := congrArg (List.map fun item => item.2.2) requantified.contents
  rw [List.map_map, List.map_map] at counted
  exact counted

theorem SameItems.requantified {before after : Package} (same : SameItems before after)
    (single : before.Single) (quantity : Content → Nat)
    (counted : ∀ content ∈ before.contents,
      after.units content.variant.id content.state = quantity content) :
    Requantified quantity before after := by
  refine ⟨same.order, same.location, same.currency, same.rates, ?_⟩
  let reading (label : Variant × SupplyState) := (label.1, label.2, after.units label.1.id label.2)
  calc (after.contents.map fun content => (content.variant, content.state, content.quantity.count))
      = after.contents.map (reading ∘ Content.label) := by
        apply List.map_congr_left
        intro content member
        have tallied := Content.tally_of_mem (same.single single) member
        simp only [reading, Function.comp_apply, Content.label, units, tallied]
    _ = before.contents.map (reading ∘ Content.label) := by
        rw [← List.map_map, same.labels, List.map_map]
    _ = before.contents.map fun content => (content.variant, content.state, quantity content) := by
        apply List.map_congr_left
        intro content member
        simp only [reading, Function.comp_apply, Content.label, counted content member]

end Package

namespace Reconciliation

/-- The quantity due to an item of the package at position `k`: its step of the offers of
its variant, cut off at what is requested, or all that it holds of a variant that nobody
requests. -/
def due (requests : List Request) (packages : List Package) (k : Nat) (content : Content) : Nat :=
  match requests.find? fun request => request.variant.id = content.variant.id with
  | some request => Allotment.share request.quantity.count
      (Package.offers content.variant.id packages)
      (Package.place packages.length k content.state)
  | none => content.quantity.count

theorem Settles.units_due {requests : List Request} {before after : Reconciliation}
    (settles : Settles requests before after)
    (single : ∀ package ∈ before.packages, package.Single) {k : Nat} {package kept : Package}
    (here : before.packages[k]? = some package) (there : after.packages[k]? = some kept)
    {content : Content} (member : content ∈ package.contents) :
    kept.units content.variant.id content.state = due requests before.packages k content := by
  have given := Package.offers_place here content.variant.id content.state
  have left := Package.offers_place there content.variant.id content.state
  rw [← settles.items.length_eq] at left
  unfold due
  cases found : requests.find? fun request => request.variant.id = content.variant.id with
  | none =>
    have unrequested : ∀ request ∈ requests, request.variant.id ≠ content.variant.id := by
      simpa using found
    rw [settles.others _ unrequested, given] at left
    have held := Content.tally_of_mem (single package (List.mem_of_getElem? here)) member
    exact (Option.some.inj left).symm.trans held
  | some request =>
    have named : request.variant.id = content.variant.id := by
      simpa using List.find?_some found
    rw [← named, settles.allotted request (List.mem_of_find?_eq_some found), named,
      Allotment.parts_eq_share, List.getElem?_map] at left
    have bound := (List.getElem?_eq_some_iff.mp given).1
    rw [List.getElem?_range bound] at left
    exact (Option.some.inj left).symm

/-- The outcome of reconciling packages with an order, before and after items and packages
that hold nothing are dropped. -/
structure Shares (order : Order) (packages settled : List Package) (result : Reconciliation) :
    Prop where
  length : settled.length = packages.length
  quantities : ∀ k before after, packages[k]? = some before → settled[k]? = some after →
    Package.Requantified (due order.requests packages k) before after
  kept : result.packages =
    (settled.filter fun package => package.contents.any fun content =>
        decide (0 < content.quantity.count)).map fun package =>
      { package with contents := package.contents.filter fun content => 0 < content.quantity.count }
  shortfalls : result.shortfalls.map Shortfall.amount = openAmounts order.requests packages
  once : (result.shortfalls.map Shortfall.variant).Nodup
  inOrder : (result.shortfalls.map Shortfall.variant).Sublist
    (order.lines.map fun line => line.variant.id).eraseDups

theorem Shares.counts {order : Order} {packages settled : List Package} {result : Reconciliation}
    (shares : Shares order packages settled result) : settled.map Package.counts =
      packages.mapIdx fun k package => package.contents.map (due order.requests packages k) := by
  apply List.ext_getElem
  · simp [shares.length]
  · intro k left right
    rw [List.length_map] at left
    rw [List.length_mapIdx] at right
    have requantified := shares.quantities k _ _ (List.getElem?_eq_getElem right)
      (List.getElem?_eq_getElem left)
    rw [List.getElem_map, List.getElem_mapIdx, requantified.counts]

private theorem openAmounts_variants (requests : List Request) (packages : List Package) :
    ((openAmounts requests packages).map Prod.fst).Sublist (Request.variants requests) := by
  have named : Request.variants requests = (requests.map fun request =>
      (request.variant.id, request.quantity.count -
        min (Package.offers request.variant.id packages).sum request.quantity.count)).map
      Prod.fst := by
    rw [List.map_map]
    rfl
  rw [named]
  exact List.filter_sublist.map Prod.fst

/-- Reconciling gives every item the step that the prefix sums of the offers of its variant,
cut off at the requested quantity, make at its place: first the units on hand along the
packages, then the promised ones. Nothing else changes, and what no offer covers is
reported. -/
theorem ofPackages_shares (order : Order) (packages : List Package)
    (single : ∀ package ∈ packages, package.Single) :
    ∃ settled, Shares order packages settled (ofPackages order.requests packages) := by
  obtain ⟨settled, settles, result⟩ := exists_settled order packages single
  have amounts : settled.shortfalls.map Shortfall.amount = openAmounts order.requests packages :=
    settles.shortfalls
  have variants : settled.shortfalls.map Shortfall.variant =
      (openAmounts order.requests packages).map Prod.fst := by
    rw [← amounts, List.map_map]
    rfl
  have sublist : (settled.shortfalls.map Shortfall.variant).Sublist order.variants := by
    rw [variants]
    exact openAmounts_variants order.requests packages
  refine ⟨settled.packages, settles.items.length_eq.symm, ?_, ?_, ?_, ?_, ?_⟩
  · intro k before after here there
    have same := Package.sameItems_at settles.items here there
    apply same.requantified (single before (List.mem_of_getElem? here))
    intro content member
    exact settles.units_due single here there member
  · rw [result]
    change prune settled.packages = _
    rw [prune_eq]
    apply congrArg (List.map Package.removeEmpty)
    apply List.filter_congr
    intro package _
    exact package.not_isEmpty
  · rw [result, amounts]
  · rw [result]
    exact order.variants_nodup.sublist sublist
  · rw [result, ← order.variants_eq_eraseDups]
    exact sublist

def lamp : Variant := .plain 1 "lamp"

def rug : Variant := .plain 2 "rug"

def fiveLamps : Order := .ofLines [.counted lamp 5]

/-- Two sheds that offer more lamps than are ordered, and a rug that nobody ordered. -/
def twoSheds : List Package :=
  let shed : StockLocation := ⟨7, "shed", true, []⟩
  [⟨fiveLamps, shed, .usd, [⟨lamp, 4, .backordered⟩, ⟨lamp, 3, .onHand⟩], []⟩,
    ⟨fiveLamps, shed, .usd, [⟨rug, 1, .onHand⟩, ⟨lamp, 6, .onHand⟩], []⟩]

def twentyLamps : Order := .ofLines [.counted lamp 12, .counted rug 1, .counted lamp 8]

theorem twoSheds_shares : (∀ package ∈ twoSheds, package.Single) ∧
    (∃ settled, Shares fiveLamps twoSheds settled (ofPackages fiveLamps.requests twoSheds) ∧
      settled.map Package.counts = [[0, 3], [1, 2]] ∧
      (ofPackages fiveLamps.requests twoSheds).packages.map Package.counts = [[3], [1, 2]] ∧
      (ofPackages fiveLamps.requests twoSheds).shortfalls = []) ∧
    ∃ settled, Shares twentyLamps twoSheds settled (ofPackages twentyLamps.requests twoSheds) ∧
      settled.map Package.counts = [[4, 3], [1, 6]] ∧
      (ofPackages twentyLamps.requests twoSheds).packages.map Package.counts = [[4, 3], [1, 6]] ∧
      (ofPackages twentyLamps.requests twoSheds).shortfalls.map Shortfall.amount =
        [(lamp.id, 7)] := by
  have single : ∀ package ∈ twoSheds, package.Single := by decide
  obtain ⟨few, covered⟩ := ofPackages_shares fiveLamps twoSheds single
  obtain ⟨many, short⟩ := ofPackages_shares twentyLamps twoSheds single
  exact ⟨single, ⟨few, covered, covered.counts.trans rfl, rfl, rfl⟩,
    many, short, short.counts.trans rfl, rfl, rfl⟩

end Reconciliation
end Fulfilment
