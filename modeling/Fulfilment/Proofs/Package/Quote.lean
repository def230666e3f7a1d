import Fulfilment.Package.Quote
import Fulfilment.Proofs.Outcome
import Mathlib.Data.List.Basic

/-! The rates that a package is quoted, and which of them is selected.

A quote keeps the place of its method in the list of the distributor. The rates stand by
cost and, where costs are equal as numbers, by that place; the selected one is the first
in this order that may be chosen. -/
namespace Fulfilment

section StableSort

variable {α : Type} {le : α → α → Bool}

theorem filter_mergeSort (trans : ∀ a b c, le a b = true → le b c = true → le a c = true)
    (total : ∀ a b, (le a b || le b a) = true) (items : List α) (tied : α → Bool)
    (ties : ∀ a b, tied a = true → tied b = true → le a b = true) :
    (items.mergeSort le).filter tied = items.filter tied := by
  have ordered : (items.filter tied).Pairwise fun a b => le a b = true := by
    apply List.pairwise_of_forall_mem_list
    intro a first b second
    exact ties a b (List.mem_filter.mp first).2 (List.mem_filter.mp second).2
  have inside := List.sublist_mergeSort trans total ordered List.filter_sublist
  have selected := inside.filter tied
  rw [List.filter_filter] at selected
  simp only [Bool.and_self] at selected
  have size := ((List.mergeSort_perm items le).filter tied).length_eq
  exact (selected.eq_of_length size.symm).symm

/-- A sorted list is in order and, where elements tie, in the order of the given list. -/
theorem pairwise_mergeSort_stable
    (trans : ∀ a b c, le a b = true → le b c = true → le a c = true)
    (total : ∀ a b, (le a b || le b a) = true) {items : List α} {R : α → α → Prop}
    (given : items.Pairwise R) :
    (items.mergeSort le).Pairwise fun a b => le a b = true ∧ (le b a = true → R a b) := by
  rw [List.pairwise_iff_forall_sublist]
  intro a b pair
  have sorted := List.pairwise_iff_forall_sublist.mp (List.pairwise_mergeSort trans total items) pair
  refine ⟨sorted, fun back => ?_⟩
  -- Among the elements that tie with both, sorting kept the given order.
  let tied := fun c => le a c && le c a
  have ties : ∀ c d, tied c = true → tied d = true → le c d = true := by
    intro c d first second
    simp only [tied, Bool.and_eq_true] at first second
    exact trans c a d first.2 second.1
  have reflexive : le a a = true := trans a b a sorted back
  have both : [a, b].filter tied = [a, b] := by simp [tied, reflexive, sorted, back]
  have kept := pair.filter tied
  rw [both, filter_mergeSort trans total items tied ties] at kept
  exact List.pairwise_iff_forall_sublist.mp given (kept.trans List.filter_sublist)

end StableSort

/-- In an ordered list the first item with a property precedes all others that have it. -/
theorem precedes_of_find? {α : Type} {R : α → α → Prop} {property : α → Bool} {items : List α}
    (ordered : items.Pairwise R) {item : α} (found : items.find? property = some item) :
    ∀ other ∈ items, property other = true → other = item ∨ R item other := by
  obtain ⟨_, before, after, rfl, earlier⟩ := List.find?_eq_some_iff_append.mp found
  intro other member has
  rcases List.mem_append.mp member with first | rest
  · have lacks := earlier other first
    rw [has] at lacks
    contradiction
  · rcases List.mem_cons.mp rest with same | later
    · exact .inl same
    · exact .inr ((List.pairwise_cons.mp (List.pairwise_append.mp ordered).2.1).1 other later)

theorem ShippingMethod.carries_iff (method : ShippingMethod) (package : Package) :
    method.carries package.categories = true ↔
      ∀ content ∈ package.contents, content.variant.category ∈ method.categories := by
  simp [carries, Package.categories]

theorem Calculator.quotesIn_iff (calculator : Calculator) (currency : Currency) :
    calculator.quotesIn currency = true ↔
      ∀ own, calculator.currency = some own → own = currency := by
  cases own : calculator.currency <;> simp [quotesIn, own]

/-- A member of a zone that an address lies in. Names agree up to the case of letters. -/
inductive ZoneMember.Holds (address : Address) : ZoneMember → Prop
  | country {name : String} (same : Text.sameIgnoringCase name address.country = true) :
      Holds address (.country name)
  | state {name part actual : String} (same : Text.sameIgnoringCase name address.country = true)
      (given : address.state = some actual) (alike : Text.sameIgnoringCase actual part = true) :
      Holds address (.state name part)

theorem ZoneMember.covers_iff {member : ZoneMember} {address : Address} :
    member.covers address = true ↔ member.Holds address := by
  cases member with
  | country name =>
    constructor
    · exact .country
    · rintro ⟨same⟩
      exact same
  | state name part =>
    rw [covers, Bool.and_eq_true, Option.any_eq_true]
    constructor
    · rintro ⟨same, actual, given, alike⟩
      exact .state same given alike
    · intro holds
      cases holds with
      | state same given alike => exact ⟨same, _, given, alike⟩

namespace ShippingMethod

/-- A method that goes to where an order is sent. It needs no address, or the order has one and
the method is limited to no zones or has a zone with that address in it. -/
def Reaches (method : ShippingMethod) (address : Option Address) : Prop :=
  method.requiresAddress = false ∨ ∃ actual, address = some actual ∧
    (method.zones = [] ∨ ∃ zone ∈ method.zones, ∃ member ∈ zone.members, member.Holds actual)

theorem serves_iff {method : ShippingMethod} {address : Option Address} :
    method.serves address = true ↔ method.Reaches address := by
  simp only [serves, Reaches, Zone.covers, Bool.or_eq_true, Bool.not_eq_true', Option.any_eq_true,
    List.isEmpty_iff, List.any_eq_true, ZoneMember.covers_iff]

end ShippingMethod

/-- A method at its place in the list of the distributor, with what it costs. -/
structure Quote where
  position : Nat
  method : ShippingMethod
  cost : Decimal

namespace Quote

def rate (quote : Quote) (selected : Bool) : Rate := ⟨quote.method, quote.cost, selected⟩

/-- Whether the distributor quotes a cost for a package: the method stands at its place and
passes every check, and its calculator computes that cost. -/
structure Offered (package : Package) (applyTags : Bool) (quote : Quote) : Prop where
  listed : package.order.distributor.methods[quote.position]? = some quote.method
  carries : ∀ content ∈ package.contents, content.variant.category ∈ quote.method.categories
  shown : applyTags = true → TagRule.hides package.order.distributor.tagRules
    package.order.customerTags quote.method.tags = false
  available : quote.method.calculator.available package.parcel = .ok true
  served : quote.method.Reaches package.order.shipAddress
  currency : ∀ own, quote.method.calculator.currency = some own → own = package.currency
  computed : quote.method.calculator.compute package.parcel = .ok (some quote.cost)

/-- Lower cost first; of equal costs, whatever their scales, the one listed first. -/
def Precedes (first second : Quote) : Prop :=
  first.cost.atoms < second.cost.atoms ∨
    first.cost.atoms = second.cost.atoms ∧ first.position < second.position

theorem Precedes.asymm {first second : Quote} (before : first.Precedes second) :
    ¬ second.Precedes first := by
  unfold Precedes at *
  omega

theorem Precedes.ne {first second : Quote} (before : first.Precedes second) : first ≠ second := by
  rintro rfl
  exact before.asymm before

/-- Whether a quote may be selected: at checkout only what customers are offered. -/
def Choosable (checkout : Bool) (quote : Quote) : Prop :=
  checkout = true → quote.method.offeredToCustomers = true

instance (first second : Quote) : Decidable (first.Precedes second) :=
  inferInstanceAs (Decidable (_ ∨ _))

instance (checkout : Bool) (quote : Quote) : Decidable (quote.Choosable checkout) :=
  inferInstanceAs (Decidable (_ → _))

end Quote

namespace Package

def clears (package : Package) (applyTags : Bool) (method : ShippingMethod) : Bool :=
  method.carries package.categories &&
    !(applyTags && TagRule.hides package.order.distributor.tagRules package.order.customerTags
      method.tags) &&
    (method.calculator.available package.parcel).toOption == some true &&
    method.serves package.order.shipAddress && method.calculator.quotesIn package.currency

def computed? (package : Package) (method : ShippingMethod) : Option Decimal :=
  (method.calculator.compute package.parcel).toOption.join

/-- The quotes in the order of the distributor. -/
def walk (package : Package) (applyTags : Bool) : List Quote :=
  (package.order.distributor.methods.zipIdx.filter fun listed =>
    package.clears applyTags listed.1).filterMap fun listed =>
      (package.computed? listed.1).map fun cost => ⟨listed.2, listed.1, cost⟩

theorem mem_walk {package : Package} {applyTags : Bool} {quote : Quote} :
    quote ∈ package.walk applyTags ↔ quote.Offered package applyTags := by
  unfold walk
  simp only [List.mem_filterMap, List.mem_filter, Prod.exists, List.mk_mem_zipIdx_iff_getElem?]
  constructor
  · rintro ⟨method, position, ⟨listed, clear⟩, found⟩
    obtain ⟨cost, computed, rfl⟩ := Option.map_eq_some_iff.mp found
    simp only [clears, Bool.and_eq_true, ShippingMethod.carries_iff, ShippingMethod.serves_iff,
      Calculator.quotesIn_iff] at clear
    obtain ⟨⟨⟨⟨carried, shown⟩, available⟩, served⟩, own⟩ := clear
    refine ⟨listed, carried, ?_, ?_, served, own, ?_⟩
    · intro on
      simpa [on] using shown
    · simpa [toOption_eq_some] using available
    · simpa [computed?, Option.join_eq_some_iff, toOption_eq_some] using computed
  · intro offered
    refine ⟨quote.method, quote.position, ⟨offered.listed, ?_⟩, ?_⟩
    · simp only [clears, Bool.and_eq_true, ShippingMethod.carries_iff, ShippingMethod.serves_iff,
        Calculator.quotesIn_iff]
      refine ⟨⟨⟨⟨offered.carries, ?_⟩, ?_⟩, offered.served⟩, offered.currency⟩
      · cases applyTags with
        | false => rfl
        | true => simp [offered.shown rfl]
      · simp [offered.available, Except.toOption]
    · simp [computed?, offered.computed, Except.toOption]

theorem walk_pairwise (package : Package) (applyTags : Bool) :
    (package.walk applyTags).Pairwise fun first second => first.position < second.position := by
  unfold walk
  rw [List.pairwise_filterMap, List.pairwise_filter]
  have increasing : package.order.distributor.methods.zipIdx.Pairwise
      fun first second => first.2 < second.2 := by
    rw [← List.pairwise_map, List.zipIdx_map_snd]
    exact List.pairwise_lt_range'
  refine increasing.imp ?_
  intro first second before _ _ quote found other sought
  obtain ⟨_, _, rfl⟩ := Option.map_eq_some_iff.mp found
  obtain ⟨_, _, rfl⟩ := Option.map_eq_some_iff.mp sought
  exact before

theorem eligible_ok {package : Package} {methods eligible : List ShippingMethod}
    (ok : package.eligible methods = .ok eligible) :
    eligible = methods.filter fun method =>
      (method.calculator.available package.parcel).toOption == some true &&
        method.serves package.order.shipAddress && method.calculator.quotesIn package.currency := by
  induction methods generalizing eligible with
  | nil => exact (Except.ok.inj ok).symm
  | cons method rest ih =>
    obtain ⟨available, asked, ok⟩ := bind_eq_ok.mp ok
    obtain ⟨others, later, ok⟩ := bind_eq_ok.mp ok
    have kept := ih later
    rw [List.filter_cons, asked, ← kept]
    split at ok
    · rename_i passes
      have same : method :: others = eligible := Except.ok.inj ok
      rw [if_pos (by cases available <;> simp_all [Except.toOption]), same]
    · rename_i fails
      have same : others = eligible := Except.ok.inj ok
      rw [if_neg (by cases available <;> simp_all [Except.toOption]), same]

theorem cost?_ok {package : Package} {method : ShippingMethod} {cost : Option Decimal}
    (ok : package.cost? method = .ok cost) :
    package.computed? method = cost ∧ ∀ amount, cost = some amount → 0 ≤ amount.atoms := by
  obtain ⟨computed, asked, ok⟩ := bind_eq_ok.mp ok
  rw [computed?, asked]
  cases computed with
  | none =>
    cases Except.ok.inj ok
    exact ⟨rfl, by simp⟩
  | some amount =>
    simp only at ok
    split at ok
    · contradiction
    · rename_i positive
      cases Except.ok.inj ok
      refine ⟨rfl, ?_⟩
      intro other given
      rw [← Option.some.inj given]
      exact Decimal.not_less_iff.mp (by simpa using positive)

theorem priced_ok {package : Package} {methods : List ShippingMethod} {rates : List Rate}
    (ok : package.priced methods = .ok rates) :
    (rates = methods.filterMap fun method =>
      (package.computed? method).map fun cost => ⟨method, cost, false⟩) ∧
      ∀ rate ∈ rates, 0 ≤ rate.cost.atoms := by
  induction methods generalizing rates with
  | nil =>
    cases Except.ok.inj ok
    exact ⟨rfl, fun rate member => absurd member List.not_mem_nil⟩
  | cons method rest ih =>
    obtain ⟨cost, asked, ok⟩ := bind_eq_ok.mp ok
    obtain ⟨others, later, ok⟩ := bind_eq_ok.mp ok
    obtain ⟨listed, floor⟩ := ih later
    obtain ⟨computed, positive⟩ := cost?_ok asked
    have same := Except.ok.inj ok
    subst same
    constructor
    · rw [List.filterMap_cons, computed, ← listed]
      cases cost <;> rfl
    · intro rate member
      rcases List.mem_append.mp member with own | other
      · obtain ⟨amount, given, rfl⟩ := by simpa using own
        exact positive amount given
      · exact floor rate other

theorem filter_candidates (package : Package) (applyTags : Bool) :
    (package.candidates applyTags).filter (fun method =>
      (method.calculator.available package.parcel).toOption == some true &&
        method.serves package.order.shipAddress && method.calculator.quotesIn package.currency) =
      package.order.distributor.methods.filter (package.clears applyTags) := by
  unfold candidates TagRule.keep
  cases applyTags <;> simp only [List.filter_filter, Bool.false_eq_true, if_false, if_true] <;>
    apply List.filter_congr <;> intro method _ <;>
    simp only [clears, Bool.false_and, Bool.true_and, Bool.not_false, Bool.and_true] <;>
    ac_rfl

theorem quote_ok {package : Package} {checkout applyTags : Bool} {rates : List Rate}
    (ok : package.quote checkout applyTags = .ok rates) :
    rates = select checkout (byCost ((package.walk applyTags).map fun quote => quote.rate false)) ∧
      ∀ quote ∈ package.walk applyTags, 0 ≤ quote.cost.atoms := by
  obtain ⟨methods, eligible, ok⟩ := bind_eq_ok.mp ok
  obtain ⟨priced, costed, ok⟩ := bind_eq_ok.mp ok
  obtain ⟨listed, floor⟩ := priced_ok costed
  have walked : priced = (package.walk applyTags).map fun quote => quote.rate false := by
    rw [listed, eligible_ok eligible, filter_candidates, walk, List.map_filterMap]
    conv_lhs => rw [← List.zipIdx_map_fst 0 package.order.distributor.methods]
    rw [List.filter_map, List.filterMap_map]
    apply congrArg (fun f => List.filterMap f _)
    funext listed
    simp only [Function.comp_apply, Option.map_map]
    rfl
  refine ⟨?_, ?_⟩
  · rw [← walked]
    exact (Except.ok.inj ok).symm
  · intro quote member
    apply floor (quote.rate false)
    rw [walked]
    exact List.mem_map.mpr ⟨quote, member, rfl⟩

def ladder (package : Package) (applyTags : Bool) : List Quote :=
  (package.walk applyTags).mergeSort fun first second => first.cost.atMost second.cost

theorem ladder_perm (package : Package) (applyTags : Bool) :
    (package.ladder applyTags).Perm (package.walk applyTags) :=
  List.mergeSort_perm _ _

theorem byCost_walk (package : Package) (applyTags : Bool) :
    byCost ((package.walk applyTags).map fun quote => quote.rate false) =
      (package.ladder applyTags).map fun quote => quote.rate false := by
  unfold byCost ladder
  rw [List.map_mergeSort]
  intro first _ second _
  rfl

theorem ladder_pairwise (package : Package) (applyTags : Bool) :
    (package.ladder applyTags).Pairwise Quote.Precedes := by
  let cheaper (first second : Quote) : Bool := first.cost.atMost second.cost
  have transitive : ∀ a b c, cheaper a b = true → cheaper b c = true → cheaper a c = true := by
    intro a b c first second
    simp only [cheaper, Decimal.atMost, decide_eq_true_eq] at *
    omega
  have total : ∀ a b, (cheaper a b || cheaper b a) = true := by
    intro a b
    simp only [cheaper, Decimal.atMost, Bool.or_eq_true, decide_eq_true_eq]
    omega
  have stable := pairwise_mergeSort_stable transitive total (package.walk_pairwise applyTags)
  refine stable.imp ?_
  intro first second ordered
  simp only [cheaper, Decimal.atMost, decide_eq_true_eq] at ordered
  by_cases tie : first.cost.atoms = second.cost.atoms
  · exact .inr ⟨tie, ordered.2 (by omega)⟩
  · exact .inl (by omega)

theorem selectFirst_rates (property : Rate → Bool) {choosable : Quote → Bool}
    (agrees : ∀ quote, property (quote.rate false) = choosable quote) (quotes : List Quote)
    (distinct : quotes.Pairwise fun first second => first.position ≠ second.position) :
    selectFirst property (quotes.map fun quote => quote.rate false) =
      quotes.map fun quote => quote.rate
        (decide ((quotes.find? choosable).map Quote.position = some quote.position)) := by
  induction quotes with
  | nil => rfl
  | cons quote rest ih =>
    obtain ⟨apart, later⟩ := List.pairwise_cons.mp distinct
    rw [List.map_cons, selectFirst, agrees]
    by_cases chosen : choosable quote = true
    · rw [if_pos chosen, List.find?_cons_of_pos chosen, List.map_cons]
      congr 1
      · simp [Quote.rate]
      · apply List.map_congr_left
        intro other member
        simp [apart other member]
    · rw [if_neg chosen, ih later, List.find?_cons_of_neg chosen, List.map_cons]
      congr 1
      have elsewhere : (rest.find? choosable).map Quote.position ≠ some quote.position := by
        intro same
        obtain ⟨other, found, equal⟩ := Option.map_eq_some_iff.mp same
        exact apart other (List.mem_of_find?_eq_some found) equal.symm
      simp [elsewhere]

theorem selected_once (quotes : List Quote) (place : Option Nat)
    (distinct : quotes.Pairwise fun first second => first.position ≠ second.position) :
    ((quotes.map fun quote => quote.rate (decide (place = some quote.position))).filter
      fun rate => rate.selected).length ≤ 1 := by
  rw [List.filter_map, List.length_map]
  have apart := distinct.filter fun quote => decide (place = some quote.position)
  have placed : ∀ quote ∈ quotes.filter fun quote => decide (place = some quote.position),
      place = some quote.position :=
    fun quote member => by simpa using (List.mem_filter.mp member).2
  change (quotes.filter fun quote => decide (place = some quote.position)).length ≤ 1
  generalize quotes.filter (fun quote => decide (place = some quote.position)) = found at *
  cases found with
  | nil => exact Nat.zero_le 1
  | cons first rest =>
    cases rest with
    | nil => exact Nat.le_refl 1
    | cons second others =>
      have same := (placed first (by simp)).symm.trans (placed second (by simp))
      exact absurd (Option.some.inj same) ((List.pairwise_cons.mp apart).1 second (by simp))

/-- The rates of a package. `walk` is what the methods quote in the order of the distributor,
`sorted` the same in the order of the rates, and `chosen` the quote that is selected. -/
structure Rated (package : Package) (checkout applyTags : Bool) (rates : List Rate)
    (walk sorted : List Quote) (chosen : Option Quote) : Prop where
  walked : ∀ quote, quote ∈ walk ↔ quote.Offered package applyTags
  inOrder : walk.Pairwise fun first second => first.position < second.position
  floor : ∀ quote ∈ walk, 0 ≤ quote.cost.atoms
  permuted : sorted.Perm walk
  byCost : sorted.Pairwise Quote.Precedes
  flagged : rates = sorted.map fun quote =>
    quote.rate (decide (chosen.map Quote.position = some quote.position))
  least : ∀ quote, chosen = some quote → quote ∈ walk ∧ quote.Choosable checkout ∧
    ∀ other ∈ walk, other.Choosable checkout → other = quote ∨ quote.Precedes other
  unchosen : chosen = none ↔ ∀ quote ∈ walk, ¬ quote.Choosable checkout
  once : (rates.filter fun rate => rate.selected).length ≤ 1

/-- Whenever a package is quoted rates, they are what its methods quote, by cost and then by
their place in the list of the distributor, and the first of them that may be chosen is
selected. -/
theorem quote_rated {package : Package} {checkout applyTags : Bool} {rates : List Rate}
    (ok : package.quote checkout applyTags = .ok rates) :
    ∃ walk sorted chosen, package.Rated checkout applyTags rates walk sorted chosen := by
  obtain ⟨sorted, floor⟩ := quote_ok ok
  have precedes := package.ladder_pairwise applyTags
  have listed {quote : Quote} : quote ∈ package.ladder applyTags ↔ quote ∈ package.walk applyTags :=
    (package.ladder_perm applyTags).mem_iff
  have distinct : (package.ladder applyTags).Pairwise
      fun first second => first.position ≠ second.position := by
    apply ((package.ladder_perm applyTags).pairwise_iff fun different => Ne.symm different).mpr
    exact (package.walk_pairwise applyTags).imp Nat.ne_of_lt
  let choosable (quote : Quote) : Bool := !checkout || quote.method.offeredToCustomers
  have choosable_iff (quote : Quote) : choosable quote = true ↔ quote.Choosable checkout := by
    cases checkout <;> simp [choosable, Quote.Choosable]
  have selected := selectFirst_rates (fun rate => !checkout || rate.method.offeredToCustomers)
    (fun quote => (rfl : _ = choosable quote)) (package.ladder applyTags) distinct
  refine ⟨package.walk applyTags, package.ladder applyTags, (package.ladder applyTags).find? choosable,
    fun quote => mem_walk, package.walk_pairwise applyTags, floor, package.ladder_perm applyTags,
    precedes, ?_, ?_, ?_, ?_⟩
  · rw [sorted, byCost_walk]
    exact selected
  · intro quote found
    refine ⟨listed.mp (List.mem_of_find?_eq_some found),
      (choosable_iff quote).mp (List.find?_some found), ?_⟩
    intro other member chosen
    exact precedes_of_find? precedes found other (listed.mpr member) ((choosable_iff other).mpr chosen)
  · rw [List.find?_eq_none]
    constructor
    · intro refused quote member may
      exact refused quote (listed.mpr member) ((choosable_iff quote).mpr may)
    · intro refused quote member may
      exact refused quote (listed.mp member) ((choosable_iff quote).mp may)
  · rw [sorted, byCost_walk, select, selected]
    exact selected_once _ _ distinct

namespace Rated

variable {package : Package} {checkout applyTags : Bool} {rates : List Rate}
  {walk sorted : List Quote} {chosen : Option Quote}
  (rated : package.Rated checkout applyTags rates walk sorted chosen)

include rated

/-- What is offered, put in the order of the rates, can only be put there in one way. -/
theorem sorted_eq {quotes : List Quote} (offered : ∀ quote, quote ∈ quotes ↔
    quote.Offered package applyTags) (ordered : quotes.Pairwise Quote.Precedes) :
    sorted = quotes := by
  have same : sorted.Perm quotes := by
    rw [List.perm_ext_iff_of_nodup (rated.byCost.imp Quote.Precedes.ne)
      (ordered.imp Quote.Precedes.ne)]
    intro quote
    rw [rated.permuted.mem_iff, rated.walked, offered]
  refine same.eq_of_pairwise ?_ rated.byCost ordered
  intro first second _ _ before after
  exact absurd after before.asymm

theorem chosen_eq {quote : Quote} (listed : quote ∈ walk) (choosable : quote.Choosable checkout)
    (first : ∀ other ∈ walk, other.Choosable checkout → other = quote ∨ quote.Precedes other) :
    chosen = some quote := by
  cases found : chosen with
  | none => exact absurd choosable (rated.unchosen.mp found quote listed)
  | some other =>
    obtain ⟨inside, may, least⟩ := rated.least other found
    rcases first other inside may with same | before
    · rw [same]
    rcases least quote listed choosable with same | after
    · rw [same]
    · exact absurd after before.asymm

end Rated

def steady (id : ShippingMethodId) (audience : Audience) (cost : Decimal) : ShippingMethod :=
  ⟨id, "steady", audience, false, [], [], [],
    ⟨"steady", .null, none, fun _ => .ok true, fun _ => .ok (some cost)⟩⟩

/-- Three ways to send a package without an address: the cheapest is not offered to customers, and
the two others write the same cost with different scales. A fourth method needs an address. -/
def threeWays : Package :=
  let methods := [steady 1 .both (.ofDigits 50 1), steady 2 .both (.ofDigits 5 0),
    steady 3 .backEnd .zero, { steady 4 .both .zero with requiresAddress := true }]
  .empty ⟨0, ⟨0, "hub", methods, []⟩, none, none, [], []⟩ ⟨0, "shed", true, []⟩ .usd

/-- The quotes of the three ways by cost. -/
def threeQuotes : List Quote :=
  [⟨2, steady 3 .backEnd .zero, .zero⟩, ⟨0, steady 1 .both (.ofDigits 50 1), .ofDigits 50 1⟩,
    ⟨1, steady 2 .both (.ofDigits 5 0), .ofDigits 5 0⟩]

theorem threeWays_rated : ∃ rates walk sorted chosen, threeWays.quote true true = .ok rates ∧
    threeWays.Rated true true rates walk sorted chosen ∧
    rates.map (fun rate => (rate.method.id, rate.cost, rate.selected)) =
      [(3, .zero, false), (1, .ofDigits 50 1, true), (2, .ofDigits 5 0, false)] := by
  obtain ⟨rates, quoted⟩ : ∃ rates, threeWays.quote true true = .ok rates := ⟨_, rfl⟩
  obtain ⟨walk, sorted, chosen, rated⟩ := quote_rated quoted
  have turned : threeQuotes.Perm (threeWays.walk true) :=
    (List.perm_append_comm : ([threeQuotes[0]] ++ threeQuotes.tail).Perm _)
  have offered (quote : Quote) : quote ∈ threeQuotes ↔ quote.Offered threeWays true :=
    turned.mem_iff.trans mem_walk
  have listed (quote : Quote) : quote ∈ walk ↔ quote ∈ threeQuotes :=
    (rated.walked quote).trans (offered quote).symm
  have inOrder : sorted = threeQuotes := rated.sorted_eq offered (by decide)
  have selected : chosen = some threeQuotes[1] := by
    apply rated.chosen_eq ((listed _).mpr (List.getElem_mem _)) (by decide)
    intro other member may
    rcases List.mem_cons.mp ((listed other).mp member) with rfl | later
    · exact absurd may (by decide)
    rcases List.mem_cons.mp later with rfl | last
    · exact .inl rfl
    obtain rfl := List.mem_singleton.mp last
    exact .inr (by decide)
  refine ⟨rates, walk, sorted, chosen, quoted, rated, ?_⟩
  rw [rated.flagged, inOrder, selected]
  rfl

end Package
end Fulfilment
