import Fulfilment.Proofs.Allocation.Visiting
import Fulfilment.Proofs.Package.Offer
import Fulfilment.Proofs.Package.Reconcile

/-! How an order is divided over the stock locations that are visited.

Units on hand are taken in the order of the visit until the request is met. What then
remains is promised as a whole by the first location that may promise the variant, and
reported only if there is none. -/
namespace Fulfilment.Allocation
open Reconciliation

def Prices (settings : Settings) (package result : Package) : Prop :=
  ∃ rates, package.quote settings.checkout settings.applyTags = .ok rates ∧
    result = package.setRates rates

theorem priceAll_ok {settings : Settings} {packages priced : List Package}
    (ok : priceAll settings packages = .ok priced) :
    List.Forall₂ (Prices settings) packages priced := by
  induction packages generalizing priced with
  | nil =>
    cases Except.ok.inj ok
    exact .nil
  | cons package rest ih =>
    obtain ⟨rates, quoted, ok⟩ := bind_eq_ok.mp ok
    obtain ⟨others, later, ok⟩ := bind_eq_ok.mp ok
    cases Except.ok.inj ok
    exact .cons ⟨rates, quoted, rfl⟩ (ih later)

section Offers

variable (order : Order) (locations : List StockLocation) (overrides : Option StockOverrides)
  (settings : Settings)

/-- The overrides that count under the settings. -/
def used : Option StockOverrides := if settings.useOverrides then overrides else none

/-- The offers of all visited locations, those that hold nothing for the order included. -/
def visitedOffers : List Package :=
  (visited settings locations).map fun location =>
    Package.offer order location (used overrides settings) settings.defaultCurrency

/-- The units of a variant that a location has on hand, as the distributor sees them. -/
def stock (variant : VariantId) (location : StockLocation) : Nat :=
  (location.seen? (used overrides settings) order variant).elim 0 StockItem.available

/-- Whether a location may promise units of a variant, as the distributor sees it. -/
def promises (variant : VariantId) (location : StockLocation) : Bool :=
  (location.seen? (used overrides settings) order variant).any (·.backorderable)

/-- The units of a request that are not on hand at any of the sites. -/
def remainder (sites : List StockLocation) (request : Request) : Nat :=
  request.quantity.count -
    min (sites.map (stock order overrides settings request.variant.id)).sum request.quantity.count

theorem offers_filter : (offers order locations overrides settings).filter Package.hasItems =
    (visitedOffers order locations overrides settings).filter Package.hasItems := by
  unfold offers visitedOffers
  rw [List.filter_map, List.filter_map, List.filter_filter]
  apply congrArg (List.map _)
  apply List.filter_congr
  intro location _
  cases relevant : location.holdsAny order.variants with
  | true => exact Bool.and_true _
  | false =>
    have bare := Package.offer_of_holdsAny_eq_false order location (used overrides settings)
      settings.defaultCurrency relevant
    simp [Package.hasItems, bare]

theorem ofPackages_offers : ofPackages order.requests (offers order locations overrides settings) =
    ofPackages order.requests (visitedOffers order locations overrides settings) := by
  rw [← ofPackages_filter_hasItems, offers_filter, ofPackages_filter_hasItems]

theorem allocate_congr_offers {others : List StockLocation} {rewrites : Option StockOverrides}
    (same : offers order others rewrites settings = offers order locations overrides settings) :
    allocate order others rewrites settings = allocate order locations overrides settings := by
  rw [allocate, same, allocate]

theorem exists_settlement : ∃ settled : Reconciliation,
    Settles order.requests ⟨visitedOffers order locations overrides settings, []⟩ settled ∧
      ofPackages order.requests (offers order locations overrides settings) =
        ⟨prune settled.packages, settled.shortfalls⟩ := by
  have single : ∀ package ∈ visitedOffers order locations overrides settings, package.Single := by
    intro package member
    obtain ⟨location, _, rfl⟩ := List.mem_map.mp member
    exact Package.offer_single _ _ _ _
  rw [ofPackages_offers]
  exact exists_settled order _ single

theorem allocate_ok {allocation : Allocation}
    (ok : allocate order locations overrides settings = .ok allocation) :
    ∃ settled : Reconciliation,
      Settles order.requests ⟨visitedOffers order locations overrides settings, []⟩ settled ∧
      List.Forall₂ (Prices settings) (prune settled.packages) allocation.packages ∧
      allocation.shortfalls = settled.shortfalls := by
  obtain ⟨settled, settles, result⟩ := exists_settlement order locations overrides settings
  obtain ⟨priced, prices, ok⟩ := bind_eq_ok.mp ok
  rw [result] at prices ok
  cases Except.ok.inj ok
  exact ⟨settled, settles, priceAll_ok prices, rfl⟩

theorem visitedOffers_onHand {request : Request} (member : request ∈ order.requests) :
    (visitedOffers order locations overrides settings).map
        (Package.units request.variant.id .onHand) =
      ((visited settings locations).map (stock order overrides settings request.variant.id)).map
        (min request.quantity.count) := by
  rw [visitedOffers, List.map_map, List.map_map]
  apply List.map_congr_left
  intro location _
  exact (Package.units_offer _ _ _ _ member _).trans (Content.tally_offered_onHand _ _)

theorem visitedOffers_backordered {request : Request} (member : request ∈ order.requests) :
    (visitedOffers order locations overrides settings).map
        (Package.units request.variant.id .backordered) =
      (visited settings locations).map fun location =>
        if promises order overrides settings request.variant.id location then
          request.quantity.count -
            min request.quantity.count (stock order overrides settings request.variant.id location)
        else 0 := by
  rw [visitedOffers, List.map_map]
  apply List.map_congr_left
  intro location _
  refine (Package.units_offer _ _ _ _ member _).trans
    ((Content.tally_offered_backordered _ _).trans ?_)
  unfold promises stock
  cases location.seen? (used overrides settings) order request.variant.id with
  | none => rfl
  | some item => rfl

/-- A location that may promise anything offers, alone, at least what all of them leave open. -/
theorem remainder_le {request : Request} {location : StockLocation}
    (member : location ∈ visited settings locations) :
    remainder order overrides settings (visited settings locations) request ≤ request.quantity.count -
      min request.quantity.count (stock order overrides settings request.variant.id location) := by
  obtain ⟨before, after, split⟩ := List.append_of_mem member
  rw [remainder, split, List.map_append, List.map_cons, List.sum_append, List.sum_cons]
  omega

theorem need_after_onHand {request : Request} (member : request ∈ order.requests) :
    request.quantity.count - ((visitedOffers order locations overrides settings).map
        (Package.units request.variant.id .onHand)).sum =
      remainder order overrides settings (visited settings locations) request := by
  have capped := congrArg List.sum (Allotment.parts_capped request.quantity.count _
    (Nat.le_refl _) ((visited settings locations).map
      (stock order overrides settings request.variant.id)))
  rw [Allotment.parts_sum, Allotment.parts_sum, ← visitedOffers_onHand _ _ _ _ member] at capped
  unfold remainder
  omega

theorem open_after_offers {request : Request} (member : request ∈ order.requests) :
    request.quantity.count - min (Package.offers request.variant.id
        (visitedOffers order locations overrides settings)).sum request.quantity.count =
      if (visited settings locations).any (promises order overrides settings request.variant.id)
      then 0 else remainder order overrides settings (visited settings locations) request := by
  have promised := Allotment.sum_of_all_or_nothing
    (remainder order overrides settings (visited settings locations) request)
    (promises order overrides settings request.variant.id) _ (visited settings locations)
    fun location inside _ => remainder_le order locations overrides settings inside
  have left := need_after_onHand order locations overrides settings member
  rw [← visitedOffers_backordered _ _ _ _ member] at promised
  rw [Package.offers, List.sum_append]
  split <;> rename_i any <;> simp only [any, if_true, if_false, Bool.false_eq_true] at promised <;>
    omega

end Offers

section Settled

variable {order : Order} {locations : List StockLocation} {overrides : Option StockOverrides}
  {settings : Settings} {settled : Reconciliation}
  (settles : Settles order.requests ⟨visitedOffers order locations overrides settings, []⟩ settled)

include settles

theorem onHand_of_settles {request : Request} (member : request ∈ order.requests) :
    settled.packages.map (Package.units request.variant.id .onHand) =
      (List.range (visited settings locations).length).map
        (Allotment.share request.quantity.count ((visited settings locations).map
          (stock order overrides settings request.variant.id))) := by
  rw [(settles.onHand_and_backordered member).1, visitedOffers_onHand _ _ _ _ member,
    Allotment.parts_capped _ _ (Nat.le_refl _), Allotment.parts_eq_share, List.length_map]

theorem backordered_of_settles {request : Request} (member : request ∈ order.requests) :
    settled.packages.map (Package.units request.variant.id .backordered) =
      (List.range (visited settings locations).length).map fun k =>
        if (visited settings locations).findIdx?
            (promises order overrides settings request.variant.id) = some k then
          remainder order overrides settings (visited settings locations) request
        else 0 := by
  rw [(settles.onHand_and_backordered member).2, need_after_onHand _ _ _ _ member,
    visitedOffers_backordered _ _ _ _ member]
  exact Allotment.parts_of_all_or_nothing _ _ _ _ fun location inside _ =>
    remainder_le order locations overrides settings inside

theorem shortfalls_of_settles : settled.shortfalls.map Shortfall.amount =
    openAmounts order.requests (visitedOffers order locations overrides settings) :=
  settles.shortfalls

theorem amounts_of_settles {request : Request} (member : request ∈ order.requests) :
    (settled.shortfalls.filter fun shortfall => shortfall.variant = request.variant.id).map
        Shortfall.amount =
      if 0 < remainder order overrides settings (visited settings locations) request ∧
          (visited settings locations).any
            (promises order overrides settings request.variant.id) = false then
        [(request.variant.id, remainder order overrides settings (visited settings locations) request)]
      else [] := by
  have selected := openAmounts_filter order.variants_nodup member
    (visitedOffers order locations overrides settings)
  rw [← shortfalls_of_settles settles, List.filter_map] at selected
  refine selected.trans ?_
  rw [openAmounts, List.map_singleton, open_after_offers _ _ _ _ member]
  cases (visited settings locations).any (promises order overrides settings request.variant.id) with
  | true => simp
  | false => simp [List.filter_cons]

section Absent

variable {variant : VariantId} (absent : variant ∉ order.variants)

include absent

theorem units_of_settles :
    ∀ package ∈ settled.packages, ∀ state, package.units variant state = 0 := by
  have same := settles.others variant fun request member named =>
    absent (Request.mem_variants.mpr ⟨request, member, named⟩)
  intro package member state
  have listed : package.units variant state ∈ Package.offers variant settled.packages :=
    Package.mem_offers.mpr ⟨package, member, state, rfl⟩
  rw [same] at listed
  obtain ⟨offer, inside, state, units⟩ := Package.mem_offers.mp listed
  obtain ⟨location, _, rfl⟩ := List.mem_map.mp inside
  rw [← units]
  exact Package.units_offer_of_not_mem _ _ _ _ absent state

theorem unreported_of_settles :
    ∀ shortfall ∈ settled.shortfalls, shortfall.variant ≠ variant := by
  intro shortfall member same
  have listed : shortfall.amount ∈ settled.shortfalls.map Shortfall.amount :=
    List.mem_map.mpr ⟨shortfall, member, rfl⟩
  rw [shortfalls_of_settles settles] at listed
  obtain ⟨request, inside, named⟩ := mem_openAmounts listed
  exact absent (Request.mem_variants.mpr ⟨request, inside, named.trans same⟩)

end Absent

theorem places_of_settles :
    settled.packages.map Package.location = visited settings locations := by
  have same := map_eq_of_forall₂ (fun _ _ same => same.location) settles.items
  rw [same, visitedOffers, List.map_map]
  refine (List.map_congr_left fun location _ => ?_).trans (List.map_id _)
  rw [Function.comp_apply, Package.offer_eq, id]

theorem source_of_settles :
    ∀ package ∈ settled.packages, package.order = order ∧ package.rates = [] := by
  have offered : ∀ package ∈ visitedOffers order locations overrides settings,
      package.order = order ∧ package.rates = [] := by
    intro package member
    obtain ⟨location, _, rfl⟩ := List.mem_map.mp member
    rw [Package.offer_eq]
    exact ⟨rfl, rfl⟩
  refine forall_of_forall₂ ?_ settles.items offered
  intro before after same source
  exact ⟨same.order.trans source.1, same.rates.trans source.2⟩

end Settled

theorem units_removeEmpty (packages : List Package) (variant : VariantId) (state : SupplyState) :
    (packages.map Package.removeEmpty).map (Package.units variant state) =
      packages.map (Package.units variant state) := by
  rw [List.map_map]
  apply List.map_congr_left
  intro package _
  exact package.units_removeEmpty variant state

theorem map_units_prices {settings : Settings} {packages priced : List Package}
    (prices : List.Forall₂ (Prices settings) packages priced) (variant : VariantId)
    (state : SupplyState) : priced.map (Package.units variant state) =
      packages.map (Package.units variant state) := by
  apply map_eq_of_forall₂ _ prices
  rintro package result ⟨rates, _, rfl⟩
  rfl

theorem packages_of_prices {settings : Settings} {packages priced : List Package}
    (bare : ∀ package ∈ packages, package.rates = [])
    (prices : List.Forall₂ (Prices settings) (prune packages) priced) :
    (priced.map fun package => package.setRates []) =
      (packages.map Package.removeEmpty).filter fun part => !part.contents.isEmpty := by
  calc (priced.map fun package => package.setRates [])
      = (prune packages).map fun package => package.setRates [] := by
        apply map_eq_of_forall₂ _ prices
        rintro package result ⟨rates, _, rfl⟩
        rfl
    _ = (prune packages).map id := by
        apply List.map_congr_left
        intro package member
        obtain ⟨before, inside, rfl⟩ := List.mem_map.mp (List.mem_of_mem_filter member)
        have none : before.removeEmpty.rates = [] := bare before inside
        rw [Package.setRates, ← none]
        rfl
    _ = prune packages := List.map_id _
    _ = (packages.map Package.removeEmpty).filter fun part => !part.contents.isEmpty := by
        apply List.filter_congr
        intro part member
        obtain ⟨before, _, rfl⟩ := List.mem_map.mp member
        rw [Package.isEmpty_eq_of_positive before.positive_removeEmpty]

/-- A division of an order over the sites that are visited. `parts` has one package for each site,
which holds nothing where the site sends nothing. -/
structure Divided (order : Order) (locations : List StockLocation)
    (overrides : Option StockOverrides) (settings : Settings) (sites : List StockLocation)
    (parts : List Package) (allocation : Allocation) : Prop where
  visits : Visits settings locations sites
  places : parts.map Package.location = sites
  orders : ∀ part ∈ parts, part.order = order
  positive : ∀ part ∈ parts, ∀ content ∈ part.contents, 0 < content.quantity.count
  packages : (allocation.packages.map fun package => package.setRates []) =
    parts.filter fun part => !part.contents.isEmpty
  onHand : ∀ request ∈ order.requests,
    parts.map (Package.units request.variant.id .onHand) = (List.range parts.length).map
      (Allotment.share request.quantity.count
        (sites.map (stock order overrides settings request.variant.id)))
  backordered : ∀ request ∈ order.requests,
    parts.map (Package.units request.variant.id .backordered) =
      (List.range parts.length).map fun k =>
        if sites.findIdx? (promises order overrides settings request.variant.id) = some k then
          remainder order overrides settings sites request
        else 0
  shortfalls : ∀ request ∈ order.requests,
    (allocation.shortfalls.filter fun shortfall => shortfall.variant = request.variant.id).map
        Shortfall.amount =
      if 0 < remainder order overrides settings sites request ∧
          sites.any (promises order overrides settings request.variant.id) = false then
        [(request.variant.id, remainder order overrides settings sites request)]
      else []
  nothingElse : ∀ variant ∉ order.variants,
    (∀ part ∈ parts, ∀ state, part.units variant state = 0) ∧
      ∀ shortfall ∈ allocation.shortfalls, shortfall.variant ≠ variant

theorem Divided.length_eq {order : Order} {locations sites : List StockLocation}
    {overrides : Option StockOverrides} {settings : Settings} {parts : List Package}
    {allocation : Allocation}
    (divided : Divided order locations overrides settings sites parts allocation) :
    parts.length = sites.length := by
  rw [← divided.places, List.length_map]

/-- Whenever an order is allocated, the visited sites give what they have on hand in their order
until each request is met, the first one that may promise the variant promises all that remains,
and it is reported if there is none. -/
theorem allocate_divided (order : Order) (locations : List StockLocation)
    (overrides : Option StockOverrides) (settings : Settings) {allocation : Allocation}
    (ok : allocate order locations overrides settings = .ok allocation) :
    ∃ sites parts, Divided order locations overrides settings sites parts allocation := by
  obtain ⟨settled, settles, prices, shortfalls⟩ := allocate_ok _ _ _ _ ok
  have places := places_of_settles settles
  have source := source_of_settles settles
  have size : (settled.packages.map Package.removeEmpty).length =
      (visited settings locations).length := by
    rw [← places, List.length_map, List.length_map]
  refine ⟨visited settings locations, settled.packages.map Package.removeEmpty,
    visits_visited settings locations, ?_, ?_, ?_, ?_, ?_, ?_, ?_, ?_⟩
  · rw [List.map_map]
    exact places
  · intro part member
    obtain ⟨package, inside, rfl⟩ := List.mem_map.mp member
    exact (source package inside).1
  · intro part member
    obtain ⟨package, _, rfl⟩ := List.mem_map.mp member
    exact package.positive_removeEmpty
  · exact packages_of_prices (fun package inside => (source package inside).2) prices
  · intro request member
    rw [units_removeEmpty, size]
    exact onHand_of_settles settles member
  · intro request member
    rw [units_removeEmpty, size]
    exact backordered_of_settles settles member
  · intro request member
    rw [shortfalls]
    exact amounts_of_settles settles member
  · intro variant absent
    constructor
    · intro part member state
      obtain ⟨package, inside, rfl⟩ := List.mem_map.mp member
      rw [package.units_removeEmpty]
      exact units_of_settles settles absent package inside state
    · rw [shortfalls]
      exact unreported_of_settles settles absent

def tenLamps : Order := .ofLines [.counted lamp 4, .counted lamp 6]

def threeEach : StockOverrides := ⟨[⟨0, lamp.id, some 3, none⟩]⟩

/-- Four locations with a record for lamps, of which the second is closed and the last two
may promise more than they have. -/
def fourSheds : List StockLocation :=
  [⟨4, "barn", true, [⟨lamp.id, 8, false⟩]⟩,
    ⟨3, "attic", false, [⟨lamp.id, 9, true⟩]⟩,
    ⟨2, "cellar", true, [⟨lamp.id, -5, true⟩]⟩,
    ⟨1, "loft", true, [⟨lamp.id, 0, true⟩]⟩]

def inGivenOrder : Settings := { Settings.default with visitingOrder := .asGiven }

/-- An override that leaves the counts and promises nothing. -/
def nothingPromised : StockOverrides := ⟨[⟨0, lamp.id, none, some false⟩]⟩

def byIdentifier : Settings := { Settings.default with visitingOrder := .byId }

theorem visits_byIdentifier :
    Visits byIdentifier fourSheds (fourSheds.filter fun location => location.active).reverse where
  permuted := List.reverse_perm _
  asGiven := nofun
  ascending _ := by decide
  ties _ id := by
    by_cases loft : id = 1
    · subst loft
      rfl
    by_cases cellar : id = 2
    · subst cellar
      rfl
    by_cases barn : id = 4
    · subst barn
      rfl
    simp [fourSheds, Ne.symm loft, Ne.symm cellar, Ne.symm barn]

theorem fourSheds_divided :
    (∃ allocation sites parts,
      allocate tenLamps fourSheds (some threeEach) inGivenOrder = .ok allocation ∧
      Divided tenLamps fourSheds (some threeEach) inGivenOrder sites parts allocation ∧
      sites.map StockLocation.name = ["barn", "cellar", "loft"] ∧
      parts.map (Package.units lamp.id .onHand) = [3, 3, 3] ∧
      parts.map (Package.units lamp.id .backordered) = [0, 1, 0] ∧
      (allocation.shortfalls.filter fun shortfall => shortfall.variant = lamp.id) = []) ∧
    ∃ allocation sites parts,
      allocate tenLamps fourSheds (some nothingPromised) byIdentifier = .ok allocation ∧
      Divided tenLamps fourSheds (some nothingPromised) byIdentifier sites parts allocation ∧
      sites.map StockLocation.name = ["loft", "cellar", "barn"] ∧
      parts.map (Package.units lamp.id .onHand) = [0, 0, 8] ∧
      parts.map (Package.units lamp.id .backordered) = [0, 0, 0] ∧
      (allocation.shortfalls.filter fun shortfall => shortfall.variant = lamp.id).map
        Shortfall.amount = [(lamp.id, 2)] := by
  have wanted : (⟨lamp, 10⟩ : Request) ∈ tenLamps.requests := by decide
  constructor
  · obtain ⟨allocation, allocated⟩ : ∃ allocation,
        allocate tenLamps fourSheds (some threeEach) inGivenOrder = .ok allocation := ⟨_, rfl⟩
    obtain ⟨sites, parts, divided⟩ := allocate_divided _ _ _ _ allocated
    obtain rfl := divided.visits.asGiven rfl
    have onHand := divided.onHand _ wanted
    have backordered := divided.backordered _ wanted
    rw [divided.length_eq] at onHand backordered
    exact ⟨allocation, _, parts, allocated, divided, by decide, onHand.trans (by decide),
      backordered.trans (by decide), List.map_eq_nil_iff.mp (divided.shortfalls _ wanted)⟩
  · obtain ⟨allocation, allocated⟩ : ∃ allocation,
        allocate tenLamps fourSheds (some nothingPromised) byIdentifier = .ok allocation := by
      have sorted := (visits_visited byIdentifier fourSheds).unique visits_byIdentifier
      rw [allocate, offers, sorted]
      exact ⟨_, rfl⟩
    obtain ⟨sites, parts, divided⟩ := allocate_divided _ _ _ _ allocated
    obtain rfl := divided.visits.unique visits_byIdentifier
    have onHand := divided.onHand _ wanted
    have backordered := divided.backordered _ wanted
    rw [divided.length_eq] at onHand backordered
    exact ⟨allocation, _, parts, allocated, divided, by decide, onHand.trans (by decide),
      backordered.trans (by decide), (divided.shortfalls _ wanted).trans (by decide)⟩

end Fulfilment.Allocation
