import Fulfilment.Proofs.Allocation.Division
import Fulfilment.Proofs.Allocation.Surroundings
import Fulfilment.Proofs.Package.Failure

/-! When allocating an order fails, and with which error.

Only the packages that reconciling leaves are priced, with what they are left with. What
locations offered at first, and the packages that end up with nothing, fail no allocation. -/
namespace Fulfilment
open Allocation Reconciliation

namespace Allocation

section Survivors

variable (order : Order) (locations : List StockLocation) (overrides : Option StockOverrides)
  (settings : Settings)

/-- The packages that reconciling leaves of the offers, before they are priced. -/
def survivors : List Package :=
  (ofPackages order.requests (offers order locations overrides settings)).packages

theorem priceAll_error {packages : List Package} {error : CalculatorError} :
    priceAll settings packages = .error error ↔ FirstFailure (fun package failure =>
      package.quote settings.checkout settings.applyTags = .error failure) packages error := by
  induction packages with
  | nil => simp [priceAll, FirstFailure.not_nil]
  | cons package rest ih =>
    rw [FirstFailure.cons_iff, priceAll, bind_eq_error, ← ih]
    apply or_congr_right
    cases package.quote settings.checkout settings.applyTags with
    | error failure => simp
    | ok rates => simp [bind_eq_error, pure, Except.pure]

theorem allocate_error (error : CalculatorError) :
    allocate order locations overrides settings = .error error ↔ FirstFailure
      (fun package failure => package.quote settings.checkout settings.applyTags = .error failure)
      (survivors order locations overrides settings) error := by
  rw [allocate, bind_eq_error, survivors, priceAll_error]
  simp [pure, Except.pure]

theorem survivors_visited : ∃ sites, Visits settings locations sites ∧
    ((survivors order locations overrides settings).map Package.location).Sublist sites := by
  obtain ⟨settled, settles, result⟩ := exists_settlement order locations overrides settings
  have kept : (survivors order locations overrides settings).map Package.location =
      (settled.packages.filter fun package => !package.isEmpty).map Package.location := by
    rw [survivors, result, prune_eq, List.map_map]
    rfl
  refine ⟨visited settings locations, visits_visited settings locations, ?_⟩
  rw [kept, ← places_of_settles settles]
  exact List.filter_sublist.map Package.location

theorem survivors_hold {package : Package}
    (member : package ∈ survivors order locations overrides settings) :
    package.order = order ∧ package.contents ≠ [] ∧
      ∀ content ∈ package.contents, 0 < content.quantity.count := by
  obtain ⟨settled, settles, result⟩ := exists_settlement order locations overrides settings
  rw [survivors, result] at member
  obtain ⟨inside, holding⟩ := List.mem_filter.mp member
  obtain ⟨before, listed, rfl⟩ := List.mem_map.mp inside
  have positive := before.positive_removeEmpty
  refine ⟨(source_of_settles settles before listed).1, ?_, positive⟩
  intro bare
  rw [Package.isEmpty_eq_of_positive positive, bare] at holding
  contradiction

theorem survivors_withMethods (others : List ShippingMethod) :
    survivors (order.withMethods others) locations overrides settings =
      (survivors order locations overrides settings).map (·.withMethods others) := by
  have surrounds : Package.Surrounds (·.withMethods others) := ⟨fun _ => rfl, fun _ _ => rfl⟩
  have offered : offers (order.withMethods others) locations overrides settings =
      (offers order locations overrides settings).map (·.withMethods others) := by
    apply offers_changed
    · rfl
    · intro location used
      rw [Package.offer_eq, Package.offer_eq]
      rfl
  rw [survivors, offered]
  have changed := surrounds.ofPackages order.requests (offers order locations overrides settings)
  exact congrArg Reconciliation.packages changed

theorem allocate_withMethods {others : List ShippingMethod}
    (related : List.Forall₂ (fun method other =>
        ∀ package ∈ survivors order locations overrides settings,
          package.Interchangeable settings.applyTags method other)
      order.distributor.methods others) (error : CalculatorError) :
    allocate (order.withMethods others) locations overrides settings = .error error ↔
      allocate order locations overrides settings = .error error := by
  rw [allocate_error, allocate_error, survivors_withMethods]
  apply FirstFailure.iff_of_forall₂
  rw [List.forall₂_map_right_iff, List.forall₂_same]
  intro package member failure
  have placed := (survivors_hold order locations overrides settings member).1
  rw [Package.quote_error, Package.quote_error]
  apply Package.fails_withMethods
  rw [placed]
  exact related.imp fun _ _ same => same package member

end Survivors

/-- Pricing a package fails with the first refusal of a candidate or, without one, the first
failure of a cost, and functions that this does not use may be any. An allocation fails with the
first failure among the packages that reconciling leaves, which stand in the order of the
visited sites, and does not depend on what calculators would say of other packages. -/
theorem pricing_fails_first :
    (∀ (package : Package) (checkout applyTags : Bool) (error : CalculatorError),
      package.quote checkout applyTags = .error error ↔ package.Fails applyTags error) ∧
    (∀ (package : Package) (checkout applyTags : Bool) (others : List ShippingMethod),
      List.Forall₂ (fun method other => package.Interchangeable applyTags method other ∧
          (package.Eligible applyTags method → other = method))
        package.order.distributor.methods others →
      (package.withMethods others).quote checkout applyTags = package.quote checkout applyTags) ∧
    ∀ (order : Order) (locations : List StockLocation) (overrides : Option StockOverrides)
      (settings : Settings),
      (∀ error, allocate order locations overrides settings = .error error ↔ FirstFailure
        (fun package failure => package.quote settings.checkout settings.applyTags = .error failure)
        (survivors order locations overrides settings) error) ∧
      (∃ sites, Visits settings locations sites ∧
        ((survivors order locations overrides settings).map Package.location).Sublist sites) ∧
      (∀ package ∈ survivors order locations overrides settings,
        package.contents ≠ [] ∧ ∀ content ∈ package.contents, 0 < content.quantity.count) ∧
      ∀ others : List ShippingMethod,
        List.Forall₂ (fun method other =>
            ∀ package ∈ survivors order locations overrides settings,
              package.Interchangeable settings.applyTags method other)
          order.distributor.methods others →
        ∀ error, allocate (order.withMethods others) locations overrides settings = .error error ↔
          allocate order locations overrides settings = .error error := by
  refine ⟨Package.quote_error, ?_, ?_⟩
  · intro package checkout applyTags others related
    exact Package.quote_withMethods related checkout
  · intro order locations overrides settings
    refine ⟨allocate_error _ _ _ _, survivors_visited _ _ _ _, ?_, ?_⟩
    · intro package member
      exact (survivors_hold _ _ _ _ member).2
    · intro others related
      exact allocate_withMethods _ _ _ _ related

def courier (id : ShippingMethodId) (categories : List ShippingCategoryId)
    (available : Except CalculatorError Bool)
    (compute : Except CalculatorError (Option Decimal)) : ShippingMethod :=
  ⟨id, "courier", .both, false, [], categories, [],
    ⟨"courier", .null, none, fun _ => available, fun _ => compute⟩⟩

def noPrice : CalculatorError := .computeFailed "courier" (.other "no price")

def noAnswer : CalculatorError := .computeFailed "courier" (.other "no answer")

/-- A method without a cost, one that does not say whether it is available, and one that
carries nothing. -/
def threeCouriers (available : Except CalculatorError Bool)
    (compute : Except CalculatorError (Option Decimal)) : List ShippingMethod :=
  [courier 1 [lamp.category] (.ok true) (.error noPrice),
    courier 2 [lamp.category] (.error noAnswer) (.ok none),
    courier 3 [] available compute]

theorem threeCouriers_fail_first :
    allocate (tenLamps.withMethods (threeCouriers (.error noPrice) (.error noPrice))) fourSheds
      (some threeEach) inGivenOrder = .error noAnswer := by
  have law := pricing_fails_first.2.2 (tenLamps.withMethods (threeCouriers (.ok true) (.ok none)))
    fourSheds (some threeEach) inGivenOrder
  obtain ⟨_, _, holding, replaced⟩ := law
  refine (replaced (threeCouriers (.error noPrice) (.error noPrice)) ?_ noAnswer).mpr rfl
  refine .cons (fun package _ => ⟨rfl, fun _ => rfl, fun _ => rfl⟩)
    (.cons (fun package _ => ⟨rfl, fun _ => rfl, fun _ => rfl⟩) (.cons ?_ .nil))
  intro package member
  have unable : ¬ package.Candidate inGivenOrder.applyTags
      (courier 3 [] (.ok true) (.ok none)) := by
    intro candidate
    obtain ⟨content, inside⟩ := List.exists_mem_of_ne_nil _ (holding package member).1
    exact List.not_mem_nil (candidate.carries content inside)
  exact ⟨rfl, fun candidate => absurd candidate unable,
    fun eligible => absurd eligible.toCandidate unable⟩

end Allocation
end Fulfilment
