import Fulfilment.Package.Reconcile

/-! Reconciling packages looks only at their contents.

What surrounds the contents of packages, such as their orders and their locations, can be
changed before they are reconciled or afterwards, with the same outcome. -/
namespace Fulfilment

/-- A change of packages that neither touches nor reads their contents. -/
structure Package.Surrounds (change : Package → Package) : Prop where
  contents : ∀ package, (change package).contents = package.contents
  apart : ∀ package contents, change { package with contents } = { change package with contents }

namespace Package.Surrounds

variable {change : Package → Package} (surrounds : Surrounds change)

include surrounds

theorem index? (package : Package) (variant : VariantId) (state : SupplyState) :
    (change package).index? variant state = package.index? variant state := by
  rw [Package.index?, surrounds.contents, Package.index?]

theorem item? (package : Package) (index : Nat) :
    (change package).item? index = package.item? index := by
  rw [Package.item?, surrounds.contents, Package.item?]

theorem setQuantity (package : Package) (index : Nat) (quantity : Units) :
    (change package).setQuantity index quantity = change (package.setQuantity index quantity) := by
  rw [Package.setQuantity, surrounds.contents]
  exact (surrounds.apart package _).symm

theorem removeEmpty (package : Package) :
    (change package).removeEmpty = change package.removeEmpty := by
  rw [Package.removeEmpty, surrounds.contents]
  exact (surrounds.apart package _).symm

theorem isEmpty (package : Package) : (change package).isEmpty = package.isEmpty := by
  rw [Package.isEmpty, surrounds.contents, Package.isEmpty]

theorem visit (demand : Demand) (packages : List Package) :
    demand.visit (packages.map change) =
      ((demand.visit packages).1.map change, (demand.visit packages).2) := by
  induction packages generalizing demand with
  | nil => rfl
  | cons package rest ih =>
    rw [List.map_cons, Demand.visit, Demand.visit, surrounds.index?]
    cases package.index? demand.variant demand.state with
    | none => simp only [ih, List.map_cons]
    | some index => simp only [ih, List.map_cons, surrounds.item?, surrounds.setQuantity]

theorem settle (state : Reconciliation) (request : Request) :
    Reconciliation.settle ⟨state.packages.map change, state.shortfalls⟩ request =
      ⟨(state.settle request).packages.map change, (state.settle request).shortfalls⟩ := by
  simp only [Reconciliation.settle, surrounds.visit]

theorem foldl_settle (requests : List Request) (state : Reconciliation) :
    requests.foldl Reconciliation.settle ⟨state.packages.map change, state.shortfalls⟩ =
      ⟨(requests.foldl Reconciliation.settle state).packages.map change,
        (requests.foldl Reconciliation.settle state).shortfalls⟩ := by
  induction requests generalizing state with
  | nil => rfl
  | cons request rest ih => rw [List.foldl_cons, surrounds.settle, ih, List.foldl_cons]

theorem prune (packages : List Package) :
    Reconciliation.prune (packages.map change) = (Reconciliation.prune packages).map change := by
  have removed : (packages.map change).map Package.removeEmpty =
      (packages.map Package.removeEmpty).map change := by
    rw [List.map_map, List.map_map]
    apply List.map_congr_left
    intro package _
    exact surrounds.removeEmpty package
  rw [Reconciliation.prune, removed, List.filter_map, Reconciliation.prune]
  apply congrArg (List.map change)
  apply List.filter_congr
  intro package _
  exact congrArg not (surrounds.isEmpty package)

theorem ofPackages (requests : List Request) (packages : List Package) :
    Reconciliation.ofPackages requests (packages.map change) =
      ⟨(Reconciliation.ofPackages requests packages).packages.map change,
        (Reconciliation.ofPackages requests packages).shortfalls⟩ := by
  have settled := surrounds.foldl_settle requests ⟨packages, []⟩
  rw [Reconciliation.ofPackages, settled, surrounds.prune]
  rfl

end Package.Surrounds
end Fulfilment
