import Fulfilment.Package.Basic

/-! Reconciling the packages of several locations with what an order needs.

Each location offers what it could send on its own, so together they may offer too
much. For each request the packages are visited in order, once for the units on hand
and once for the promised ones, and keep units until the request is met; from then on
they keep none. Packages that end up with nothing are dropped. -/
namespace Fulfilment

/-- What is still needed of a variant, and in which state it is looked for. -/
structure Demand where
  variant : VariantId
  need : Units
  state : SupplyState
deriving DecidableEq

namespace Demand

def start (variant : VariantId) (need : Units) : Demand := ⟨variant, need, .onHand⟩

def turnToBackorders (demand : Demand) : Demand := { demand with state := .backordered }

def isMet (demand : Demand) : Bool := demand.need.count == 0

/-- Takes units from an item that holds the given quantity: what the item keeps, and the
demand that is left. -/
def take (demand : Demand) (held : Units) : Units × Demand :=
  if demand.need.count ≤ held.count then (demand.need, { demand with need := .zero })
  else (held, { demand with need := demand.need - held })

def visit (demand : Demand) : List Package → List Package × Demand
  | [] => ([], demand)
  | package :: rest =>
    match package.index? demand.variant demand.state with
    | none =>
      let (visited, left) := visit demand rest
      (package :: visited, left)
    | some index =>
      let held := (package.item? index).elim .zero Content.quantity
      let (kept, lessened) := demand.take held
      let (visited, left) := visit lessened rest
      (package.setQuantity index kept :: visited, left)

theorem take_kept (demand : Demand) (held : Units) :
    (demand.take held).1.count = min held.count demand.need.count := by
  unfold take
  split <;> simp only <;> omega

theorem take_conserves (demand : Demand) (held : Units) :
    (demand.take held).1.count + (demand.take held).2.need.count = demand.need.count := by
  unfold take
  split <;> simp
  omega

theorem take_seeks (demand : Demand) (held : Units) :
    (demand.take held).2.variant = demand.variant ∧ (demand.take held).2.state = demand.state := by
  unfold take
  split <;> exact ⟨rfl, rfl⟩

end Demand

/-- Units of a variant that no package could cover. -/
structure Shortfall where
  variant : VariantId
  quantity : Units
deriving DecidableEq

namespace Shortfall

def layout : Json.Layout Shortfall :=
  Shortfall.mk <$> .required "variant_id" .identifier <*> .required "quantity" .units

def decode : Json.Decoder Shortfall := layout.decode "struct Unfulfilled" false

def toJson (shortfall : Shortfall) : Json.Value :=
  .ofMembers [("variant_id", shortfall.variant.toJson), ("quantity", shortfall.quantity.toJson)]

end Shortfall

/-- Packages that agree with an order, and what they leave open. -/
structure Reconciliation where
  packages : List Package
  shortfalls : List Shortfall

namespace Reconciliation

/-- Visits the packages for one request, first for units on hand and then for promised
ones, and notes what stays open. -/
def settle (state : Reconciliation) (request : Request) : Reconciliation :=
  let (onHand, left) := (Demand.start request.variant.id request.quantity).visit state.packages
  let (packages, left) := left.turnToBackorders.visit onHand
  ⟨packages, if left.isMet then state.shortfalls
    else state.shortfalls ++ [⟨left.variant, left.need⟩]⟩

def prune (packages : List Package) : List Package :=
  (packages.map Package.removeEmpty).filter fun package => !package.isEmpty

def ofPackages (requests : List Request) (packages : List Package) : Reconciliation :=
  let settled := requests.foldl settle ⟨packages, []⟩
  { settled with packages := prune settled.packages }

end Reconciliation
end Fulfilment
