import Fulfilment.Order.Basic

/-! Requests found by their places.

A line is added at the place that is noted for its variant. The noted places are those of
the first requests for the variants, so no place is beyond the requests, and a line is added
as if its request were looked for among them. -/
namespace Fulfilment

namespace Request

/-- Adds a line to the first request for its variant, or as a new request at the end. -/
def addLine (line : LineItem) : List Request → List Request
  | [] => [⟨line.variant, line.quantity⟩]
  | request :: rest =>
    if request.variant.id = line.variant.id then
      { request with quantity := request.quantity + line.quantity } :: rest
    else request :: addLine line rest

/-- Where the first request for a variant stands. -/
def place? (variant : VariantId) (requests : List Request) : Option Nat :=
  requests.findIdx? fun request => request.variant.id = variant

theorem place?_cons (variant : VariantId) (request : Request) (rest : List Request) :
    place? variant (request :: rest) =
      if request.variant.id = variant then some 0 else (place? variant rest).map (· + 1) := by
  by_cases same : request.variant.id = variant <;> simp [place?, List.findIdx?_cons, same]

theorem addLine_eq (line : LineItem) (requests : List Request) :
    addLine line requests =
      match place? line.variant.id requests with
      | some place => requests.modify place fun request =>
          { request with quantity := request.quantity + line.quantity }
      | none => requests ++ [⟨line.variant, line.quantity⟩] := by
  induction requests with
  | nil => rfl
  | cons request rest ih =>
    by_cases same : request.variant.id = line.variant.id
    · rw [addLine, if_pos same, place?_cons, if_pos same]
      rfl
    · rw [addLine, if_neg same, ih, place?_cons, if_neg same]
      cases place? line.variant.id rest <;> rfl

theorem place?_addLine (variant : VariantId) (line : LineItem) (requests : List Request) :
    place? variant (addLine line requests) = (place? variant requests).or
      (if line.variant.id = variant then some requests.length else none) := by
  induction requests with
  | nil => rw [addLine, place?_cons]; rfl
  | cons request rest ih =>
    rw [place?_cons]
    by_cases same : request.variant.id = line.variant.id
    · rw [addLine, if_pos same, place?_cons]
      by_cases named : request.variant.id = variant
      · rw [if_pos named]
        rfl
      · have unnamed : line.variant.id ≠ variant := fun equal => named (same.trans equal)
        rw [if_neg named, if_neg unnamed, Option.or_none]
    · rw [addLine, if_neg same, place?_cons]
      by_cases named : request.variant.id = variant
      · rw [if_pos named, if_pos named]
        rfl
      · rw [if_neg named, if_neg named, ih]
        cases place? variant rest with
        | some place => rfl
        | none => split <;> rfl

end Request

namespace Merging

/-- Every variant has the place of the first request for it. -/
def Placed (merging : Merging) : Prop :=
  ∀ variant, merging.place? variant = Request.place? variant merging.requests

theorem requests_addLine {merging : Merging} (placed : merging.Placed) (line : LineItem) :
    (merging.addLine line).requests = Request.addLine line merging.requests := by
  rw [Request.addLine_eq, addLine, placed]
  cases Request.place? line.variant.id merging.requests <;> rfl

theorem place?_addLine (merging : Merging) (line : LineItem) (variant : VariantId) :
    (merging.addLine line).place? variant = (merging.place? variant).or
      (if line.variant.id = variant then some merging.requests.length else none) := by
  unfold addLine
  by_cases named : line.variant.id = variant
  · rw [named, if_pos rfl]
    cases found : merging.place? variant with
    | some place => exact found
    | none =>
      have noted := Keyed.find?_put_self Prod.fst (variant, merging.requests.length) merging.places
      simp only [place?, noted]
      rfl
  · rw [if_neg named, Option.or_none]
    cases merging.place? line.variant.id with
    | some place => rfl
    | none =>
      have kept := Keyed.find?_put_of_ne Prod.fst (line.variant.id, merging.requests.length)
        variant named merging.places
      simp only [place?, kept]

theorem addLine_placed {merging : Merging} (placed : merging.Placed) (line : LineItem) :
    (merging.addLine line).Placed := by
  intro variant
  rw [place?_addLine, requests_addLine placed, Request.place?_addLine, placed]

theorem foldl_addLine_placed {merging : Merging} (placed : merging.Placed)
    (lines : List LineItem) : (lines.foldl addLine merging).Placed ∧
      (lines.foldl addLine merging).requests =
        lines.foldl (fun requests line => Request.addLine line requests) merging.requests := by
  induction lines generalizing merging with
  | nil => exact ⟨placed, rfl⟩
  | cons line rest ih =>
    rw [List.foldl_cons, List.foldl_cons, ← requests_addLine placed]
    exact ih (addLine_placed placed line)

theorem ofLines_placed (lines : List LineItem) : (ofLines lines).Placed :=
  (foldl_addLine_placed (fun _ => rfl) lines).1

theorem requests_ofLines (lines : List LineItem) : (ofLines lines).requests =
    lines.foldl (fun requests line => Request.addLine line requests) [] :=
  (foldl_addLine_placed (fun _ => rfl) lines).2

end Merging
end Fulfilment
