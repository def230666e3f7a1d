import Fulfilment.Proofs.Json.Record

/-! Records that are accepted.

A strict layout reads an object exactly where it holds the fields that are required, each with a
value that can be read, and no other member. -/
namespace Fulfilment.Json

theorem Decoder.nullable_admits {α : Type} {decode : Decoder α} {good : α → Prop} {value : Value} :
    (∃ o, nullable decode value = .ok o ∧ ∀ a, o = some a → good a) ↔
      value = .null ∨ ∃ a, decode value = .ok a ∧ good a := by
  by_cases null : value = .null
  · subst null
    simp [nullable]
  · rw [nullable]
    · cases decode value <;> simp [Except.map, null]
    · exact null

/-- What a record takes as a field. -/
structure Rule where
  name : String
  required : Bool
  admits : Value → Prop

/-- An object that holds every required field and no member other than fields, each with a value
that it admits. -/
structure Valid (rules : List Rule) (members : List (String × Value)) : Prop where
  known : ∀ member ∈ members, ∃ rule ∈ rules, rule.name = member.1
  present : ∀ rule ∈ rules, rule.required = true → ∃ value, (rule.name, value) ∈ members
  admitted : ∀ rule ∈ rules, ∀ value, (rule.name, value) ∈ members → rule.admits value

namespace Rule

def Passes (rule : Rule) (members : List (String × Value)) : Prop :=
  match members.lookup rule.name with
  | some value => rule.admits value
  | none => rule.required = false

end Rule

theorem valid_iff {rules : List Rule} {members : List (String × Value)}
    (distinct : (members.map Prod.fst).Nodup) : Valid rules members ↔
      (∀ member ∈ members, ∃ rule ∈ rules, rule.name = member.1) ∧
      ∀ rule ∈ rules, rule.Passes members := by
  constructor
  · intro valid
    refine ⟨valid.known, ?_⟩
    intro rule listed
    rw [Rule.Passes]
    cases found : members.lookup rule.name with
    | some value =>
      exact valid.admitted rule listed value ((Keyed.lookup_eq_some_iff_mem distinct).mp found)
    | none =>
      rw [← Bool.not_eq_true]
      intro required
      obtain ⟨value, inside⟩ := valid.present rule listed required
      rw [(Keyed.lookup_eq_some_iff_mem distinct).mpr inside] at found
      contradiction
  · intro both
    obtain ⟨known, passes⟩ := both
    refine ⟨known, ?_, ?_⟩
    · intro rule listed required
      have passed := passes rule listed
      rw [Rule.Passes] at passed
      cases found : members.lookup rule.name with
      | some value => exact ⟨value, (Keyed.lookup_eq_some_iff_mem distinct).mp found⟩
      | none =>
        rw [found] at passed
        cases required.symm.trans passed
    · intro rule listed value inside
      have passed := passes rule listed
      rw [Rule.Passes, (Keyed.lookup_eq_some_iff_mem distinct).mpr inside] at passed
      exact passed

namespace Layout

variable {α β : Type} {members : List (String × Value)}

theorem ofMembers_seq {first : Layout (α → β)} {second : Layout α} {result : β} :
    (first <*> second).ofMembers members = .ok result ↔
      ∃ build, first.ofMembers members = .ok build ∧
        ∃ value, second.ofMembers members = .ok value ∧ build value = result := by
  change (Layout.seq first second).ofMembers members = .ok result ↔ _
  simp only [Layout.seq, bind_eq_ok, pure, Except.pure, Except.ok.injEq]

theorem ofMembers_map {build : α → β} {layout : Layout α} {result : β} :
    (build <$> layout).ofMembers members = .ok result ↔
      ∃ value, layout.ofMembers members = .ok value ∧ build value = result := by
  change (Layout.seq (Layout.pure build) layout).ofMembers members = .ok result ↔ _
  simp only [Layout.seq, Layout.pure, bind_eq_ok, pure, Except.pure, Except.ok.injEq,
    exists_eq_left']

/-- The fields of a layout, which can be read from whatever their rules admit. -/
inductive Lists : {α : Type} → Layout α → List Rule → Prop
  | pure {α : Type} (value : α) : Lists (Layout.pure value) []
  | field {α : Type} {name : String} {decode : Decoder α} {absent ended : Option α} {required : Bool}
      {admits : Value → Prop} (reads : ∀ value, admits value → ∃ a, decode value = .ok a) :
      Lists (Layout.field name decode absent ended) [⟨name, required, admits⟩]
  | seq {α β : Type} {first : Layout (α → β)} {second : Layout α} {rules more : List Rule}
      (left : Lists first rules) (right : Lists second more) :
      Lists (first.seq second) (rules ++ more)

namespace Lists

variable {layout : Layout α} {rules : List Rule} (lists : layout.Lists rules)

include lists

theorem names : layout.names = rules.map Rule.name := by
  induction lists with
  | pure => rfl
  | field => rfl
  | seq _ _ left right => rw [Layout.seq, left, right, List.map_append]

theorem visit {key : String} {value : Value}
    (admitted : ∀ rule ∈ rules, rule.name = key → rule.admits value) :
    layout.visit key value = .ok () := by
  induction lists with
  | pure => rfl
  | field reads =>
    rw [Layout.field]
    dsimp only
    split
    · rename_i here
      obtain ⟨a, decoded⟩ := reads value (admitted _ (List.mem_singleton_self _) here.symm)
      rw [decoded]
      rfl
    · rfl
  | seq _ _ left right =>
    have first := left fun rule member => admitted rule (List.mem_append_left _ member)
    have second := right fun rule member => admitted rule (List.mem_append_right _ member)
    rw [Layout.seq]
    dsimp only
    rw [first]
    exact second

end Lists

/-- A layout that reads a value with a property exactly where all fields pass their rules. -/
structure Guards (layout : Layout α) (rules : List Rule) (good : α → Prop) : Prop where
  lists : layout.Lists rules
  reads : ∀ members, (∃ a, layout.ofMembers members = .ok a ∧ good a) ↔
    ∀ rule ∈ rules, rule.Passes members

theorem Guards.field {name : String} {decode : Decoder α} {absent ended : Option α} {required : Bool}
    {admits : Value → Prop} {good : α → Prop}
    (admitted : ∀ value, admits value ↔ ∃ a, decode value = .ok a ∧ good a)
    (optional : required = false ↔ ∃ a, absent = some a ∧ good a) :
    (Layout.field name decode absent ended).Guards [⟨name, required, admits⟩] good where
  lists := .field fun value admits => ((admitted value).mp admits).imp fun _ => And.left
  reads members := by
    rw [List.forall_mem_singleton, Layout.field, Rule.Passes]
    dsimp only
    cases members.lookup name with
    | some value => exact (admitted value).symm
    | none =>
      rw [optional]
      cases absent <;> simp

theorem Guards.decode_iff {layout : Layout α} {rules : List Rule} {good : α → Prop}
    (guards : layout.Guards rules good) (distinct : (members.map Prod.fst).Nodup) (title : String) :
    (∃ a, layout.decode title true (.object members) = .ok a ∧ good a) ↔ Valid rules members := by
  have listed (key : String) : key ∈ layout.names ↔ ∃ rule ∈ rules, rule.name = key := by
    rw [guards.lists.names, List.mem_map]
  rw [valid_iff distinct, ← guards.reads members]
  simp only [Layout.decode, ofObject, bind_eq_ok]
  constructor
  · intro accepted
    obtain ⟨a, ⟨⟨⟩, visited, read⟩, fine⟩ := accepted
    refine ⟨?_, a, read, fine⟩
    intro member inside
    have passed := forM_eq_ok.mp visited member inside
    by_contra unknown
    rw [if_neg (mt (listed _).mp unknown)] at passed
    contradiction
  · intro both
    obtain ⟨known, a, read, fine⟩ := both
    refine ⟨a, ⟨(), forM_eq_ok.mpr ?_, read⟩, fine⟩
    have valid := (valid_iff distinct).mpr ⟨known, (guards.reads members).mp ⟨a, read, fine⟩⟩
    intro member inside
    rw [if_pos ((listed _).mpr (known member inside))]
    apply guards.lists.visit
    intro rule present named
    exact valid.admitted rule present member.2 (named ▸ inside)

end Layout
end Fulfilment.Json
