import Fulfilment.Json.Encode
import Fulfilment.Json.Layout
import Fulfilment.Proofs.Decimal.Text
import Fulfilment.Proofs.Identifier
import Fulfilment.Proofs.Keyed
import Fulfilment.Proofs.Outcome
import Mathlib.Data.List.Forall2

/-! Records that are read from the fields they were written with.

An object holds each field once, whatever the order of the names. A layout that lists the same
fields finds the value of every one of them and nothing that it does not know. -/
namespace Fulfilment

theorem Text.trimChars_of_forall {cs : List Char} (dense : ∀ c ∈ cs, isBlank c = false) :
    trimChars cs = cs := by
  have kept : ∀ ds : List Char, (∀ c ∈ ds, isBlank c = false) → ds.dropWhile isBlank = ds := by
    intro ds plain
    cases ds with
    | nil => rfl
    | cons c rest => rw [List.dropWhile_cons_of_neg (by simp [plain c List.mem_cons_self])]
  rw [trimChars, kept cs dense, kept _ (by simpa using dense), List.reverse_reverse]

theorem capital_kept {c : Char} (above : 'A' ≤ c) (below : c ≤ 'Z') :
    Text.isBlank c = false ∧ isLetter c = true ∧ c.toUpper = c := by
  have low : 65 ≤ c.toNat := UInt32.le_iff_toNat_le.mp above
  have high : c.toNat ≤ 90 := UInt32.le_iff_toNat_le.mp below
  refine ⟨?_, by simp [isLetter, above, below], ?_⟩
  · rw [Bool.eq_false_iff]
    intro blank
    simp only [Text.isBlank, Bool.or_eq_true, Bool.and_eq_true, decide_eq_true_eq,
      beq_iff_eq] at blank
    omega
  · unfold Char.toUpper
    split
    · rename_i small
      have : 97 ≤ c.toNat := UInt32.le_iff_toNat_le.mp small.1
      omega
    · rfl

theorem Currency.parse_code (c : Currency) : parse c.code = .ok c := by
  have kept := fun d member =>
    capital_kept (c.three_capitals.2 d member).1 (c.three_capitals.2 d member).2
  have trimmed : Text.trimChars c.code.toList = c.code.toList :=
    Text.trimChars_of_forall fun d member => (kept d member).1
  have code : IsCode c.code.toList := ⟨c.three_capitals.1, fun d member => (kept d member).2.1⟩
  have upper : c.code.toList.map Char.toUpper = c.code.toList :=
    (List.map_congr_left fun d member => (kept d member).2.2).trans (List.map_id _)
  unfold parse
  simp only [trimmed, upper, dif_pos code, String.ofList_toList]

namespace Json

namespace Value

/-- The members of an object with the given fields. -/
def placed (fields : List (String × Value)) (members : List (String × Value)) :
    List (String × Value) :=
  fields.foldl (fun placed member => insertMember member.1 member.2 placed) members

theorem ofMembers_eq (fields : List (String × Value)) : ofMembers fields = .object (placed fields []) :=
  rfl

theorem lookup_insertMember (name key : String) (value : Value) (members : List (String × Value)) :
    (insertMember name value members).lookup key =
      if key = name then some value else members.lookup key := by
  induction members with
  | nil =>
    rw [insertMember, Keyed.lookup_cons]
  | cons member rest ih =>
    rw [insertMember]
    split
    · rw [Keyed.lookup_cons]
    split
    · rename_i same
      rw [Keyed.lookup_cons, Keyed.lookup_cons, same]
      split <;> rfl
    · rename_i other
      rw [Keyed.lookup_cons, ih, Keyed.lookup_cons]
      split
      · rename_i here
        rw [if_neg fun named => other (named.symm.trans here)]
      · rfl

theorem mem_insertMember {name : String} {value : Value} {members : List (String × Value)}
    {member : String × Value} (inside : member ∈ insertMember name value members) :
    member = (name, value) ∨ member ∈ members := by
  induction members with
  | nil => exact .inl (List.mem_singleton.mp inside)
  | cons first rest ih =>
    rw [insertMember] at inside
    split at inside
    · exact List.mem_cons.mp inside
    split at inside
    · rcases List.mem_cons.mp inside with new | old
      · exact .inl new
      · exact .inr (List.mem_cons_of_mem _ old)
    · rcases List.mem_cons.mp inside with rfl | later
      · exact .inr List.mem_cons_self
      · exact (ih later).imp_right (List.mem_cons_of_mem _)

theorem lookup_placed_of_not_mem {fields members : List (String × Value)} {key : String}
    (absent : key ∉ fields.map Prod.fst) : (placed fields members).lookup key = members.lookup key := by
  induction fields generalizing members with
  | nil => rfl
  | cons field rest ih =>
    rw [List.map_cons, List.mem_cons, not_or] at absent
    rw [placed, List.foldl_cons, ← placed, ih absent.2, lookup_insertMember, if_neg absent.1]

theorem lookup_placed {fields members : List (String × Value)} (distinct : (fields.map Prod.fst).Nodup)
    {field : String × Value} (member : field ∈ fields) :
    (placed fields members).lookup field.1 = some field.2 := by
  induction fields generalizing members with
  | nil => contradiction
  | cons first rest ih =>
    obtain ⟨fresh, others⟩ := List.nodup_cons.mp distinct
    rw [placed, List.foldl_cons, ← placed]
    rcases List.mem_cons.mp member with rfl | later
    · rw [lookup_placed_of_not_mem fresh, lookup_insertMember, if_pos rfl]
    · exact ih others later

theorem mem_placed {fields members : List (String × Value)} {member : String × Value}
    (inside : member ∈ placed fields members) : member ∈ fields ∨ member ∈ members := by
  induction fields generalizing members with
  | nil => exact .inr inside
  | cons first rest ih =>
    rw [placed, List.foldl_cons, ← placed] at inside
    rcases ih inside with later | before
    · exact .inl (List.mem_cons_of_mem _ later)
    · rcases mem_insertMember before with rfl | old
      · exact .inl List.mem_cons_self
      · exact .inr old

/-- Members of the same names with values that are related one by one. -/
def Matched (R : Value → Value → Prop) : List (String × Value) → List (String × Value) → Prop :=
  List.Forall₂ fun member other => member.1 = other.1 ∧ R member.2 other.2

section Matched

variable {R : Value → Value → Prop} {members others fields kept : List (String × Value)}

theorem matched_insertMember (matched : Matched R members others) (name : String) {value other : Value}
    (related : R value other) :
    Matched R (insertMember name value members) (insertMember name other others) := by
  induction matched with
  | nil => exact .cons ⟨rfl, related⟩ .nil
  | @cons member partner rest partners head tail ih =>
    have matched : Matched R (member :: rest) (partner :: partners) := .cons head tail
    rw [insertMember, insertMember, ← head.1]
    split
    · exact .cons ⟨rfl, related⟩ matched
    split
    · exact .cons ⟨rfl, related⟩ tail
    · exact .cons head ih

theorem matched_placed (given : Matched R fields kept) (matched : Matched R members others) :
    Matched R (placed fields members) (placed kept others) := by
  induction given generalizing members others with
  | nil => exact matched
  | cons head _ ih =>
    rw [placed, placed, List.foldl_cons, List.foldl_cons, ← placed, ← placed, ← head.1]
    exact ih (matched_insertMember matched _ head.2)

end Matched

end Value

namespace Decoder

theorem decimal_toJson (d : Decimal) : decimal d.toJson = .ok d.plainZero := by
  rw [Decimal.toJson, decimal, d.ofText?_text]
  rfl

theorem units_toJson (units : Units) : Decoder.units units.toJson = .ok units := by
  have bound := units.count_le
  rw [Units.toJson, Decoder.units, dif_pos ⟨by omega, by omega⟩]
  rfl

theorem currency_toJson (c : Currency) : currency c.toJson = .ok c := by
  rw [Currency.toJson, currency, c.parse_code]
  rfl

theorem identifier_toJson {kind : IdKind} (id : Identifier kind) :
    Decoder.identifier id.toJson = .ok id := by
  rw [Identifier.toJson, identifier, id.ofText?_text]
  rfl

theorem nullable_ofOption {α : Type} {decode : Decoder α} {encode : α → Value} {kept : α → α}
    (some : ∀ a, encode a ≠ .null) (reads : ∀ a, decode (encode a) = .ok (kept a)) (o : Option α) :
    nullable decode (.ofOption encode o) = .ok (o.map kept) := by
  cases o with
  | none => rfl
  | some a =>
    rw [Value.ofOption, nullable, reads]
    · rfl
    · exact some a

theorem list_ofList {α : Type} {decode : Decoder α} {encode : α → Value} {kept : α → α}
    (reads : ∀ a, decode (encode a) = .ok (kept a)) (items : List α) :
    list decode (.ofList encode items) = .ok (items.map kept) := by
  rw [Value.ofList, list]
  induction items with
  | nil => rfl
  | cons item rest ih =>
    rw [List.map_cons, List.mapM_cons, reads, ok_bind, ih, List.map_cons]
    rfl

end Decoder

/-- The fields that a layout reads a value from. -/
inductive Layout.Writes : {α : Type} → Layout α → List (String × Value) → α → Prop
  | pure {α : Type} (value : α) : Writes (Layout.pure value) [] value
  | field {α : Type} (name : String) {decode : Decoder α} {absent ended : Option α} {encoded : Value}
      {value : α} (reads : decode encoded = .ok value) :
      Writes (Layout.field name decode absent ended) [(name, encoded)] value
  | seq {α β : Type} {first : Layout (α → β)} {second : Layout α} {fields more : List (String × Value)}
      {build : α → β} {value : α} (left : Writes first fields build)
      (right : Writes second more value) : Writes (first.seq second) (fields ++ more) (build value)

namespace Layout.Writes

variable {α : Type} {layout : Layout α} {fields : List (String × Value)} {value : α}

theorem names (writes : layout.Writes fields value) : layout.names = fields.map Prod.fst := by
  induction writes with
  | pure => rfl
  | field => rfl
  | seq _ _ left right => rw [Layout.seq, left, right, List.map_append]

theorem visit (writes : layout.Writes fields value) {key : String} {encoded : Value}
    (agrees : ∀ field ∈ fields, field.1 = key → field.2 = encoded) :
    layout.visit key encoded = .ok () := by
  induction writes with
  | pure => rfl
  | field name reads =>
    rw [Layout.field]
    dsimp only
    split
    · rename_i here
      obtain rfl := agrees _ (List.mem_singleton_self _) here.symm
      rw [reads]
      rfl
    · rfl
  | seq _ _ left right =>
    have first := left fun field member => agrees field (List.mem_append_left _ member)
    have second := right fun field member => agrees field (List.mem_append_right _ member)
    rw [Layout.seq]
    dsimp only
    rw [first]
    exact second

theorem ofMembers (writes : layout.Writes fields value) {members : List (String × Value)}
    (found : ∀ field ∈ fields, members.lookup field.1 = some field.2) :
    layout.ofMembers members = .ok value := by
  induction writes with
  | pure => rfl
  | field name reads =>
    rw [Layout.field]
    dsimp only
    rw [found _ (List.mem_singleton_self _)]
    exact reads
  | seq _ _ left right =>
    have first := left fun field member => found field (List.mem_append_left _ member)
    have second := right fun field member => found field (List.mem_append_right _ member)
    rw [Layout.seq]
    dsimp only
    rw [first, second]
    rfl

/-- What was written as an object is read back, also where no other member is allowed. -/
theorem decode (writes : layout.Writes fields value) (distinct : (fields.map Prod.fst).Nodup)
    (title : String) (strict : Bool) : layout.decode title strict (.ofMembers fields) = .ok value := by
  have found : ∀ field ∈ fields, (Value.placed fields []).lookup field.1 = some field.2 :=
    fun field member => Value.lookup_placed distinct member
  have passes : ∀ member ∈ Value.placed fields [], (if member.1 ∈ layout.names then
      layout.visit member.1 member.2 else if strict then .error (.unknownField member.1 layout.names)
      else .ok ()) = .ok () := by
    intro member inside
    have listed : member ∈ fields := (Value.mem_placed inside).resolve_right List.not_mem_nil
    rw [if_pos (writes.names ▸ List.mem_map_of_mem listed)]
    -- Names are distinct, so whatever member has the name of a field is that field.
    apply writes.visit
    intro field other same
    exact Option.some.inj ((found field other).symm.trans (same ▸ found member listed))
  rw [Value.ofMembers_eq, Layout.decode, ofObject, forM_eq_ok.mpr passes]
  exact writes.ofMembers found

end Layout.Writes

end Json
end Fulfilment
