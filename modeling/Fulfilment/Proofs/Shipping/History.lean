import Fulfilment.Proofs.Keyed
import Fulfilment.Proofs.Outcome
import Fulfilment.Shipping.Registry

/-! What a registry answers after any history of calls.

Every kind keeps the factory that was registered first. A later registration of it fails and leaves
no trace, so that what a history has registered says all that the registry will answer. -/
namespace Fulfilment.Registry

/-- A call of a program that uses a registry. -/
inductive Call
  | register (kind : String) (factory : Calculator.Factory)
  | build (kind : String) (preferences : Json.Value)

/-- An error, or success with the calculator if one was to be built. -/
abbrev Answer := Except CalculatorError (Option Calculator)

structure Event where
  call : Call
  answer : Answer

/-- The registry after a call, and the answer. What fails leaves the registry as it was. -/
def perform (registry : Registry) : Call → Registry × Answer
  | .register kind factory =>
    match registry.register kind factory with
    | .ok extended => (extended, .ok none)
    | .error failure => (registry, .error failure)
  | .build kind preferences => (registry, (registry.build kind preferences).map some)

/-- The registry after calls one after the other, and their history. -/
def run (registry : Registry) : List Call → Registry × List Event
  | [] => (registry, [])
  | call :: rest =>
    let (next, answer) := registry.perform call
    let (last, events) := next.run rest
    (last, ⟨call, answer⟩ :: events)

def Event.granted? : Event → Option (String × Calculator.Factory)
  | ⟨.register kind factory, .ok _⟩ => some (kind, factory)
  | _ => none

/-- The kinds that the marketplace comes with, each with the tariff that builds it. -/
def standard : List (String × Calculator.Factory) :=
  [("flat_rate", FlatRate.tariff.build), ("per_item", PerItem.tariff.build),
    ("flat_percent_item_total", ItemTotalPercent.tariff.build),
    ("flexi_rate", FlexiRate.tariff.build), ("price_sack", PriceSack.tariff.build),
    ("weight", ByWeight.tariff.build)]

/-- What was registered up to the end of a history: the standard kinds, and then each
registration that succeeded. -/
def granted (events : List Event) : List (String × Calculator.Factory) :=
  standard ++ events.filterMap Event.granted?

/-- Whether something was registered under a kind. -/
def Known (events : List Event) (kind : String) : Prop := kind ∈ (granted events).map Prod.fst

/-- The factory that was the first to be registered under a kind. -/
def First (events : List Event) (kind : String) (factory : Calculator.Factory) : Prop :=
  ∃ before after, granted events = before ++ (kind, factory) :: after ∧ kind ∉ before.map Prod.fst

/-- A call that is answered as it should be after a history. -/
inductive Answers (past : List Event) : Event → Prop
  | registered {kind : String} {factory : Calculator.Factory} (fresh : ¬ Known past kind) :
      Answers past ⟨.register kind factory, .ok none⟩
  | duplicate {kind : String} {factory : Calculator.Factory} (known : Known past kind) :
      Answers past ⟨.register kind factory, .error (.duplicateKind kind)⟩
  | built {kind : String} {factory : Calculator.Factory} (preferences : Json.Value)
      (first : First past kind factory) :
      Answers past ⟨.build kind preferences, (factory preferences).map some⟩
  | unknown {kind : String} (preferences : Json.Value) (absent : ¬ Known past kind) :
      Answers past ⟨.build kind preferences, .error (.unknownKind kind)⟩

section Lookup

variable {entries : List (String × Calculator.Factory)} {kind : String}

theorem absent_iff : (∀ entry ∈ entries, (kind != entry.1) = true) ↔ kind ∉ entries.map Prod.fst := by
  constructor
  · intro other member
    obtain ⟨entry, inside, same⟩ := List.mem_map.mp member
    exact bne_iff_ne.mp (other entry inside) same.symm
  · intro absent entry inside
    exact bne_iff_ne.mpr fun same => absent (List.mem_map.mpr ⟨entry, inside, same.symm⟩)

theorem lookup_eq_none_iff : entries.lookup kind = none ↔ kind ∉ entries.map Prod.fst :=
  List.lookup_eq_none_iff.trans absent_iff

theorem lookup_eq_some_iff {factory : Calculator.Factory} : entries.lookup kind = some factory ↔
    ∃ before after, entries = before ++ (kind, factory) :: after ∧ kind ∉ before.map Prod.fst := by
  simp only [List.lookup_eq_some_iff, absent_iff]

theorem put_of_not_mem (fresh : kind ∉ entries.map Prod.fst) (factory : Calculator.Factory) :
    Keyed.put Prod.fst (kind, factory) entries = entries ++ [(kind, factory)] := by
  induction entries with
  | nil => rfl
  | cons entry rest ih =>
    rw [List.map_cons, List.mem_cons, not_or] at fresh
    rw [Keyed.put, if_neg (Ne.symm fresh.1), ih fresh.2, List.cons_append]

end Lookup

/-- A registry that holds what a history has registered, each kind once. -/
structure Tracks (past : List Event) (registry : Registry) : Prop where
  entries : registry.entries = granted past
  distinct : (registry.entries.map Prod.fst).Nodup

namespace Tracks

variable {past : List Event} {registry : Registry} (tracks : Tracks past registry)

include tracks

theorem known_iff (kind : String) : Known past kind ↔ registry.contains kind = true := by
  rw [Known, ← tracks.entries, contains, factory?, Option.isSome_iff_ne_none, Ne,
    lookup_eq_none_iff, not_not]

theorem first_iff (kind : String) (factory : Calculator.Factory) :
    First past kind factory ↔ registry.factory? kind = some factory := by
  rw [First, ← tracks.entries, factory?, lookup_eq_some_iff]

theorem factory?_eq_none_iff (kind : String) :
    registry.factory? kind = none ↔ ¬ Known past kind := by
  rw [tracks.known_iff, contains, Bool.not_eq_true, Option.isSome_eq_false_iff,
    Option.isNone_iff_eq_none]

theorem mem_kinds_iff (kind : String) : kind ∈ registry.kinds ↔ Known past kind := by
  rw [kinds, List.mem_mergeSort, tracks.entries, Known]

theorem kinds_ascending : registry.kinds.Pairwise (· < ·) := by
  have transitive : ∀ a b c : String, decide (a ≤ b) = true → decide (b ≤ c) = true →
      decide (a ≤ c) = true := by
    intro a b c first second
    exact decide_eq_true (String.le_trans (of_decide_eq_true first) (of_decide_eq_true second))
  have total : ∀ a b : String, (decide (a ≤ b) || decide (b ≤ a)) = true := by
    intro a b
    rw [Bool.or_eq_true, decide_eq_true_iff, decide_eq_true_iff]
    exact String.le_total a b
  have sorted : registry.kinds.Pairwise fun a b => decide (a ≤ b) = true :=
    List.pairwise_mergeSort transitive total _
  have distinct : registry.kinds.Nodup :=
    (List.mergeSort_perm (registry.entries.map Prod.fst) _).nodup_iff.mpr tracks.distinct
  refine sorted.imp₂ ?_ distinct
  intro a b below different
  by_contra above
  exact different (String.le_antisymm (of_decide_eq_true below) (String.not_lt.mp above))

end Tracks

theorem tracks_builtIn : Tracks [] builtIn := ⟨rfl, by decide⟩

theorem granted_concat (past : List Event) (event : Event) :
    granted (past ++ [event]) = granted past ++ event.granted?.toList := by
  rw [granted, granted, List.filterMap_append, ← List.append_assoc]
  cases found : event.granted? <;> simp [found]

section Step

variable {past : List Event} {registry : Registry} (tracks : Tracks past registry)

include tracks

theorem Tracks.unchanged {event : Event} (nothing : event.granted? = none) :
    Tracks (past ++ [event]) registry := by
  refine ⟨?_, tracks.distinct⟩
  rw [granted_concat, nothing, Option.toList_none, List.append_nil, tracks.entries]

theorem Tracks.insert {kind : String} (fresh : ¬ Known past kind) (factory : Calculator.Factory) :
    Tracks (past ++ [⟨.register kind factory, .ok none⟩]) (registry.insert kind factory) := by
  rw [Known, ← tracks.entries] at fresh
  have added : (registry.insert kind factory).entries = registry.entries ++ [(kind, factory)] :=
    put_of_not_mem fresh factory
  refine ⟨?_, ?_⟩
  · rw [added, granted_concat, tracks.entries]
    rfl
  · rw [added, List.map_append]
    refine List.nodup_append.mpr ⟨tracks.distinct, List.nodup_singleton _, ?_⟩
    intro other member new single same
    rw [same, List.mem_singleton.mp single] at member
    exact fresh member

/-- What one call does to a registry that holds what its history has registered. -/
theorem perform_tracks (call : Call) :
    Answers past ⟨call, (registry.perform call).2⟩ ∧
      Tracks (past ++ [⟨call, (registry.perform call).2⟩]) (registry.perform call).1 := by
  cases call with
  | register kind factory =>
    by_cases known : registry.contains kind = true
    · have failed : registry.perform (.register kind factory) =
          (registry, .error (.duplicateKind kind)) := by
        simp only [perform, register, if_pos known]
      rw [failed]
      exact ⟨.duplicate ((tracks.known_iff kind).mpr known), tracks.unchanged rfl⟩
    · have added : registry.perform (.register kind factory) =
          (registry.insert kind factory, .ok none) := by
        simp only [perform, register, if_neg known]
      have fresh := mt (tracks.known_iff kind).mp known
      rw [added]
      exact ⟨.registered fresh, tracks.insert fresh factory⟩
  | build kind preferences =>
    refine ⟨?_, tracks.unchanged rfl⟩
    rw [perform, build]
    cases found : registry.factory? kind with
    | none => exact .unknown preferences ((tracks.factory?_eq_none_iff kind).mp found)
    | some factory => exact .built preferences ((tracks.first_iff kind factory).mpr found)

-- The induction is on the calls; what was registered before them goes along.
theorem run_tracks (calls : List Call) :
    Tracks (past ++ (registry.run calls).2) (registry.run calls).1 ∧
      ∀ before event after, (registry.run calls).2 = before ++ event :: after →
        Answers (past ++ before) event := by
  induction calls generalizing past registry with
  | nil =>
    refine ⟨?_, ?_⟩
    · rw [run, List.append_nil]
      exact tracks
    · intro before event after split
      simp [run] at split
  | cons call rest ih =>
    obtain ⟨answers, next⟩ := perform_tracks tracks call
    obtain ⟨last, later⟩ := ih next
    rw [List.append_assoc, List.singleton_append] at last
    refine ⟨last, ?_⟩
    intro before event after split
    cases before with
    | nil =>
      obtain ⟨rfl, _⟩ := List.cons.inj split
      rw [List.append_nil]
      exact answers
    | cons first others =>
      obtain ⟨rfl, tail⟩ := List.cons.inj split
      have answered := later others event after tail
      rwa [List.append_assoc, List.singleton_append] at answered

end Step

/-- A registry that answers by what its history has registered. -/
structure Upholds (events : List Event) (registry : Registry) : Prop where
  answers : ∀ before event after, events = before ++ event :: after → Answers before event
  failed : ∀ call failure, (registry.perform call).2 = .error failure →
    (registry.perform call).1 = registry
  register : ∀ kind factory failure, registry.register kind factory = .error failure ↔
    failure = .duplicateKind kind ∧ Known events kind
  build : ∀ kind, Known events kind → ∃ factory, First events kind factory ∧
    ∀ preferences, registry.build kind preferences = factory preferences
  /-- The registry fails to know a kind exactly where nothing was registered under it; besides,
  the factory of a kind may answer so itself. -/
  unknown : ∀ kind preferences name, registry.build kind preferences = .error (.unknownKind name) ↔
    name = kind ∧ ¬ Known events kind ∨
      ∃ factory, First events kind factory ∧ factory preferences = .error (.unknownKind name)
  standard : ∀ kind factory, (kind, factory) ∈ Registry.standard → ∀ preferences,
    registry.build kind preferences = factory preferences
  builtIn : ∀ kind ∈ Registry.builtIn.kinds, ∀ preferences,
    registry.build kind preferences = Registry.builtIn.build kind preferences
  ascending : registry.kinds.Pairwise (· < ·)
  listed : ∀ kind, kind ∈ registry.kinds ↔ Known events kind

theorem failed_unchanged {registry : Registry} {call : Call} {failure : CalculatorError}
    (failed : (registry.perform call).2 = .error failure) : (registry.perform call).1 = registry := by
  cases call with
  | register kind factory =>
    rw [perform] at failed ⊢
    cases answer : registry.register kind factory with
    | ok extended =>
      rw [answer] at failed
      contradiction
    | error _ => rfl
  | build kind preferences => rfl

section Held

variable {past : List Event} {registry : Registry} (tracks : Tracks past registry)

include tracks

theorem Tracks.register_error {kind : String} {factory : Calculator.Factory}
    {failure : CalculatorError} : registry.register kind factory = .error failure ↔
      failure = .duplicateKind kind ∧ Known past kind := by
  rw [tracks.known_iff, Registry.register]
  by_cases known : registry.contains kind = true
  · rw [if_pos known, Except.error.injEq, and_iff_left known, eq_comm]
  · simp [known]

theorem Tracks.build_unknown {kind name : String} {preferences : Json.Value} :
    registry.build kind preferences = .error (.unknownKind name) ↔
      name = kind ∧ ¬ Known past kind ∨
        ∃ factory, First past kind factory ∧ factory preferences = .error (.unknownKind name) := by
  simp only [tracks.first_iff, ← tracks.factory?_eq_none_iff, Registry.build]
  cases registry.factory? kind with
  | none => simp [eq_comm]
  | some factory => simp

theorem Tracks.factory?_of_standard {kind : String} {factory : Calculator.Factory}
    (listed : (kind, factory) ∈ standard) : registry.factory? kind = some factory := by
  rw [factory?, Keyed.lookup_eq_some_iff_mem tracks.distinct, tracks.entries]
  exact List.mem_append_left _ listed

theorem Tracks.factory?_of_builtIn {kind : String} (listed : kind ∈ builtIn.kinds) :
    registry.factory? kind = builtIn.factory? kind := by
  obtain ⟨⟨_, factory⟩, given, rfl⟩ := List.mem_map.mp ((tracks_builtIn.mem_kinds_iff kind).mp listed)
  rw [granted, List.filterMap_nil, List.append_nil] at given
  rw [tracks.factory?_of_standard given, tracks_builtIn.factory?_of_standard given]

theorem Tracks.exists_first {kind : String} (known : Known past kind) :
    ∃ factory, First past kind factory ∧
      ∀ preferences, registry.build kind preferences = factory preferences := by
  rw [tracks.known_iff, contains, Option.isSome_iff_exists] at known
  obtain ⟨factory, found⟩ := known
  refine ⟨factory, (tracks.first_iff kind factory).mpr found, ?_⟩
  intro preferences
  rw [Registry.build, found]

end Held

/-- After any calls on the registry of the marketplace every call was answered by what had been
registered before it, the first factory of a kind is the one that builds, and the kinds are the
registered ones in order. -/
theorem histories_upheld (calls : List Call) :
    Upholds (builtIn.run calls).2 (builtIn.run calls).1 := by
  obtain ⟨tracks, answers⟩ := run_tracks tracks_builtIn calls
  rw [List.nil_append] at tracks
  exact {
    answers
    failed := fun call failure => failed_unchanged
    register := fun kind factory failure => tracks.register_error
    build := fun kind => tracks.exists_first
    unknown := fun kind preferences name => tracks.build_unknown
    standard := fun kind factory listed preferences => by
      rw [Registry.build, tracks.factory?_of_standard listed]
    builtIn := fun kind listed preferences => by
      rw [Registry.build, tracks.factory?_of_builtIn listed, Registry.build]
    ascending := tracks.kinds_ascending
    listed := tracks.mem_kinds_iff }

end Fulfilment.Registry
