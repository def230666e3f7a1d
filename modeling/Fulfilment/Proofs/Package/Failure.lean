import Fulfilment.Proofs.Package.Quote
import Mathlib.Data.List.Forall2

/-! When pricing a package fails, and with which error.

All candidates say whether they are available before any cost is computed, so that the first
refusal to say so goes before every failure of a cost. Methods that were dropped on the way
fail no more, whatever their calculators would do. -/
namespace Fulfilment

/-- The error is that of the first of the items that fail. -/
def FirstFailure {α ε : Type} (fails : α → ε → Prop) (items : List α) (error : ε) : Prop :=
  ∃ before item after, items = before ++ item :: after ∧ fails item error ∧
    ∀ other ∈ before, ∀ earlier, ¬ fails other earlier

namespace FirstFailure

variable {α β ε : Type} {fails : α → ε → Prop} {error : ε}

theorem not_nil : ¬ FirstFailure fails [] error := by
  intro failure
  obtain ⟨before, item, after, split, _⟩ := failure
  simp at split

theorem cons_iff {item : α} {rest : List α} : FirstFailure fails (item :: rest) error ↔
    fails item error ∨ (∀ earlier, ¬ fails item earlier) ∧ FirstFailure fails rest error := by
  constructor
  · intro failure
    obtain ⟨before, failing, after, split, failed, passed⟩ := failure
    cases before with
    | nil =>
      obtain ⟨rfl, rfl⟩ := List.cons.inj split
      exact .inl failed
    | cons first others =>
      obtain ⟨rfl, rfl⟩ := List.cons.inj split
      refine .inr ⟨passed item List.mem_cons_self, others, failing, after, rfl, failed, ?_⟩
      intro other member
      exact passed other (List.mem_cons_of_mem _ member)
  · intro either
    rcases either with failed | ⟨passes, before, failing, after, rfl, failed, passed⟩
    · exact ⟨[], item, rest, rfl, failed, fun other member => absurd member List.not_mem_nil⟩
    · refine ⟨item :: before, failing, after, rfl, failed, ?_⟩
      intro other member
      rcases List.mem_cons.mp member with rfl | later
      · exact passes
      · exact passed other later

theorem filter_iff {property : α → Bool} {items : List α} :
    FirstFailure fails (items.filter property) error ↔
      FirstFailure (fun item failure => property item = true ∧ fails item failure) items error := by
  induction items with
  | nil => simp [not_nil]
  | cons item rest ih =>
    by_cases has : property item = true
    · rw [List.filter_cons_of_pos has, cons_iff, cons_iff, ih]
      simp [has]
    · rw [List.filter_cons_of_neg has, cons_iff, ih]
      simp [has]

theorem iff_of_forall₂ {others : β → ε → Prop} {items : List α} {replaced : List β}
    (alike : List.Forall₂ (fun item other => ∀ failure, others other failure ↔ fails item failure)
      items replaced) : FirstFailure others replaced error ↔ FirstFailure fails items error := by
  induction alike with
  | nil => simp [not_nil]
  | cons same _ ih => simp only [cons_iff, ih, same]

theorem none_iff {items : List α} : (∀ error, ¬ FirstFailure fails items error) ↔
    ∀ item ∈ items, ∀ error, ¬ fails item error := by
  induction items with
  | nil => simp [not_nil]
  | cons item rest ih =>
    simp only [cons_iff, List.forall_mem_cons, ← ih, not_or, not_and]
    constructor
    · intro clean
      have passes : ∀ error, ¬ fails item error := fun error => (clean error).1
      exact ⟨passes, fun error => (clean error).2 passes⟩
    · intro clean error
      exact ⟨clean.1 error, fun _ => clean.2 error⟩

end FirstFailure

/-- A method has no cost for a parcel, or one below zero. -/
inductive ShippingMethod.CostFails (method : ShippingMethod) (parcel : Parcel) :
    CalculatorError → Prop
  | compute {error : CalculatorError} : method.calculator.compute parcel = .error error →
      CostFails method parcel error
  | negative {cost : Decimal} : method.calculator.compute parcel = .ok (some cost) →
      cost.atoms < 0 → CostFails method parcel
        (.computeFailed method.calculator.kind (.negativeCost cost method.name))

theorem ShippingMethod.CostFails.transfer {method other : ShippingMethod} {parcel : Parcel}
    (compute : other.calculator.compute parcel = method.calculator.compute parcel)
    (kind : other.calculator.kind = method.calculator.kind) (name : other.name = method.name)
    {error : CalculatorError} (fails : method.CostFails parcel error) :
    other.CostFails parcel error := by
  cases fails with
  | compute failed => exact .compute (compute.trans failed)
  | negative asked below =>
    rw [← kind, ← name]
    exact .negative (compute.trans asked) below

namespace Package

/-- A method that carries everything in a package and is not hidden from the customer. -/
structure Candidate (package : Package) (applyTags : Bool) (method : ShippingMethod) : Prop where
  carries : ∀ content ∈ package.contents, content.variant.category ∈ method.categories
  shown : applyTags = true → TagRule.hides package.order.distributor.tagRules
    package.order.customerTags method.tags = false

/-- A candidate that is asked for its cost. -/
structure Eligible (package : Package) (applyTags : Bool) (method : ShippingMethod) : Prop
    extends package.Candidate applyTags method where
  available : method.calculator.available package.parcel = .ok true
  served : method.Reaches package.order.shipAddress
  currency : ∀ own, method.calculator.currency = some own → own = package.currency

/-- A candidate fails to say whether it is available. -/
def Refuses (package : Package) (applyTags : Bool) (method : ShippingMethod)
    (error : CalculatorError) : Prop :=
  package.Candidate applyTags method ∧ method.calculator.available package.parcel = .error error

def Miscalculates (package : Package) (applyTags : Bool) (method : ShippingMethod)
    (error : CalculatorError) : Prop :=
  package.Eligible applyTags method ∧ method.CostFails package.parcel error

/-- What pricing a package fails with: the first refusal of a candidate or, if there is none,
the first failure of a cost. -/
def Fails (package : Package) (applyTags : Bool) (error : CalculatorError) : Prop :=
  let methods := package.order.distributor.methods
  FirstFailure (package.Refuses applyTags) methods error ∨
    (∀ method ∈ methods, ∀ refusal, ¬ package.Refuses applyTags method refusal) ∧
      FirstFailure (package.Miscalculates applyTags) methods error

theorem eligible_iff_candidate {package : Package} {applyTags : Bool} {method : ShippingMethod} :
    package.Eligible applyTags method ↔ package.Candidate applyTags method ∧
      method.calculator.available package.parcel = .ok true ∧
      method.Reaches package.order.shipAddress ∧
      ∀ own, method.calculator.currency = some own → own = package.currency := by
  constructor
  · intro eligible
    exact ⟨eligible.toCandidate, eligible.available, eligible.served, eligible.currency⟩
  · intro all
    obtain ⟨candidate, available, served, currency⟩ := all
    exact ⟨candidate, available, served, currency⟩

def considers (package : Package) (applyTags : Bool) (method : ShippingMethod) : Bool :=
  method.carries package.categories &&
    !(applyTags && TagRule.hides package.order.distributor.tagRules package.order.customerTags
      method.tags)

theorem considers_iff {package : Package} {applyTags : Bool} {method : ShippingMethod} :
    package.considers applyTags method = true ↔ package.Candidate applyTags method := by
  rw [considers, Bool.and_eq_true, method.carries_iff package]
  constructor
  · intro passes
    refine ⟨passes.1, ?_⟩
    intro on
    simpa [on] using passes.2
  · intro candidate
    refine ⟨candidate.carries, ?_⟩
    cases applyTags with
    | false => rfl
    | true => simp [candidate.shown rfl]

theorem candidates_eq (package : Package) (applyTags : Bool) :
    package.candidates applyTags =
      package.order.distributor.methods.filter (package.considers applyTags) := by
  unfold candidates TagRule.keep considers
  cases applyTags with
  | false => simp
  | true =>
    simp only [if_true, List.filter_filter, Bool.true_and]
    apply List.filter_congr
    intro method _
    exact Bool.and_comm _ _

theorem clears_iff {package : Package} {applyTags : Bool} {method : ShippingMethod} :
    package.clears applyTags method = true ↔ package.Eligible applyTags method := by
  have split : package.clears applyTags method = (package.considers applyTags method &&
      (method.calculator.available package.parcel).toOption == some true &&
      method.serves package.order.shipAddress && method.calculator.quotesIn package.currency) := rfl
  rw [split, eligible_iff_candidate]
  simp only [Bool.and_eq_true, considers_iff, beq_iff_eq, toOption_eq_some,
    ShippingMethod.serves_iff, Calculator.quotesIn_iff, and_assoc]

/-! The error of each stage. -/

theorem eligible_error {package : Package} {methods : List ShippingMethod}
    {error : CalculatorError} : package.eligible methods = .error error ↔
      FirstFailure (fun method failure => method.calculator.available package.parcel = .error failure)
        methods error := by
  induction methods with
  | nil => simp [eligible, FirstFailure.not_nil]
  | cons method rest ih =>
    rw [FirstFailure.cons_iff, eligible, bind_eq_error, ← ih]
    apply or_congr_right
    cases method.calculator.available package.parcel with
    | error refusal => simp
    | ok available =>
      simp only [Except.ok.injEq, exists_eq_left', bind_eq_error, reduceCtorEq, not_false_eq_true,
        implies_true, true_and]
      constructor
      · intro either
        rcases either with failed | ⟨others, _, kept⟩
        · exact failed
        · split at kept <;> contradiction
      · exact .inl

theorem cost?_error {package : Package} {method : ShippingMethod} {error : CalculatorError} :
    package.cost? method = .error error ↔ method.CostFails package.parcel error := by
  rw [cost?, bind_eq_error]
  constructor
  · intro either
    rcases either with failed | ⟨computed, asked, refused⟩
    · exact .compute failed
    · cases computed with
      | none => contradiction
      | some cost =>
        simp only at refused
        split at refused
        · rename_i below
          cases Except.error.inj refused
          exact .negative asked (Decimal.less_iff.mp below)
        · contradiction
  · intro fails
    cases fails with
    | compute failed => exact .inl failed
    | negative asked below => exact .inr ⟨_, asked, if_pos (Decimal.less_iff.mpr below)⟩

theorem priced_error {package : Package} {methods : List ShippingMethod}
    {error : CalculatorError} : package.priced methods = .error error ↔
      FirstFailure (fun method => method.CostFails package.parcel) methods error := by
  induction methods with
  | nil => simp [priced, FirstFailure.not_nil]
  | cons method rest ih =>
    rw [FirstFailure.cons_iff, priced, bind_eq_error, ← ih, cost?_error]
    -- Apart from its own error, a method lets a later one through only if it had none.
    apply or_congr_right
    constructor
    · intro later
      obtain ⟨cost, asked, failed⟩ := later
      constructor
      · intro earlier early
        rw [← cost?_error, asked] at early
        contradiction
      · rcases bind_eq_error.mp failed with unpriced | ⟨others, _, listed⟩
        · exact unpriced
        · contradiction
    · intro later
      obtain ⟨passes, failed⟩ := later
      cases asked : package.cost? method with
      | error earlier => exact absurd (cost?_error.mp asked) (passes earlier)
      | ok cost => exact ⟨cost, rfl, bind_eq_error.mpr (.inl failed)⟩

theorem eligible_candidates_error {package : Package} {applyTags : Bool} {error : CalculatorError} :
    package.eligible (package.candidates applyTags) = .error error ↔
      FirstFailure (package.Refuses applyTags) package.order.distributor.methods error := by
  rw [eligible_error, candidates_eq, FirstFailure.filter_iff]
  simp only [considers_iff]
  rfl

theorem priced_clears_error {package : Package} {applyTags : Bool} {error : CalculatorError} :
    package.priced (package.order.distributor.methods.filter (package.clears applyTags)) =
        .error error ↔
      FirstFailure (package.Miscalculates applyTags) package.order.distributor.methods error := by
  rw [priced_error, FirstFailure.filter_iff]
  simp only [clears_iff]
  rfl

theorem eligible_candidates_ok {package : Package} {applyTags : Bool}
    {methods : List ShippingMethod} : package.eligible (package.candidates applyTags) = .ok methods ↔
      (∀ method ∈ package.order.distributor.methods, ∀ refusal,
        ¬ package.Refuses applyTags method refusal) ∧
      methods = package.order.distributor.methods.filter (package.clears applyTags) := by
  rw [← FirstFailure.none_iff]
  simp only [← eligible_candidates_error]
  cases asked : package.eligible (package.candidates applyTags) with
  | error refusal => simp
  | ok listed =>
    have kept := eligible_ok asked
    rw [filter_candidates] at kept
    simp [kept, eq_comm]

theorem quote_error (package : Package) (checkout applyTags : Bool) (error : CalculatorError) :
    package.quote checkout applyTags = .error error ↔ package.Fails applyTags error := by
  rw [quote, bind_eq_error, eligible_candidates_error, Fails, ← priced_clears_error]
  apply or_congr_right
  constructor
  · intro later
    obtain ⟨methods, asked, failed⟩ := later
    obtain ⟨willing, rfl⟩ := eligible_candidates_ok.mp asked
    refine ⟨willing, ?_⟩
    rcases bind_eq_error.mp failed with unpriced | ⟨rates, _, sorted⟩
    · exact unpriced
    · contradiction
  · intro later
    obtain ⟨willing, failed⟩ := later
    have asked := eligible_candidates_ok.mpr ⟨willing, rfl⟩
    exact ⟨_, asked, bind_eq_error.mpr (.inl failed)⟩

/-! What pricing reads of a package. -/

section Congruence

variable {package other : Package}

theorem parcel_congr (contents : other.contents = package.contents)
    (currency : other.currency = package.currency) : other.parcel = package.parcel := by
  simp only [parcel, quantity, weight?, itemTotal?, contents, currency]

theorem eligible_congr (parcel : other.parcel = package.parcel)
    (address : other.order.shipAddress = package.order.shipAddress)
    (currency : other.currency = package.currency) (methods : List ShippingMethod) :
    other.eligible methods = package.eligible methods := by
  induction methods with
  | nil => rfl
  | cons method rest ih => simp only [eligible, ih, parcel, address, currency]

theorem priced_congr (parcel : other.parcel = package.parcel) (methods : List ShippingMethod) :
    other.priced methods = package.priced methods := by
  induction methods with
  | nil => rfl
  | cons method rest ih => simp only [priced, cost?, ih, parcel]

theorem quote_congr (order : other.order = package.order)
    (contents : other.contents = package.contents) (currency : other.currency = package.currency)
    (checkout applyTags : Bool) :
    other.quote checkout applyTags = package.quote checkout applyTags := by
  have parcel := parcel_congr contents currency
  have candidates : other.candidates applyTags = package.candidates applyTags := by
    simp only [Package.candidates, categories, order, contents]
  have address : other.order.shipAddress = package.order.shipAddress := by rw [order]
  simp only [quote, candidates, eligible_congr parcel address currency, priced_congr parcel]

end Congruence

end Package

/-! Replacing the functions of calculators. -/

def ShippingMethod.withFunctions (method : ShippingMethod)
    (available : Parcel → Except CalculatorError Bool)
    (compute : Parcel → Except CalculatorError (Option Decimal)) : ShippingMethod :=
  { method with calculator := { method.calculator with available, compute } }

def Order.withMethods (order : Order) (methods : List ShippingMethod) : Order :=
  { order with distributor := { order.distributor with methods } }

namespace Package

def withMethods (package : Package) (methods : List ShippingMethod) : Package :=
  { package with order := package.order.withMethods methods }

/-- The two methods differ at most in the functions of their calculators, and not in what
these say of a package when they are asked. -/
structure Interchangeable (package : Package) (applyTags : Bool) (method other : ShippingMethod) :
    Prop where
  same : other = method.withFunctions other.calculator.available other.calculator.compute
  available : package.Candidate applyTags method →
    other.calculator.available package.parcel = method.calculator.available package.parcel
  compute : package.Eligible applyTags method →
    other.calculator.compute package.parcel = method.calculator.compute package.parcel

theorem candidate_withMethods {package : Package} {applyTags : Bool} {method : ShippingMethod}
    (methods : List ShippingMethod) : (package.withMethods methods).Candidate applyTags method ↔
      package.Candidate applyTags method :=
  ⟨fun candidate => ⟨candidate.carries, candidate.shown⟩,
    fun candidate => ⟨candidate.carries, candidate.shown⟩⟩

theorem eligible_withMethods {package : Package} {applyTags : Bool} {method : ShippingMethod}
    (methods : List ShippingMethod) : (package.withMethods methods).Eligible applyTags method ↔
      package.Eligible applyTags method := by
  rw [eligible_iff_candidate, eligible_iff_candidate, candidate_withMethods]
  rfl

namespace Interchangeable

variable {package : Package} {applyTags : Bool} {method other : ShippingMethod}
  (interchangeable : package.Interchangeable applyTags method other)

include interchangeable

theorem serves_eq (address : Option Address) : other.serves address = method.serves address := by
  rw [interchangeable.same]
  rfl

theorem currency_eq : other.calculator.currency = method.calculator.currency := by
  rw [interchangeable.same]
  rfl

theorem candidate_iff :
    package.Candidate applyTags other ↔ package.Candidate applyTags method := by
  rw [interchangeable.same]
  exact ⟨fun candidate => ⟨candidate.carries, candidate.shown⟩,
    fun candidate => ⟨candidate.carries, candidate.shown⟩⟩

theorem considers_eq : package.considers applyTags other = package.considers applyTags method := by
  rw [Bool.eq_iff_iff, considers_iff, considers_iff]
  exact interchangeable.candidate_iff

theorem eligible_iff :
    package.Eligible applyTags other ↔ package.Eligible applyTags method := by
  rw [eligible_iff_candidate, eligible_iff_candidate, interchangeable.candidate_iff]
  apply and_congr_right
  intro candidate
  rw [interchangeable.available candidate, ← ShippingMethod.serves_iff, interchangeable.serves_eq,
    ShippingMethod.serves_iff, interchangeable.currency_eq]

theorem refuses_iff (error : CalculatorError) :
    package.Refuses applyTags other error ↔ package.Refuses applyTags method error := by
  rw [Refuses, Refuses, interchangeable.candidate_iff]
  apply and_congr_right
  intro candidate
  rw [interchangeable.available candidate]

theorem miscalculates_iff (error : CalculatorError) :
    package.Miscalculates applyTags other error ↔ package.Miscalculates applyTags method error := by
  rw [Miscalculates, Miscalculates, interchangeable.eligible_iff]
  apply and_congr_right
  intro eligible
  have compute := interchangeable.compute eligible
  have kind : other.calculator.kind = method.calculator.kind := by
    rw [interchangeable.same]
    rfl
  have name : other.name = method.name := by
    rw [interchangeable.same]
    rfl
  exact ⟨.transfer compute.symm kind.symm name.symm, .transfer compute kind name⟩

end Interchangeable

/-- Functions that are not used may be replaced without another failure. -/
theorem fails_withMethods {package : Package} {applyTags : Bool} {others : List ShippingMethod}
    (related : List.Forall₂ (package.Interchangeable applyTags)
      package.order.distributor.methods others) (error : CalculatorError) :
    (package.withMethods others).Fails applyTags error ↔ package.Fails applyTags error := by
  have refusals (refusal : CalculatorError) : FirstFailure (package.Refuses applyTags) others refusal ↔
      FirstFailure (package.Refuses applyTags) package.order.distributor.methods refusal :=
    FirstFailure.iff_of_forall₂ (related.imp fun _ _ same => same.refuses_iff)
  have costs : FirstFailure (package.Miscalculates applyTags) others error ↔
      FirstFailure (package.Miscalculates applyTags) package.order.distributor.methods error :=
    FirstFailure.iff_of_forall₂ (related.imp fun _ _ same => same.miscalculates_iff)
  have refuses : (package.withMethods others).Refuses applyTags = package.Refuses applyTags := by
    funext method refusal
    exact propext (and_congr_left fun _ => candidate_withMethods others)
  have miscalculates : (package.withMethods others).Miscalculates applyTags =
      package.Miscalculates applyTags := by
    funext method failure
    exact propext (and_congr_left fun _ => eligible_withMethods others)
  simp only [Fails, ← FirstFailure.none_iff, refuses, miscalculates]
  exact or_congr (refusals error) (and_congr (forall_congr' fun e => not_congr (refusals e)) costs)

theorem eligible_interchanged {package : Package} {applyTags : Bool}
    {methods others : List ShippingMethod}
    (related : List.Forall₂ (fun method other => package.Interchangeable applyTags method other ∧
      (package.Eligible applyTags method → other = method)) methods others) :
    package.eligible (others.filter (package.considers applyTags)) =
      package.eligible (methods.filter (package.considers applyTags)) := by
  induction related with
  | nil => rfl
  | @cons method other _ _ head _ ih =>
    obtain ⟨interchangeable, untouched⟩ := head
    have considered := interchangeable.considers_eq
    by_cases candidate : package.considers applyTags method = true
    · have available := interchangeable.available (considers_iff.mp candidate)
      rw [List.filter_cons_of_pos candidate, List.filter_cons_of_pos (considered.trans candidate),
        eligible, eligible, ih, available]
      -- An eligible method is not replaced. Another one fails a test that its replacement fails too.
      by_cases eligible : package.Eligible applyTags method
      · rw [untouched eligible]
      · cases asked : method.calculator.available package.parcel with
        | error refusal => rfl
        | ok available =>
          have dropped : (available && method.serves package.order.shipAddress &&
              method.calculator.quotesIn package.currency) = false := by
            by_contra passes
            simp only [Bool.not_eq_false, Bool.and_eq_true, Calculator.quotesIn_iff] at passes
            obtain ⟨⟨rfl, served⟩, currency⟩ := passes
            exact eligible ⟨considers_iff.mp candidate, asked, ShippingMethod.serves_iff.mp served,
              currency⟩
          have quotes : other.calculator.quotesIn package.currency =
              method.calculator.quotesIn package.currency := by
            rw [Calculator.quotesIn, interchangeable.currency_eq, Calculator.quotesIn]
          simp only [ok_bind, interchangeable.serves_eq, quotes, dropped, Bool.false_eq_true, if_false]
    · rw [List.filter_cons_of_neg candidate, List.filter_cons_of_neg (considered ▸ candidate), ih]

theorem quote_withMethods {package : Package} {applyTags : Bool} {others : List ShippingMethod}
    (related : List.Forall₂ (fun method other => package.Interchangeable applyTags method other ∧
      (package.Eligible applyTags method → other = method))
      package.order.distributor.methods others) (checkout : Bool) :
    (package.withMethods others).quote checkout applyTags = package.quote checkout applyTags := by
  have parcel : (package.withMethods others).parcel = package.parcel := rfl
  have methods : (package.withMethods others).eligible
        ((package.withMethods others).candidates applyTags) =
      package.eligible (package.candidates applyTags) := by
    rw [eligible_congr parcel rfl rfl, candidates_eq, candidates_eq]
    exact eligible_interchanged related
  simp only [quote, methods, priced_congr parcel]

end Package
end Fulfilment
