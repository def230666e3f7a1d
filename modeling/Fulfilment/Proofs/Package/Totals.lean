import Fulfilment.Proofs.Decimal.Exact
import Fulfilment.Proofs.Package.Contents
import Mathlib.Data.List.MinMax
import Mathlib.Tactic.NormNum

/-! Totals over the contents of a package.

The item total and the weight of a package are the same total, of different amounts for a unit.
It is exact, in whatever order the contents are, as long as it is less than 2^96 digits at a scale
that fits every amount; so it is never missing there. -/
namespace Fulfilment

namespace Content

/-- The total of an amount that every unit has. -/
def total? (amount : Variant → Decimal) (contents : List Content) : Option Decimal :=
  Decimal.sum? (contents.map fun content =>
    (amount content.variant).mul? (.ofUnits content.quantity))

def load (digits : Variant → Nat) (contents : List Content) : Nat :=
  (contents.map fun content => digits content.variant * content.quantity.count).sum

/-- The exact total of an amount that every unit has. -/
def worth (amount : Variant → Decimal) (contents : List Content) : ℚ :=
  (contents.map fun content => (amount content.variant).value * content.quantity.count).sum

/-- The largest scale of the amounts of a unit. -/
def finestScale (amount : Variant → Decimal) (contents : List Content) : Nat :=
  (contents.map fun content => (amount content.variant).scale).foldr max 0

theorem worth_perm (amount : Variant → Decimal) {contents others : List Content}
    (same : contents.Perm others) : worth amount contents = worth amount others :=
  (same.map _).sum_eq

theorem scale_le_finestScale (amount : Variant → Decimal) {contents : List Content}
    {content : Content} (member : content ∈ contents) :
    (amount content.variant).scale ≤ finestScale amount contents :=
  List.le_max_of_le' 0 (List.mem_map.mpr ⟨content, member, rfl⟩) le_rfl

theorem total?_measures {amount : Variant → Decimal} {digits : Variant → Nat} {scale : Nat}
    {contents : List Content}
    (measures : ∀ content ∈ contents,
      (amount content.variant).Measures scale (digits content.variant))
    (small : load digits contents < Decimal.mantissaLimit) :
    ∃ total, total? amount contents = some total ∧ total.Measures scale (load digits contents) := by
  apply Decimal.sum?_measures _ small
  rw [List.forall₂_map_left_iff, List.forall₂_map_right_iff, List.forall₂_same]
  intro content member
  have part : digits content.variant * content.quantity.count ≤ load digits contents :=
    List.le_sum_of_mem (List.mem_map.mpr ⟨content, member, rfl⟩)
  exact Decimal.mul?_ofUnits (measures content member) content.quantity
    (Nat.lt_of_le_of_lt part small)

theorem total?_exact {amount : Variant → Decimal} {contents : List Content} {scale : Nat}
    (nonneg : ∀ content ∈ contents, 0 ≤ (amount content.variant).value)
    (fine : ∀ content ∈ contents, (amount content.variant).scale ≤ scale)
    (small : worth amount contents * 10 ^ scale < 2 ^ 96) :
    ∃ total, total? amount contents = some total ∧ total.value = worth amount contents := by
  have measures : ∀ content ∈ contents, (amount content.variant).Measures scale
      ((amount content.variant).digitsAt scale) := by
    intro content member
    exact Decimal.measures_of_nonneg (fine content member) (nonneg content member)
  have counted : worth amount contents * 10 ^ scale =
      load (fun variant => (amount variant).digitsAt scale) contents :=
    Decimal.sum_value_mul measures
  rw [counted] at small
  obtain ⟨total, found, exact⟩ := total?_measures measures (by exact_mod_cast small)
  refine ⟨total, found, ?_⟩
  rw [exact.value_eq, ← counted]
  exact mul_div_cancel_right₀ _ (by positivity)

theorem total?_rearranged {amount : Variant → Decimal} {contents others : List Content}
    (nonneg : ∀ content ∈ contents, 0 ≤ (amount content.variant).value)
    (small : worth amount contents * 10 ^ finestScale amount contents < 2 ^ 96)
    (same : others.Perm contents) :
    ∃ total, total? amount others = some total ∧ total.value = worth amount contents := by
  rw [← worth_perm amount same] at small ⊢
  apply total?_exact _ _ small
  · exact fun content member => nonneg content (same.mem_iff.mp member)
  · exact fun content member => scale_le_finestScale amount (same.mem_iff.mp member)

end Content

namespace Package

theorem itemTotal?_eq : itemTotal? = fun package => Content.total? Variant.price package.contents :=
  rfl

theorem weight?_eq : weight? = fun package => Content.total? Variant.weight package.contents := rfl

/-- A total is exact, in whatever order the contents are, where that makes less than 2^96 digits
at the largest scale, and it is missing only where that makes no less. -/
structure ExactTotal (amount : Variant → Decimal) (total? : Package → Option Decimal)
    (package : Package) : Prop where
  exact : Content.worth amount package.contents * 10 ^ Content.finestScale amount package.contents
      < 2 ^ 96 → ∀ contents, contents.Perm package.contents →
    ∃ total, total? { package with contents } = some total ∧
      total.value = Content.worth amount package.contents
  missing : ∀ contents, contents.Perm package.contents → total? { package with contents } = none →
    2 ^ 96 ≤ Content.worth amount package.contents *
      10 ^ Content.finestScale amount package.contents

theorem exactTotal_of_nonneg {amount : Variant → Decimal} {package : Package}
    (nonneg : ∀ content ∈ package.contents, 0 ≤ (amount content.variant).value) :
    package.ExactTotal amount fun package => Content.total? amount package.contents where
  exact small _ same := Content.total?_rearranged nonneg small same
  missing contents same none := by
    by_contra small
    obtain ⟨total, found, _⟩ := Content.total?_rearranged nonneg (not_le.mp small) same
    cases none.symm.trans found

/-- With no negative price the item total is exact whenever it fits at the scale of the finest
price, whichever order the items are added in, and so is the weight with no negative weight. -/
theorem totals_exact (package : Package) :
    ((∀ content ∈ package.contents, 0 ≤ content.variant.price.value) →
      package.ExactTotal Variant.price itemTotal?) ∧
    ((∀ content ∈ package.contents, 0 ≤ content.variant.weight.value) →
      package.ExactTotal Variant.weight weight?) := by
  rw [itemTotal?_eq, weight?_eq]
  exact ⟨exactTotal_of_nonneg, exactTotal_of_nonneg⟩

def hammer : Variant :=
  ⟨1, "hammer", .ofDigits 79228162514264337593543950335 0, .ofDigits 300 2, 0⟩

def tack : Variant := ⟨2, "tack", .zero, .ofDigits 1 28, 0⟩

/-- Prices of two scales, as many tacks as can be counted, and two weights that are too large
together. -/
def ironmongery : Package :=
  { order := ⟨0, ⟨0, "hub", [], []⟩, none, none, [], []⟩
    location := ⟨1, "forge", true, []⟩
    currency := .usd
    contents := [⟨hammer, 1, .onHand⟩, ⟨tack, .most, .onHand⟩, ⟨hammer, 1, .backordered⟩,
      ⟨tack, 0, .backordered⟩]
    rates := [] }

theorem ironmongery_totals :
    (∃ total, ({ ironmongery with contents := ironmongery.contents.reverse } : Package).itemTotal? =
        some total ∧ total.value = 6 + 4294967295 / 10 ^ 28) ∧
      ironmongery.weight? = none ∧ 2 ^ 96 ≤ Content.worth Variant.weight ironmongery.contents *
        10 ^ Content.finestScale Variant.weight ironmongery.contents := by
  have unsigned : ∀ content ∈ ironmongery.contents,
      content.variant.price.negative = false ∧ content.variant.weight.negative = false := by decide
  have prices := ironmongery.totals_exact.1 fun content member =>
    Decimal.value_nonneg (unsigned content member).1
  have weights := ironmongery.totals_exact.2 fun content member =>
    Decimal.value_nonneg (unsigned content member).2
  have worth : Content.worth Variant.price ironmongery.contents = 6 + 4294967295 / 10 ^ 28 := by
    have none : (0 : Units).count = 0 := rfl
    have one : (1 : Units).count = 1 := rfl
    norm_num [Content.worth, ironmongery, hammer, tack, Decimal.ofDigits, Decimal.value, none, one]
  have scale : Content.finestScale Variant.price ironmongery.contents = 28 := rfl
  have small : Content.worth Variant.price ironmongery.contents *
      10 ^ Content.finestScale Variant.price ironmongery.contents < 2 ^ 96 := by
    rw [worth, scale]
    norm_num
  have heavy : ironmongery.weight? = none := rfl
  refine ⟨?_, heavy, weights.missing _ (.refl _) heavy⟩
  rw [← worth]
  exact prices.exact small _ (List.reverse_perm _)

end Package
end Fulfilment
