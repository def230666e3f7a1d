import Fulfilment.Package.Basic
import Mathlib.Algebra.BigOperators.Group.List.Basic
import Mathlib.Algebra.Order.Field.Rat
import Mathlib.Tactic.FieldSimp
import Mathlib.Tactic.Positivity

/-! Products and sums of decimal numbers without rounding.

Numbers of at most a given scale are whole numbers of its last digits. Operations whose exact
result is below 2^96 of these digits give it, at whatever scale they work on the way. -/
namespace Fulfilment.Decimal

def value (d : Decimal) : ℚ :=
  (if d.negative then -(d.mantissa : ℚ) else d.mantissa) / 10 ^ d.scale

/-- The digits of a number at a scale, which is at least its own. -/
def digitsAt (scale : Nat) (d : Decimal) : Nat := d.mantissa * tenPow (scale - d.scale)

/-- A number that is not negative and makes up the given count of digits at a scale. -/
structure Measures (scale count : Nat) (d : Decimal) : Prop where
  scale_le : d.scale ≤ scale
  counted : d.mantissaAt scale = count

theorem value_nonneg {d : Decimal} (sign : d.negative = false) : 0 ≤ d.value := by
  rw [value, sign]
  apply div_nonneg
  · exact Nat.cast_nonneg _
  · positivity

theorem cast_tenPow (n : Nat) : (tenPow n : ℚ) = 10 ^ n := by
  induction n with
  | zero => simp
  | succ n ih => rw [tenPow_succ, Nat.cast_mul, ih, pow_succ, Nat.cast_ofNat]

theorem digitsAt_mul_tenPow {d : Decimal} {coarse fine : Nat} (first : d.scale ≤ coarse)
    (second : coarse ≤ fine) : d.digitsAt coarse * tenPow (fine - coarse) = d.digitsAt fine := by
  rw [digitsAt, digitsAt, Nat.mul_assoc, ← tenPow_add, Nat.add_comm, Nat.sub_add_sub_cancel second first]

namespace Measures

variable {scale count : Nat} {d : Decimal} (measures : Measures scale count d)

include measures

theorem magnitude : d.digitsAt scale = count := by
  have counted := measures.counted
  unfold mantissaAt at counted
  unfold digitsAt
  dsimp only at counted
  split at counted <;> omega

theorem positive (nonzero : d.mantissa ≠ 0) : d.negative = false := by
  have counted := measures.counted
  have more : 0 < d.mantissa * tenPow (scale - d.scale) :=
    Nat.mul_pos (Nat.pos_of_ne_zero nonzero) (tenPow_pos _)
  unfold mantissaAt at counted
  dsimp only at counted
  by_contra negative
  rw [Bool.not_eq_false] at negative
  rw [if_pos negative] at counted
  omega

theorem count_eq_zero (zero : d.mantissa = 0) : count = 0 := by
  rw [← measures.magnitude, digitsAt, zero, Nat.zero_mul]

theorem value_eq : d.value = count / 10 ^ scale := by
  have sign : (if d.negative then -(d.mantissa : ℚ) else d.mantissa) = d.mantissa := by
    by_cases zero : d.mantissa = 0
    · simp [zero]
    · rw [measures.positive zero]
      rfl
  have power : (10 : ℚ) ^ scale = 10 ^ (scale - d.scale) * 10 ^ d.scale := by
    rw [← pow_add, Nat.sub_add_cancel measures.scale_le]
  rw [value, sign, ← measures.magnitude, digitsAt, Nat.cast_mul, cast_tenPow, power]
  field_simp

theorem whole : d.value * 10 ^ scale = count := by
  rw [measures.value_eq]
  field_simp

end Measures

theorem measures_of_nonneg {d : Decimal} {scale : Nat} (fine : d.scale ≤ scale)
    (nonneg : 0 ≤ d.value) : Measures scale (d.digitsAt scale) d := by
  refine ⟨fine, ?_⟩
  unfold mantissaAt
  dsimp only
  split
  · rename_i negative
    have zero : d.mantissa = 0 := by
      by_contra nonzero
      have below : d.value < 0 := by
        rw [value, if_pos negative]
        have more : (0 : ℚ) < d.mantissa := by exact_mod_cast Nat.pos_of_ne_zero nonzero
        apply div_neg_of_neg_of_pos
        · exact neg_lt_zero.mpr more
        · positivity
      exact absurd nonneg (not_le.mpr below)
    simp [digitsAt, zero]
  · rfl

/-- Numbers that are taken several times make up the sum of their digits at a common scale. -/
theorem sum_value_mul {α : Type} {number : α → Decimal} {digits times : α → Nat} {scale : Nat}
    {items : List α} (measures : ∀ item ∈ items, Measures scale (digits item) (number item)) :
    (items.map fun item => (number item).value * times item).sum * 10 ^ scale =
      ((items.map fun item => digits item * times item).sum : Nat) := by
  induction items with
  | nil => simp
  | cons item rest ih =>
    have own := (measures item List.mem_cons_self).whole
    have later := ih fun other member => measures other (List.mem_cons_of_mem _ member)
    rw [List.map_cons, List.sum_cons, add_mul, mul_right_comm, own, later, List.map_cons,
      List.sum_cons, Nat.cast_add, Nat.cast_mul]

theorem measures_zero (scale : Nat) : Measures scale 0 zero :=
  ⟨Nat.zero_le _, by simp [mantissaAt, zero]⟩

theorem measures_of_unsigned {d : Decimal} {scale count : Nat} (sign : d.negative = false)
    (fine : d.scale ≤ scale) (digits : d.digitsAt scale = count) :
    Measures scale count d := by
  refine ⟨fine, ?_⟩
  rw [mantissaAt, sign, ← digits]
  rfl

/-- What fits is not rounded. -/
theorem fit?_exact (negative : Bool) {m s : Nat} (small : m < mantissaLimit) (fine : s ≤ 28) :
    ∃ d, fit? negative m s = some d ∧ d.negative = negative ∧ d.mantissa = m ∧ d.scale = s := by
  have whole : roundHalfEven m (tenPow 0) = m := roundHalfEven_one m
  have fits : roundHalfEven m (tenPow 0) < mantissaLimit ∧ s ≤ 28 + 0 := ⟨whole.symm ▸ small, fine⟩
  refine ⟨⟨negative, roundHalfEven m (tenPow 0), s, fits.1, fine⟩, ?_, rfl, whole, rfl⟩
  rw [fit?, List.range_succ_eq_map, List.findSome?_cons, dif_pos fits]
  rfl

theorem add?_of_positive {a b : Decimal} (first : a.mantissa ≠ 0) (second : b.mantissa ≠ 0)
    (left : a.negative = false) (right : b.negative = false) : a.add? b =
      fit? false (a.digitsAt (max a.scale b.scale) + b.digitsAt (max a.scale b.scale))
        (max a.scale b.scale) := by
  let common := max a.scale b.scale
  let digits := a.digitsAt common + b.digitsAt common
  have added : a.mantissaAt common + b.mantissaAt common = (digits : Int) := by
    rw [mantissaAt, mantissaAt, left, right]
    rfl
  have unsigned : decide ((digits : Int) < 0) = false :=
    decide_eq_false (Int.not_lt.mpr (Int.natCast_nonneg _))
  rw [add?, if_neg first, if_neg second]
  dsimp only
  rw [added, unsigned, Int.natAbs_natCast]

section Operations

variable {scale : Nat}

theorem mul?_ofUnits {d : Decimal} {count : Nat} (measures : Measures scale count d)
    (quantity : Units) (small : count * quantity.count < mantissaLimit) :
    ∃ product, d.mul? (.ofUnits quantity) = some product ∧
      Measures scale (count * quantity.count) product := by
  by_cases nothing : d.mantissa = 0 ∨ quantity.count = 0
  · have zero : count * quantity.count = 0 := by
      rcases nothing with none | none
      · rw [measures.count_eq_zero none, Nat.zero_mul]
      · rw [none, Nat.mul_zero]
    refine ⟨Decimal.zero, if_pos nothing, ?_⟩
    rw [zero]
    exact measures_zero scale
  · have some := not_or.mp nothing
    have digits : d.mantissa * quantity.count * tenPow (scale - d.scale) = count * quantity.count := by
      rw [← measures.magnitude, digitsAt, Nat.mul_right_comm]
    have below : d.mantissa * quantity.count < mantissaLimit :=
      Nat.lt_of_le_of_lt (Nat.le_mul_of_pos_right _ (tenPow_pos _)) (digits ▸ small)
    obtain ⟨product, exact, sign, mantissa, same⟩ :=
      fit?_exact (d.negative != false) below d.scale_le
    have positive : product.mantissa ≠ 0 := by
      rw [mantissa]
      exact Nat.mul_ne_zero some.1 some.2
    have plain : product.plainZero = product := if_neg positive
    refine ⟨product, ?_, ?_⟩
    · have places : ¬ 47 < d.scale := by
        have := d.scale_le
        omega
      simp only [mul?, ofUnits, Nat.add_zero, if_neg nothing, exact, Option.map_some, plain,
        if_neg places, ite_self]
    · apply measures_of_unsigned
      · rw [sign, measures.positive some.1]
        rfl
      · rw [same]
        exact measures.scale_le
      · rw [digitsAt, mantissa, same, digits]

theorem add?_measures {a b : Decimal} {first second : Nat} (left : Measures scale first a)
    (right : Measures scale second b) (small : first + second < mantissaLimit) :
    ∃ sum, a.add? b = some sum ∧ Measures scale (first + second) sum := by
  by_cases none : a.mantissa = 0
  · refine ⟨b, if_pos none, ?_⟩
    rw [left.count_eq_zero none, Nat.zero_add]
    exact right
  by_cases nothing : b.mantissa = 0
  · refine ⟨a, ?_, ?_⟩
    · rw [add?, if_neg none, if_pos nothing]
    · rw [right.count_eq_zero nothing, Nat.add_zero]
      exact left
  -- Both are written at the larger of their scales, which the given scale still refines.
  let common := max a.scale b.scale
  have within : common ≤ scale := Nat.max_le.mpr ⟨left.scale_le, right.scale_le⟩
  let digits := a.digitsAt common + b.digitsAt common
  have refined : digits * tenPow (scale - common) = first + second := by
    rw [← left.magnitude, ← right.magnitude, Nat.add_mul,
      digitsAt_mul_tenPow (Nat.le_max_left _ _) within,
      digitsAt_mul_tenPow (Nat.le_max_right _ _) within]
  have below : digits < mantissaLimit :=
    Nat.lt_of_le_of_lt (Nat.le_mul_of_pos_right _ (tenPow_pos _)) (refined ▸ small)
  obtain ⟨sum, exact, sign, mantissa, same⟩ :=
    fit?_exact false below (Nat.max_le.mpr ⟨a.scale_le, b.scale_le⟩)
  refine ⟨sum, ?_, ?_⟩
  · rw [add?_of_positive none nothing (left.positive none) (right.positive nothing)]
    exact exact
  · apply measures_of_unsigned sign
    · rw [same]
      exact within
    · rw [digitsAt, mantissa, same]
      exact refined

/-- A sum of terms that are numbers is exact as long as the whole sum fits. -/
theorem sum?_measures {terms : List (Option Decimal)} {counts : List Nat}
    (measured : List.Forall₂ (fun term count => ∃ d, term = some d ∧ Measures scale count d)
      terms counts) (small : counts.sum < mantissaLimit) :
    ∃ total, sum? terms = some total ∧ Measures scale counts.sum total := by
  -- The invariant of the run: the total so far is exact, and what is left still fits.
  suffices run : ∀ (total : Decimal) (start : Nat), Measures scale start total →
      start + counts.sum < mantissaLimit →
      ∃ result, terms.foldlM (fun total term => term.bind total.add?) total = some result ∧
        Measures scale (start + counts.sum) result by
    have whole := run zero 0 (measures_zero scale) (by rwa [Nat.zero_add])
    rwa [Nat.zero_add] at whole
  clear small
  induction measured with
  | nil =>
    intro total start holds _
    exact ⟨total, rfl, holds⟩
  | cons head _ ih =>
    intro total start holds small
    obtain ⟨d, rfl, measures⟩ := head
    rw [List.sum_cons, ← Nat.add_assoc] at small ⊢
    obtain ⟨next, added, measured⟩ := add?_measures holds measures (by omega)
    obtain ⟨result, summed, exact⟩ := ih next _ measured small
    refine ⟨result, ?_, exact⟩
    rw [List.foldlM_cons]
    simp only [Option.bind_some, added]
    exact summed

end Operations
end Fulfilment.Decimal
