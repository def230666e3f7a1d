import Fulfilment.Proofs.Decimal.Exact
import Mathlib.Algebra.Order.Floor.Ring
import Mathlib.Algebra.Ring.Int.Parity
import Mathlib.Tactic.Linarith
import Mathlib.Tactic.Ring

/-! Rounding to the nearest whole number, halves to the even one.

Rounding keeps the order of values, whatever digits they are written with. A hundredth and an
amount in cents are rounded once from the value, at 28 and at 2 places. -/
namespace Fulfilment

/-- The whole number that is nearest to a value; of two it is the even one. -/
structure HalfEven (x : ℚ) (n : ℤ) : Prop where
  near : |x - n| ≤ 1 / 2
  even : |x - n| = 1 / 2 → Even n

/-- A value and what is left of it when it is rounded to a number of fraction digits. -/
def Rounded (places : Nat) (x result : ℚ) : Prop :=
  ∃ units : ℤ, HalfEven (x * 10 ^ places) units ∧ result = units / 10 ^ places

namespace HalfEven

variable {x y : ℚ} {m n : ℤ}

theorem mono (le : x ≤ y) (lower : HalfEven x m) (upper : HalfEven y n) : m ≤ n := by
  by_contra less
  have step : (n : ℚ) + 1 ≤ m := by exact_mod_cast Int.add_one_le_iff.mpr (not_le.mp less)
  have above := (abs_le.mp lower.near).1
  have below := (abs_le.mp upper.near).2
  -- Both values could only be the same one, halfway between two neighbours.
  have middle : x = n + 1 / 2 := by linarith
  have same : y = n + 1 / 2 := by linarith
  have next : m = n + 1 := by
    have : (m : ℚ) = n + 1 := by linarith
    exact_mod_cast this
  have evenLow : Even n := upper.even (by rw [same, add_sub_cancel_left]; norm_num)
  have evenHigh : Even m := by
    apply lower.even
    rw [middle, next, Int.cast_add, Int.cast_one, add_sub_add_left_eq_sub]
    norm_num
  rw [next, Int.even_add_one] at evenHigh
  exact evenHigh evenLow

theorem unique (first : HalfEven x m) (second : HalfEven x n) : m = n :=
  le_antisymm (first.mono le_rfl second) (second.mono le_rfl first)

theorem intCast (n : ℤ) : HalfEven n n := by
  constructor
  · simp
  · simp

theorem neg (rounded : HalfEven x n) : HalfEven (-x) (-n : ℤ) := by
  have distance : |-x - ((-n : ℤ) : ℚ)| = |x - n| := by
    rw [Int.cast_neg, ← neg_sub', abs_neg]
  constructor
  · rw [distance]
    exact rounded.near
  · rw [distance]
    intro tie
    exact (rounded.even tie).neg

theorem below {part : ℚ} (nonneg : 0 ≤ part) (small : part ≤ 1 / 2)
    (tie : part = 1 / 2 → Even n) : HalfEven (n + part) n := by
  have gap : |(n : ℚ) + part - n| = part := by rw [add_sub_cancel_left, abs_of_nonneg nonneg]
  exact ⟨gap.symm ▸ small, gap.symm ▸ tie⟩

theorem above {part : ℚ} (large : 1 / 2 ≤ part) (le_one : part ≤ 1)
    (tie : part = 1 / 2 → Even (n + 1)) : HalfEven (n + part) (n + 1) := by
  have gap : |(n : ℚ) + part - (n + 1 : ℤ)| = 1 - part := by
    rw [Int.cast_add, Int.cast_one, add_sub_add_left_eq_sub, abs_sub_comm,
      abs_of_nonneg (sub_nonneg.mpr le_one)]
  constructor
  · rw [gap]
    linarith
  · rw [gap]
    intro half
    exact tie (by linarith)

theorem roundHalfEven (n : Nat) {d : Nat} (positive : 0 < d) :
    HalfEven (n / d) (Decimal.roundHalfEven n d) := by
  have size : (0 : ℚ) < d := by exact_mod_cast positive
  have whole : (n : ℚ) = d * (n / d : Nat) + (n % d : Nat) := by
    exact_mod_cast (Nat.div_add_mod n d).symm
  have split : (n : ℚ) / d = (n / d : Nat) + (n % d : Nat) / d := by
    conv_lhs => rw [whole, add_div, mul_div_cancel_left₀ _ size.ne']
  have nonneg : (0 : ℚ) ≤ (n % d : Nat) / d := by positivity
  have le_half : ((n % d : Nat) : ℚ) / d ≤ 1 / 2 ↔ 2 * (n % d) ≤ d := by
    rw [div_le_div_iff₀ size two_pos]
    norm_cast
    omega
  have ge_half : (1 : ℚ) / 2 ≤ (n % d : Nat) / d ↔ d ≤ 2 * (n % d) := by
    rw [div_le_div_iff₀ two_pos size]
    norm_cast
    omega
  have le_one : ((n % d : Nat) : ℚ) / d ≤ 1 := by
    rw [div_le_one size]
    exact_mod_cast (Nat.mod_lt n positive).le
  unfold Decimal.roundHalfEven
  rw [split]
  split
  · rename_i up
    rw [Nat.cast_add]
    refine above (ge_half.mpr (by omega)) le_one ?_
    intro half
    have exact := le_half.mp half.le
    rw [← Nat.cast_one, ← Nat.cast_add, Int.even_coe_nat, Nat.even_iff]
    omega
  · rename_i down
    refine below nonneg (le_half.mpr (by omega)) ?_
    intro half
    have exact := ge_half.mp half.ge
    rw [Int.even_coe_nat, Nat.even_iff]
    omega

theorem drop (m : Nat) {kept scale : Nat} (le : kept ≤ scale) :
    HalfEven (m / 10 ^ scale * 10 ^ kept)
      (Decimal.roundHalfEven m (Decimal.tenPow (scale - kept))) := by
  have power : (10 : ℚ) ^ scale = 10 ^ (scale - kept) * 10 ^ kept := by
    rw [← pow_add, Nat.sub_add_cancel le]
  have digits : (m : ℚ) / 10 ^ scale * 10 ^ kept = m / (Decimal.tenPow (scale - kept) : Nat) := by
    rw [Decimal.cast_tenPow, power]
    field_simp
  rw [digits]
  exact roundHalfEven m (Decimal.tenPow_pos _)

end HalfEven

namespace Rounded

variable {places : Nat} {x y low high : ℚ}

theorem mono (le : x ≤ y) (lower : Rounded places x low) (upper : Rounded places y high) :
    low ≤ high := by
  obtain ⟨m, first, rfl⟩ := lower
  obtain ⟨n, second, rfl⟩ := upper
  have units : (m : ℚ) ≤ n := by
    exact_mod_cast first.mono (mul_le_mul_of_nonneg_right le (by positivity)) second
  exact div_le_div_of_nonneg_right units (by positivity)

theorem of_whole (units : ℤ) (whole : x * 10 ^ places = units) : Rounded places x x := by
  refine ⟨units, whole.symm ▸ .intCast units, ?_⟩
  rw [← whole]
  field_simp

theorem eq_of_whole {units : ℤ} (whole : x * 10 ^ places = units)
    (rounded : Rounded places x low) : low = x :=
  le_antisymm (mono le_rfl rounded (of_whole units whole)) (mono le_rfl (of_whole units whole) rounded)

theorem signed (negative : Bool) (rounded : Rounded places x low) :
    Rounded places (if negative then -x else x) (if negative then -low else low) := by
  cases negative with
  | true =>
    obtain ⟨units, nearest, rfl⟩ := rounded
    refine ⟨-units, ?_, ?_⟩
    · rw [if_pos rfl, neg_mul]
      exact nearest.neg
    · rw [if_pos rfl, Int.cast_neg, neg_div]
  | false => exact rounded

theorem drop (m : Nat) {kept scale : Nat} (le : kept ≤ scale) : Rounded kept (m / 10 ^ scale)
    (Decimal.roundHalfEven m (Decimal.tenPow (scale - kept)) / 10 ^ kept) :=
  ⟨Decimal.roundHalfEven m (Decimal.tenPow (scale - kept)), .drop m le, by rw [Int.cast_natCast]⟩

end Rounded

namespace Decimal

theorem value_eq (d : Decimal) : d.value =
    if d.negative then -((d.mantissa : ℚ) / 10 ^ d.scale) else d.mantissa / 10 ^ d.scale := by
  rw [value]
  split
  · exact neg_div _ _
  · rfl

@[simp] theorem value_zero : zero.value = 0 := by simp [value, zero]

theorem value_of_mantissa_eq_zero {d : Decimal} (zero : d.mantissa = 0) : d.value = 0 := by
  simp [value, zero]

theorem value_ofDigits {m s : Nat} (small : m < mantissaLimit) (fine : s ≤ 28) :
    (ofDigits m s).value = m / 10 ^ s := by
  simp [value, ofDigits, Nat.mod_eq_of_lt small, Nat.min_eq_left fine]

@[simp] theorem value_plainZero (d : Decimal) : d.plainZero.value = d.value := by
  unfold plainZero
  split
  · rename_i zero
    simp [value, zero]
  · rfl

theorem cast_mantissaAt {d : Decimal} {places : Nat} (fine : d.scale ≤ places) :
    (d.mantissaAt places : ℚ) = d.value * 10 ^ places := by
  have power : (10 : ℚ) ^ places = 10 ^ (places - d.scale) * 10 ^ d.scale := by
    rw [← pow_add, Nat.sub_add_cancel fine]
  have magnitude : ((d.mantissa * tenPow (places - d.scale) : Nat) : ℚ) =
      d.mantissa / 10 ^ d.scale * 10 ^ places := by
    rw [power, Nat.cast_mul, cast_tenPow]
    field_simp
  rw [value_eq, mantissaAt]
  split
  · rw [Int.cast_neg, Int.cast_natCast, magnitude, neg_mul]
  · rw [Int.cast_natCast, magnitude]

theorem atoms_le_iff {a b : Decimal} : a.atoms ≤ b.atoms ↔ a.value ≤ b.value := by
  have first : (a.atoms : ℚ) = a.value * 10 ^ 28 := cast_mantissaAt a.scale_le
  have second : (b.atoms : ℚ) = b.value * 10 ^ 28 := cast_mantissaAt b.scale_le
  rw [← Int.cast_le (R := ℚ), first, second, mul_le_mul_iff_left₀ (by positivity)]

theorem rounded_self (d : Decimal) {places : Nat} (fine : d.scale ≤ places) :
    Rounded places d.value d.value :=
  .of_whole (d.mantissaAt places) (cast_mantissaAt fine).symm

theorem rounded_roundCents (d : Decimal) : Rounded 2 d.value d.roundCents.value := by
  unfold roundCents
  split
  · rename_i room
    exact d.rounded_self room
  · rename_i long
    split
    · rename_i zero
      rw [value_of_mantissa_eq_zero zero, value_of_mantissa_eq_zero rfl]
      exact Rounded.of_whole 0 (by simp)
    · rw [value_plainZero, value_eq, value_eq]
      exact .signed _ (.drop d.mantissa (by omega))

@[simp] theorem value_dropZeros (count : Nat) (d : Decimal) : (dropZeros count d).value = d.value := by
  unfold dropZeros
  split
  · rename_i zeros
    have digits : (d.mantissa : ℚ) = (d.mantissa / tenPow count : Nat) * 10 ^ count := by
      rw [← cast_tenPow]
      exact_mod_cast (Nat.div_mul_cancel (Nat.dvd_of_mod_eq_zero zeros.2)).symm
    have power : (10 : ℚ) ^ d.scale = 10 ^ (d.scale - count) * 10 ^ count := by
      rw [← pow_add, Nat.sub_add_cancel zeros.1]
    have same : ((d.mantissa / tenPow count : Nat) : ℚ) / 10 ^ (d.scale - count) =
        d.mantissa / 10 ^ d.scale := by
      rw [power, digits]
      field_simp
    rw [value_eq, value_eq, same]
  · rfl

@[simp] theorem value_shorten (d : Decimal) : d.shorten.value = d.value := by
  have eight : ∀ e : Decimal, e.dropEightZeros.value = e.value := by
    intro e
    unfold dropEightZeros
    split
    · exact e.value_dropZeros 8
    · rfl
  simp [shorten, eight]

theorem rounded_of_hundredth {d result : Decimal} (exact : result.value = d.value / 100) :
    Rounded 28 (d.value / 100) result.value :=
  exact ▸ result.rounded_self result.scale_le

theorem value_div_hundred (d : Decimal) : d.value / 100 =
    if d.negative then -((d.mantissa : ℚ) / 10 ^ (d.scale + 2)) else d.mantissa / 10 ^ (d.scale + 2) := by
  have moved : (d.mantissa : ℚ) / 10 ^ (d.scale + 2) = d.mantissa / 10 ^ d.scale / 100 := by
    rw [pow_add, ← div_div]
    norm_num
  rw [d.value_eq, moved]
  split
  · exact neg_div _ _
  · rfl

theorem rounded_hundredth (d : Decimal) : Rounded 28 (d.value / 100) d.hundredth.value := by
  unfold hundredth
  split
  · rename_i zero
    apply rounded_of_hundredth
    rw [value_of_mantissa_eq_zero zero, value_zero, zero_div]
  split
  · rename_i hundreds
    apply rounded_of_hundredth
    have digits : (d.mantissa : ℚ) = (d.mantissa / 100 : Nat) * 100 := by
      exact_mod_cast (Nat.div_mul_cancel (Nat.dvd_of_mod_eq_zero hundreds)).symm
    rw [value_eq, value_eq, digits]
    dsimp only
    split <;> ring
  generalize search : List.findSome? _ _ = widened
  cases widened with
  | some result =>
    obtain ⟨zeros, _, found⟩ := List.exists_of_findSome?_eq_some search
    split at found
    -- The zeros that are added and dropped again do not change the value.
    · cases found
      apply rounded_of_hundredth
      have digits : ((d.mantissa * tenPow zeros : Nat) : ℚ) / 10 ^ (d.scale + 2 + zeros) =
          d.mantissa / 10 ^ (d.scale + 2) := by
        rw [Nat.cast_mul, cast_tenPow, pow_add _ (d.scale + 2)]
        field_simp
      rw [value_div_hundred, value_shorten, value_eq, digits]
    · contradiction
  | none =>
    have full : ¬ d.scale + 2 ≤ 28 := by
      intro room
      have missed := List.findSome?_eq_none_iff.mp search 0 (by simp)
      rw [dif_pos ⟨by simpa using d.mantissa_lt, room⟩] at missed
      contradiction
    have places : (if d.scale = 28 then 100 else 10) = tenPow (d.scale + 2 - 28) := by
      have := d.scale_le
      obtain same | same : d.scale = 27 ∨ d.scale = 28 := by omega
      · rw [same]
        rfl
      · rw [same]
        rfl
    dsimp only
    rw [value_shorten, value_plainZero, value_div_hundred, value_eq]
    have dropped : Rounded 28 ((d.mantissa : ℚ) / 10 ^ (d.scale + 2)) _ :=
      .drop d.mantissa (by omega)
    rw [← places] at dropped
    exact dropped.signed _

theorem hundredth_mono {a b : Decimal} (le : a.value ≤ b.value) :
    a.hundredth.value ≤ b.hundredth.value :=
  (rounded_hundredth a).mono (div_le_div_of_nonneg_right le (by norm_num)) (rounded_hundredth b)

theorem roundCents_mono {a b : Decimal} (le : a.value ≤ b.value) :
    a.roundCents.value ≤ b.roundCents.value :=
  (rounded_roundCents a).mono le (rounded_roundCents b)

end Decimal
end Fulfilment
