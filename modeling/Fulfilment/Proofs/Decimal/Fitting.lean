import Fulfilment.Proofs.Decimal.Rounding

/-! Results that keep as many fraction digits as they can.

Products and sums of numbers that are not negative are such results of their exact values. They
keep the order of these values: what is smaller may have more digits, but never so many that it
passes what is larger, and it has a result where the larger value has one. -/
namespace Fulfilment

/-- A value and what is left of it: it is rounded to fraction digits that fit, and is exact, at
the finest scale, or such that one digit more would not fit. -/
inductive Fitted (x result : ℚ) : Prop
  | intro (places mantissa : Nat) (places_le : places ≤ 28)
    (small : mantissa < Decimal.mantissaLimit) (nearest : HalfEven (x * 10 ^ places) mantissa)
    (value : result = mantissa / 10 ^ places)
    (finest : x * 10 ^ places = mantissa ∨ places = 28 ∨
      ∃ more : Nat, HalfEven (x * 10 ^ (places + 1)) more ∧ Decimal.mantissaLimit ≤ more)

namespace Fitted

variable {x y low high : ℚ}

theorem le_of_cut {m n more : Nat} (small : m < Decimal.mantissaLimit)
    (nearest : HalfEven x n) (cut : HalfEven (x * 10) more)
    (large : Decimal.mantissaLimit ≤ more) : m ≤ 10 * n := by
  have below := (abs_le.mp nearest.near).2
  have above := (abs_le.mp cut.near).1
  rw [Int.cast_natCast] at below above
  have twice : (2 * more : ℚ) ≤ 20 * n + 11 := by linarith
  have digits : 2 * more ≤ 20 * n + 11 := by exact_mod_cast twice
  simp only [Decimal.mantissaLimit] at small large
  omega

theorem positive_of_cut {more places : Nat} (cut : HalfEven (x * 10 ^ places) more)
    (large : Decimal.mantissaLimit ≤ more) : 0 < x := by
  have above := (abs_le.mp cut.near).1
  rw [Int.cast_natCast] at above
  have many : (1 : ℚ) ≤ more := by
    have : 1 ≤ more := Nat.le_trans (by decide) large
    exact_mod_cast this
  have scaled : 0 < x * 10 ^ places := by linarith
  exact pos_of_mul_pos_left scaled (by positivity)

theorem whole_at {coarse fine m : Nat} (le : coarse ≤ fine) (exact : x * 10 ^ coarse = m) :
    HalfEven (x * 10 ^ fine) (m * 10 ^ (fine - coarse) : Nat) := by
  have power : (10 : ℚ) ^ fine = 10 ^ coarse * 10 ^ (fine - coarse) := by
    rw [← pow_add, Nat.add_sub_cancel' le]
  have digits : x * 10 ^ fine = ((m * 10 ^ (fine - coarse) : Nat) : ℤ) := by
    rw [power, ← mul_assoc, exact]
    push_cast
    rfl
  rw [digits]
  exact .intCast _

theorem div_le_div_of_digits {m n i j : Nat} (coarser : i ≤ j) (digits : m * 10 ^ (j - i) ≤ n) :
    (m : ℚ) / 10 ^ i ≤ n / 10 ^ j := by
  have power : (10 : ℚ) ^ j = 10 ^ (j - i) * 10 ^ i := by
    rw [← pow_add, Nat.sub_add_cancel coarser]
  have units : (m : ℚ) * 10 ^ (j - i) ≤ n := by exact_mod_cast digits
  rw [div_le_div_iff₀ (by positivity) (by positivity), power, ← mul_assoc]
  exact mul_le_mul_of_nonneg_right units (by positivity)

theorem div_le_div_of_finer {m n i j : Nat} (finer : j ≤ i) (digits : m ≤ n * 10 ^ (i - j)) :
    (m : ℚ) / 10 ^ i ≤ n / 10 ^ j := by
  have power : (10 : ℚ) ^ i = 10 ^ (i - j) * 10 ^ j := by
    rw [← pow_add, Nat.sub_add_cancel finer]
  have units : (m : ℚ) ≤ n * 10 ^ (i - j) := by exact_mod_cast digits
  rw [div_le_div_iff₀ (by positivity) (by positivity), power, ← mul_assoc]
  exact mul_le_mul_of_nonneg_right units (by positivity)

theorem mono (le : x ≤ y) (lower : Fitted x low) (upper : Fitted y high) : low ≤ high := by
  obtain ⟨i, m, i_le, smallM, nearestM, rfl, finestM⟩ := lower
  obtain ⟨j, n, j_le, smallN, nearestN, rfl, finestN⟩ := upper
  have ordered (places : Nat) : x * 10 ^ places ≤ y * 10 ^ places :=
    mul_le_mul_of_nonneg_right le (by positivity)
  rcases lt_trichotomy i j with coarser | rfl | finer
  · rcases finestM with exact | last | ⟨more, cut, large⟩
    -- The smaller value is a whole number of the digits of the larger one, too.
    · apply div_le_div_of_digits coarser.le
      exact_mod_cast (whole_at coarser.le exact).mono (ordered j) nearestN
    · omega
    -- The larger value has no room for a digit that the smaller one had none for.
    · have positive := positive_of_cut cut large
      have grown : x * 10 ^ (i + 1) ≤ y * 10 ^ j := by
        apply mul_le_mul le (pow_le_pow_right₀ (by norm_num) coarser) (by positivity)
        exact positive.le.trans le
      have reached : more ≤ n := by exact_mod_cast cut.mono grown nearestN
      omega
  · apply div_le_div_of_digits le_rfl
    rw [Nat.sub_self, Nat.pow_zero, Nat.mul_one]
    exact_mod_cast nearestM.mono (ordered i) nearestN
  · apply div_le_div_of_finer finer.le
    rcases finestN with exact | last | ⟨more, cut, large⟩
    · exact_mod_cast nearestM.mono (ordered i) (whole_at finer.le exact)
    · omega
    · rw [pow_succ, ← mul_assoc] at cut
      have digits := le_of_cut smallM nearestN cut large
      have wide : 10 ≤ 10 ^ (i - j) := Nat.le_self_pow (by omega) 10
      rw [Nat.mul_comm] at digits
      exact digits.trans (Nat.mul_le_mul_left n wide)

theorem of_digits {places digits : Nat} (whole : x * 10 ^ places = digits)
    (small : digits < Decimal.mantissaLimit) (fine : places ≤ 28) : Fitted x x := by
  refine .intro places digits fine small ?_ ?_ (.inl whole)
  · rw [whole, ← Int.cast_natCast]
    exact .intCast _
  · rw [← whole]
    field_simp

/-- What fits as it is has no digit dropped. -/
theorem eq_of_digits (fitted : Fitted x low) {places digits : Nat} (whole : x * 10 ^ places = digits)
    (small : digits < Decimal.mantissaLimit) (fine : places ≤ 28) : low = x := by
  have same := of_digits whole small fine
  exact le_antisymm (fitted.mono le_rfl same) (same.mono le_rfl fitted)

theorem self {d : Decimal} (nonneg : 0 ≤ d.value) : Fitted d.value d.value := by
  have measures := Decimal.measures_of_nonneg le_rfl nonneg
  rw [Decimal.digitsAt, Nat.sub_self, Decimal.tenPow_zero, Nat.mul_one] at measures
  exact of_digits measures.whole d.mantissa_lt d.scale_le

theorem whole_lt {n : Nat} (nonneg : 0 ≤ y) (fitted : Fitted y high) (nearest : HalfEven x n)
    (le : x ≤ y) : n < Decimal.mantissaLimit := by
  obtain ⟨places, m, _, small, rounded, _, _⟩ := fitted
  have wide : (1 : ℚ) ≤ 10 ^ places := one_le_pow₀ (by norm_num)
  have grown : x ≤ y * 10 ^ places := le.trans (le_mul_of_one_le_right nonneg wide)
  have within : n ≤ m := by exact_mod_cast nearest.mono grown rounded
  omega

end Fitted

/-- The outcome of an operation with the given exact value: it fits, and is missing only where
nothing would. -/
structure Computes (x : ℚ) (outcome : Option Decimal) : Prop where
  nonneg : ∀ d, outcome = some d → 0 ≤ d.value
  fitted : ∀ d, outcome = some d → Fitted x d.value
  succeeds : ∀ y result, x ≤ y → Fitted y result → ∃ d, outcome = some d

namespace Computes

variable {x y : ℚ} {first second : Option Decimal}

/-- Of two outcomes that one of the smaller value exists where the other one does, and is no
larger. -/
theorem mono (le : x ≤ y) (lower : Computes x first) (upper : Computes y second) {high : Decimal}
    (ok : second = some high) : ∃ low, first = some low ∧ 0 ≤ low.value ∧ low.value ≤ high.value := by
  have larger := upper.fitted high ok
  obtain ⟨low, found⟩ := lower.succeeds y high.value le larger
  exact ⟨low, found, lower.nonneg low found, (lower.fitted low found).mono le larger⟩

theorem self {d : Decimal} (nonneg : 0 ≤ d.value) : Computes d.value (some d) := by
  refine ⟨?_, ?_, fun _ _ _ _ => ⟨d, rfl⟩⟩
  · intro e found
    exact Option.some.inj found ▸ nonneg
  · intro e found
    exact Option.some.inj found ▸ .self nonneg

theorem exact (computes : Computes x first) {places digits : Nat}
    (whole : x * 10 ^ places = digits) (small : digits < Decimal.mantissaLimit)
    (fine : places ≤ 28) : ∃ d, first = some d ∧ d.value = x := by
  obtain ⟨d, found⟩ := computes.succeeds x x le_rfl (.of_digits whole small fine)
  exact ⟨d, found, (computes.fitted d found).eq_of_digits whole small fine⟩

theorem congr (same : first.map Decimal.value = second.map Decimal.value)
    (computes : Computes x second) : Computes x first := by
  have transfer : ∀ d, first = some d → ∃ e, second = some e ∧ e.value = d.value := by
    rintro d rfl
    exact Option.map_eq_some_iff.mp same.symm
  refine ⟨?_, ?_, ?_⟩
  · intro d found
    obtain ⟨e, other, value⟩ := transfer d found
    exact value ▸ computes.nonneg e other
  · intro d found
    obtain ⟨e, other, value⟩ := transfer d found
    exact value ▸ computes.fitted e other
  · intro y result le fits
    obtain ⟨e, other⟩ := computes.succeeds y result le fits
    rw [other] at same
    obtain ⟨d, found, _⟩ := Option.map_eq_some_iff.mp same
    exact ⟨d, found⟩

end Computes

namespace Decimal

theorem value_of_ofNat? {n : Nat} {d : Decimal} (found : ofNat? n = some d) : d.value = n := by
  unfold ofNat? at found
  split at found
  · cases found
    simp [value]
  · contradiction

theorem lt_of_ofNat? {n : Nat} {d : Decimal} (found : ofNat? n = some d) : n < mantissaLimit := by
  by_contra large
  rw [ofNat?, dif_neg large] at found
  contradiction

theorem computes_ofNat? (n : Nat) : Computes n (ofNat? n) := by
  cases found : ofNat? n with
  | some d =>
    rw [← value_of_ofNat? found]
    exact .self ((value_of_ofNat? found).symm ▸ Nat.cast_nonneg n)
  | none =>
    have large : ¬ n < mantissaLimit := by
      intro small
      rw [ofNat?, dif_pos small] at found
      contradiction
    refine ⟨fun _ found => by contradiction, fun _ found => by contradiction, ?_⟩
    intro y result le fitted
    exact absurd (fitted.whole_lt ((Nat.cast_nonneg n).trans le) (.intCast n) le) large

theorem fit?_eq_some {negative : Bool} {m s : Nat} {d : Decimal} (found : fit? negative m s = some d) :
    ∃ dropped ≤ s, d.negative = negative ∧ d.mantissa = roundHalfEven m (tenPow dropped) ∧
      d.scale = s - dropped ∧ ∀ fewer < dropped,
        roundHalfEven m (tenPow fewer) < mantissaLimit → 28 + fewer < s := by
  obtain ⟨before, dropped, after, split, fits, earlier⟩ := List.findSome?_eq_some_iff.mp found
  rw [List.range_eq_range'] at split
  obtain ⟨taken, _, rfl, rest⟩ := List.range'_eq_append_iff.mp split
  obtain ⟨place, some, _⟩ := List.range'_eq_cons_iff.mp rest.symm
  obtain rfl : dropped = taken := by omega
  split at fits
  · cases fits
    refine ⟨dropped, by omega, rfl, rfl, rfl, ?_⟩
    intro fewer before small
    have missed := earlier fewer (by simpa using before)
    by_contra within
    rw [dif_pos ⟨small, by omega⟩] at missed
    contradiction
  · contradiction

theorem exists_fit? (negative : Bool) {m s : Nat} (small : roundHalfEven m (tenPow s) < mantissaLimit) :
    ∃ d, fit? negative m s = some d := by
  by_contra missing
  have none : fit? negative m s = none := by
    rw [Option.eq_none_iff_forall_ne_some]
    exact fun d found => missing ⟨d, found⟩
  have last := List.findSome?_eq_none_iff.mp none s (by simp)
  rw [dif_pos ⟨small, by omega⟩] at last
  contradiction

theorem computes_fit? (m s : Nat) : Computes (m / 10 ^ s) (fit? false m s) := by
  refine ⟨?_, ?_, ?_⟩
  · intro d found
    obtain ⟨_, _, sign, _⟩ := fit?_eq_some found
    exact value_nonneg sign
  · intro d found
    obtain ⟨dropped, le, sign, mantissa, scale, earlier⟩ := fit?_eq_some found
    have kept : s - d.scale = dropped := by omega
    refine .intro d.scale d.mantissa d.scale_le d.mantissa_lt ?_ (by simp [value, sign]) ?_
    · rw [mantissa, ← kept]
      exact .drop m (by omega)
    · cases dropped with
      | zero =>
        left
        rw [mantissa, tenPow_zero, roundHalfEven_one, scale, Nat.sub_zero]
        field_simp
      -- One digit more was tried before and did not fit.
      | succ fewer =>
        right
        by_cases small : roundHalfEven m (tenPow fewer) < mantissaLimit
        · have deep := earlier fewer (Nat.lt_succ_self fewer) small
          have bound := d.scale_le
          exact .inl (by omega)
        · refine .inr ⟨roundHalfEven m (tenPow fewer), ?_, Nat.not_lt.mp small⟩
          have next : s - (d.scale + 1) = fewer := by omega
          rw [← next]
          exact .drop m (by omega)
  · intro y result le fitted
    apply exists_fit?
    have nearest := HalfEven.roundHalfEven m (tenPow_pos s)
    rw [cast_tenPow] at nearest
    exact fitted.whole_lt (le_trans (by positivity) le) nearest le

theorem tenPow_le_tenPow {m n : Nat} (le : m ≤ n) : tenPow m ≤ tenPow n :=
  Nat.pow_le_pow_right (by decide) le

theorem roundHalfEven_eq_zero {n d : Nat} (tiny : 2 * n < d) : roundHalfEven n d = 0 := by
  have quotient : n / d = 0 := Nat.div_eq_of_lt (by omega)
  have left : n % d = n := Nat.mod_eq_of_lt (by omega)
  rw [roundHalfEven, quotient, left, if_neg (by omega)]

theorem map_value_fit?_of_tiny (negative : Bool) {m s : Nat} (tiny : 2 * m < tenPow (s - 28)) :
    (fit? negative m s).map value = some 0 := by
  have vanishes {dropped : Nat} (many : s - 28 ≤ dropped) : roundHalfEven m (tenPow dropped) = 0 :=
    roundHalfEven_eq_zero (Nat.lt_of_lt_of_le tiny (tenPow_le_tenPow many))
  obtain ⟨d, found⟩ := exists_fit? negative (m := m) (s := s) (by rw [vanishes (by omega)]; decide)
  obtain ⟨dropped, _, _, mantissa, scale, _⟩ := fit?_eq_some found
  have bound := d.scale_le
  rw [vanishes (by omega)] at mantissa
  rw [found, Option.map_some, value_of_mantissa_eq_zero mantissa]

/-- A product is what fits of the exact one, in whichever way it is computed. -/
theorem map_value_mul? (a b : Decimal) : (a.mul? b).map value =
    (fit? (a.negative != b.negative) (a.mantissa * b.mantissa) (a.scale + b.scale)).map value := by
  unfold mul?
  split
  · rename_i nothing
    have none : a.mantissa * b.mantissa = 0 := Nat.mul_eq_zero.mpr nothing
    rw [none, map_value_fit?_of_tiny _ (tenPow_pos _), Option.map_some, value_zero]
  dsimp only
  split
  · rename_i short
    split
    -- What is cut off as a plain zero would have been rounded to one.
    · rename_i long
      have product : a.mantissa * b.mantissa ≤ 4294967295 * 4294967295 :=
        Nat.mul_le_mul (by omega) (by omega)
      have power : tenPow 20 ≤ tenPow (a.scale + b.scale - 28) := tenPow_le_tenPow (by omega)
      have size : tenPow 20 = 100000000000000000000 := rfl
      rw [map_value_fit?_of_tiny _ (by omega), Option.map_some, value_zero]
    · rw [Option.map_map]
      congr 1
      funext d
      exact d.value_plainZero
  · rfl

theorem value_unsigned {d : Decimal} (sign : d.negative = false) :
    d.value = d.mantissa / 10 ^ d.scale := by
  rw [value, sign]
  rfl

theorem computes_mul? {a b : Decimal} (first : 0 ≤ a.value) (second : 0 ≤ b.value) :
    Computes (a.value * b.value) (a.mul? b) := by
  by_cases nothing : a.mantissa = 0 ∨ b.mantissa = 0
  · have product : a.value * b.value = zero.value := by
      rcases nothing with none | none
      · rw [value_of_mantissa_eq_zero none, zero_mul, value_zero]
      · rw [value_of_mantissa_eq_zero none, mul_zero, value_zero]
    rw [mul?, if_pos nothing, product]
    exact .self value_zero.ge
  · obtain ⟨some, other⟩ := not_or.mp nothing
    have left := (measures_of_nonneg le_rfl first).positive some
    have right := (measures_of_nonneg le_rfl second).positive other
    have product : a.value * b.value =
        (a.mantissa * b.mantissa : Nat) / 10 ^ (a.scale + b.scale) := by
      rw [value_unsigned left, value_unsigned right, div_mul_div_comm, Nat.cast_mul, pow_add]
    have same := map_value_mul? a b
    rw [left, right] at same
    rw [product]
    exact (computes_fit? _ _).congr same

theorem mul?_exact {a b : Decimal} (small : a.mantissa * b.mantissa < mantissaLimit)
    (fine : a.scale + b.scale ≤ 28) : ∃ c, a.mul? b = some c ∧ c.value = a.value * b.value := by
  obtain ⟨d, fits, sign, mantissa, scale⟩ := fit?_exact (a.negative != b.negative) small fine
  have same := map_value_mul? a b
  rw [fits, Option.map_some] at same
  obtain ⟨c, found, value⟩ := Option.map_eq_some_iff.mp same
  refine ⟨c, found, ?_⟩
  rw [value, value_eq, value_eq, value_eq, sign, mantissa, scale, Nat.cast_mul, pow_add,
    ← div_mul_div_comm]
  cases a.negative <;> cases b.negative <;> simp

theorem computes_add? {a b : Decimal} (first : 0 ≤ a.value) (second : 0 ≤ b.value) :
    Computes (a.value + b.value) (a.add? b) := by
  by_cases none : a.mantissa = 0
  · rw [add?, if_pos none, value_of_mantissa_eq_zero none, zero_add]
    exact .self second
  by_cases nothing : b.mantissa = 0
  · rw [add?, if_neg none, if_pos nothing, value_of_mantissa_eq_zero nothing, add_zero]
    exact .self first
  have left := (measures_of_nonneg le_rfl first).positive none
  have right := (measures_of_nonneg le_rfl second).positive nothing
  have sum : a.value + b.value =
      (a.digitsAt (max a.scale b.scale) + b.digitsAt (max a.scale b.scale) : Nat) /
        10 ^ max a.scale b.scale := by
    rw [(measures_of_unsigned left (Nat.le_max_left _ _) rfl).value_eq,
      (measures_of_unsigned right (Nat.le_max_right _ _) rfl).value_eq, ← add_div, Nat.cast_add]
  rw [add?_of_positive none nothing left right, sum]
  exact computes_fit? _ _

section Growing

variable {a b c d : Decimal} (first : 0 ≤ a.value) (second : 0 ≤ b.value)
  (more : a.value ≤ c.value) (other : b.value ≤ d.value)

include first second more other

theorem mul?_mono {high : Decimal} (ok : c.mul? d = some high) :
    ∃ low, a.mul? b = some low ∧ 0 ≤ low.value ∧ low.value ≤ high.value :=
  (computes_mul? first second).mono (mul_le_mul more other second (first.trans more))
    (computes_mul? (first.trans more) (second.trans other)) ok

theorem add?_mono {high : Decimal} (ok : c.add? d = some high) :
    ∃ low, a.add? b = some low ∧ 0 ≤ low.value ∧ low.value ≤ high.value :=
  (computes_add? first second).mono (add_le_add more other)
    (computes_add? (first.trans more) (second.trans other)) ok

end Growing

theorem multiple_mono {d : Decimal} (nonneg : 0 ≤ d.value) {m n : Nat} (le : m ≤ n) {high : Decimal}
    (ok : (ofNat? n).bind d.mul? = some high) :
    ∃ low, (ofNat? m).bind d.mul? = some low ∧ 0 ≤ low.value ∧ low.value ≤ high.value := by
  obtain ⟨larger, counted, multiplied⟩ := Option.bind_eq_some_iff.mp ok
  have times : (m : ℚ) ≤ n := by exact_mod_cast le
  obtain ⟨smaller, found, positive, less⟩ :=
    (computes_ofNat? m).mono times (computes_ofNat? n) counted
  obtain ⟨low, product, above, below⟩ := mul?_mono nonneg positive le_rfl less multiplied
  exact ⟨low, by rw [found, Option.bind_some, product], above, below⟩

end Decimal
end Fulfilment
