import ChipEight.Single
import Mathlib.Algebra.Order.Ring.Nat

/-!
# Differences of Single-Precision Numbers

Nothing grows by taking away what is not below zero.

Of exact numbers this needs no proof. Here the difference is rounded, and rounding
goes up as often as down, so a difference just below the number could come out just
above it. That it does not is because rounding keeps the order and leaves alone what
needs no rounding: the exact difference is no larger than the number, so the rounded
one is no larger than the number rounded, which is the number itself.

Rounding keeps the order between numbers that lose the same count of binary digits,
because rounding a quotient does. Of two numbers that lose different counts, the lower
one is rounded up to the next power of two at most, and the higher one is rounded down
to its own power of two at least, which is no less.

Infinities and not-a-numbers have to be looked at one by one. All of them may be taken
away but negative infinity, and the difference is a not-a-number exactly if what was
taken away is one.

## Main definitions

* `Single.place`: The count of binary digits that a number loses by rounding.
* `Single.AtMost`: One number is no larger than another.

## Theorems

* `Single.roundQuotient_mono`, `Single.roundQuotient_mul`: Rounded quotients keep the
  order, and whole ones are left alone.
* `Single.magnitudeOfRatio_mono`, `Single.magnitudeOfRatio_unitsOf`: So do rounded numbers.
* `Single.isNaN_sub`: When a difference is not a number.
* `Single.sub_atMost`: A difference is no larger than what was there.
-/

namespace ChipEight

namespace Single

/-! ### Rounding -/

theorem roundQuotient_bounds (num den : Nat) :
    num / den ≤ roundQuotient num den ∧ roundQuotient num den ≤ num / den + 1 := by
  simp only [roundQuotient]
  split_ifs <;> omega

/-- More divided by the same is rounded to no less. -/
theorem roundQuotient_mono {num other : Nat} (le : num ≤ other) (den : Nat) :
    roundQuotient num den ≤ roundQuotient other den := by
  by_cases same : num / den = other / den
  · -- Only the remainders differ, and the larger one is nearer to the next quotient.
    have hnum := Nat.div_add_mod num den
    have hother := Nat.div_add_mod other den
    rw [same] at hnum
    simp only [roundQuotient, same]
    split_ifs <;> omega
  · have hquotient : num / den ≤ other / den := Nat.div_le_div_right le
    have hnum := (roundQuotient_bounds num den).2
    have hother := (roundQuotient_bounds other den).1
    omega

theorem roundQuotient_mul (quotient : Nat) {den : Nat} (positive : 0 < den) :
    roundQuotient (quotient * den) den = quotient := by
  simp [roundQuotient, Nat.mul_div_cancel _ positive, positive]

/-- The count of binary digits that a number of units loses, so that 24 are left. -/
def place (n : Nat) : Nat :=
  Nat.log2 n - 23

theorem magnitudeOfRatio_one (n : Nat) :
    magnitudeOfRatio n 1 =
      min infinityBits (place n * 0x800000 + roundQuotient n (2 ^ place n)) := by
  simp [magnitudeOfRatio, place, Nat.shiftLeft_eq]

theorem place_mono {n m : Nat} (le : n ≤ m) : place n ≤ place m := by
  by_cases zero : n = 0
  · simp [place, zero]
  · have hlog : Nat.log2 n ≤ Nat.log2 m :=
      (Nat.le_log2 (by omega)).mpr (Nat.le_trans (Nat.log2_self_le zero) le)
    unfold place
    omega

/-- What is left after rounding has 24 digits, or is the next power of two. -/
theorem roundQuotient_place_le (n : Nat) : roundQuotient n (2 ^ place n) ≤ 2 ^ 24 := by
  have hle : n ≤ 2 ^ 24 * 2 ^ place n := by
    refine Nat.le_of_lt (Nat.lt_of_lt_of_le Nat.lt_log2_self ?_)
    rw [← Nat.pow_add]
    refine Nat.pow_le_pow_right (by decide) ?_
    unfold place
    omega
  calc
    roundQuotient n (2 ^ place n) ≤ roundQuotient (2 ^ 24 * 2 ^ place n) (2 ^ place n) :=
      roundQuotient_mono hle _
    _ = 2 ^ 24 := roundQuotient_mul _ (Nat.two_pow_pos _)

/-- A number that loses digits has 24 of them left. -/
theorem le_roundQuotient_place {n : Nat} (rounded : 0 < place n) :
    2 ^ 23 ≤ roundQuotient n (2 ^ place n) := by
  have hlog : 23 + place n = Nat.log2 n := by
    unfold place at rounded ⊢
    omega
  have hle : 2 ^ 23 * 2 ^ place n ≤ n := by
    rw [← Nat.pow_add, hlog]
    refine Nat.log2_self_le fun zero => ?_
    rw [zero] at rounded
    exact absurd rounded (by decide)
  calc
    2 ^ 23 = roundQuotient (2 ^ 23 * 2 ^ place n) (2 ^ place n) :=
      (roundQuotient_mul _ (Nat.two_pow_pos _)).symm
    _ ≤ roundQuotient n (2 ^ place n) := roundQuotient_mono hle _

/-- Rounding keeps the order. -/
theorem magnitudeOfRatio_mono {n m : Nat} (le : n ≤ m) :
    magnitudeOfRatio n 1 ≤ magnitudeOfRatio m 1 := by
  rw [magnitudeOfRatio_one, magnitudeOfRatio_one]
  by_cases same : place n = place m
  · have hround := roundQuotient_mono le (2 ^ place m)
    rw [same]
    omega
  · -- The lower one reaches the next power of two at most.
    have hplace := place_mono le
    have hlower := roundQuotient_place_le n
    have hhigher := le_roundQuotient_place (n := m) (by omega)
    omega

/-- A number that is there already is left alone. -/
theorem magnitudeOfRatio_unitsOf {magnitude : Nat} (finite : magnitude < infinityBits) :
    magnitudeOfRatio (unitsOf magnitude) 1 = magnitude := by
  rw [magnitudeOfRatio_one]
  by_cases small : magnitude / 0x800000 = 0
  · -- Below the least exponent every number of units has less than 24 digits.
    have hunits : unitsOf magnitude = magnitude := by
      simp only [unitsOf, small]
      simp; omega
    have hplace : place magnitude = 0 := by
      by_cases zero : magnitude = 0
      · rw [zero]
        rfl
      · have hlog : Nat.log2 magnitude < 24 := (Nat.log2_lt zero).mpr (by omega)
        unfold place
        omega
    rw [hunits, hplace]
    have hround := roundQuotient_mul magnitude (Nat.two_pow_pos 0)
    rw [Nat.pow_zero, Nat.mul_one] at hround
    rw [Nat.pow_zero, hround]
    omega
  · have hunits : unitsOf magnitude =
        (0x800000 + magnitude % 0x800000) * 2 ^ (magnitude / 0x800000 - 1) := by
      simp only [unitsOf, small, Nat.shiftLeft_eq]
      simp
    have hplace : place (unitsOf magnitude) = magnitude / 0x800000 - 1 := by
      have hunits' : unitsOf magnitude ≠ 0 := by
        rw [hunits]
        exact Nat.ne_of_gt (Nat.mul_pos (by omega) (Nat.two_pow_pos _))
      have hlog : Nat.log2 (unitsOf magnitude) = 23 + (magnitude / 0x800000 - 1) := by
        rw [Nat.log2_eq_iff hunits', hunits, Nat.add_right_comm, Nat.pow_add, Nat.pow_add]
        exact ⟨Nat.mul_le_mul_right _ (by omega),
          Nat.mul_lt_mul_of_pos_right (by omega) (Nat.two_pow_pos _)⟩
      rw [place, hlog]
      omega
    rw [hplace, hunits, roundQuotient_mul _ (Nat.two_pow_pos _)]
    omega

/-! ### Bits -/

section ofMagnitude

variable (negative : Bool) {magnitude : Nat}

theorem toNat_bits_ofMagnitude (fits : magnitude < 0x80000000) :
    (ofMagnitude negative magnitude).bits.toNat =
      if negative then 0x80000000 + magnitude else magnitude := by
  rw [ofMagnitude, UInt32.toNat_ofNat']
  split
  · omega
  · omega

theorem magnitude_ofMagnitude (fits : magnitude < 0x80000000) :
    (ofMagnitude negative magnitude).magnitude = magnitude := by
  rw [Single.magnitude, toNat_bits_ofMagnitude negative fits]
  split
  · omega
  · omega

theorem isNegative_ofMagnitude (fits : magnitude < 0x80000000) :
    (ofMagnitude negative magnitude).isNegative = negative := by
  rw [isNegative, toNat_bits_ofMagnitude negative fits]
  cases negative with
  | true => simp
  | false => simp [fits]

theorem rank_ofMagnitude (fits : magnitude < 0x80000000) :
    (ofMagnitude negative magnitude).rank =
      if negative then -(magnitude : Int) else magnitude := by
  rw [rank, isNegative_ofMagnitude negative fits, magnitude_ofMagnitude negative fits]

end ofMagnitude

theorem magnitude_lt (a : Single) : a.magnitude < 0x80000000 :=
  Nat.mod_lt _ (by decide)

theorem magnitude_neg (a : Single) : a.neg.magnitude = a.magnitude :=
  magnitude_ofMagnitude _ a.magnitude_lt

theorem isNegative_neg (a : Single) : a.neg.isNegative = !a.isNegative :=
  isNegative_ofMagnitude _ a.magnitude_lt

theorem isNaN_neg (a : Single) : a.neg.isNaN = a.isNaN := by
  rw [isNaN, isNaN, magnitude_neg]

theorem isFinite_neg (a : Single) : a.neg.isFinite = a.isFinite := by
  rw [isFinite, isFinite, magnitude_neg]

theorem rank_neg (a : Single) : a.neg.rank = -a.rank := by
  rw [rank, rank, magnitude_neg, isNegative_neg]
  cases a.isNegative <;> simp

theorem value_neg (a : Single) : a.neg.value = -a.value := by
  rw [value, value, units, units, magnitude_neg, isNegative_neg]
  cases a.isNegative <;> simp

theorem isNaN_of_isFinite {a : Single} (finite : a.isFinite = true) : a.isNaN = false := by
  rw [isFinite, decide_eq_true_eq] at finite
  exact decide_eq_false (Nat.lt_asymm finite)

/-! ### Exact values -/

theorem magnitudeOfRatio_le (num den : Nat) : magnitudeOfRatio num den ≤ infinityBits :=
  Nat.min_le_left ..

/-- An exact value that is no more than a number of units is rounded to no more. -/
theorem rank_ofValue_le (negativeZero : Bool) {v : Int} {n : Nat} (le : v ≤ n) :
    (ofValue negativeZero v).rank ≤ magnitudeOfRatio n 1 := by
  have hfits : ∀ m, magnitudeOfRatio m 1 < 0x80000000 := fun m =>
    Nat.lt_of_le_of_lt (magnitudeOfRatio_le m 1) (by decide)
  unfold ofValue
  split
  · rw [rank_ofMagnitude _ (by decide)]
    split <;> simp
  · rw [ofRatio, rank_ofMagnitude _ (hfits _)]
    by_cases negative : v < 0
    · simp only [negative, decide_true, if_true]
      omega
    · have hmono : magnitudeOfRatio v.natAbs 1 ≤ magnitudeOfRatio n 1 :=
        magnitudeOfRatio_mono (by omega)
      simp only [negative, decide_false]
      simpa using hmono

theorem isNaN_ofValue (negativeZero : Bool) (v : Int) : (ofValue negativeZero v).isNaN = false := by
  have hnumber : ∀ negative magnitude, magnitude ≤ infinityBits →
      (ofMagnitude negative magnitude).isNaN = false := by
    intro negative magnitude le
    rw [isNaN, magnitude_ofMagnitude _ (Nat.lt_of_le_of_lt le (by decide))]
    exact decide_eq_false (Nat.not_lt.mpr le)
  unfold ofValue
  split
  · exact hnumber _ _ (by decide)
  · exact hnumber _ _ (magnitudeOfRatio_le _ 1)

/-! ### Differences -/

/-- One number is no larger than another. Nothing is no larger than a not-a-number, nor
    the other way round. -/
def AtMost (a b : Single) : Prop :=
  a.isNaN = false ∧ b.isNaN = false ∧ a.rank ≤ b.rank

instance (a b : Single) : Decidable (AtMost a b) :=
  inferInstanceAs (Decidable (_ ∧ _ ∧ _))

theorem AtMost.trans {a b c : Single} (first : a.AtMost b) (second : b.AtMost c) : a.AtMost c :=
  ⟨first.1, second.2.1, Int.le_trans first.2.2 second.2.2⟩

variable {a s : Single}

theorem sub_of_isNaN (nothing : s.isNaN = true) (a : Single) : a.sub s = nan := by
  rw [sub, add, isNaN_neg, nothing, Bool.or_true, if_pos rfl]

theorem sub_of_infinite (finite : a.isFinite = true) (number : s.isNaN = false)
    (infinite : s.isFinite = false) : a.sub s = s.neg := by
  rw [sub, add, isNaN_of_isFinite finite, isNaN_neg, number, finite, isFinite_neg, infinite]
  rfl

theorem sub_of_finite (ha : a.isFinite = true) (hs : s.isFinite = true) :
    a.sub s = ofValue (a.isNegative && !s.isNegative) (a.value - s.value) := by
  rw [sub, add, isNaN_of_isFinite ha, isNaN_neg, isNaN_of_isFinite hs, ha, isFinite_neg, hs,
    isNegative_neg, value_neg, Int.sub_eq_add_neg]
  rfl

/-- A difference from a finite number is a not-a-number exactly if what is taken away
    is one. -/
theorem isNaN_sub (finite : a.isFinite = true) (s : Single) : (a.sub s).isNaN = s.isNaN := by
  cases hnumber : s.isNaN with
  | true =>
      rw [sub_of_isNaN hnumber]
      decide
  | false =>
      cases hfinite : s.isFinite with
      | true =>
          rw [sub_of_finite finite hfinite]
          exact isNaN_ofValue ..
      | false => rw [sub_of_infinite finite hnumber hfinite, isNaN_neg, hnumber]

theorem rank_pos_iff (number : a.isNaN = false) : lt zero a = true ↔ 0 < a.rank := by
  have hzero : zero.isNaN = false ∧ zero.rank = 0 := by decide
  simp [lt, hzero, number]

theorem rank_nonneg_iff (number : s.isNaN = false) : lt s zero = false ↔ 0 ≤ s.rank := by
  have hzero : zero.isNaN = false ∧ zero.rank = 0 := by decide
  simp [lt, hzero, number]

theorem isNegative_of_rank_pos (positive : 0 < a.rank) : a.isNegative = false := by
  cases hnegative : a.isNegative with
  | false => rfl
  | true =>
      rw [rank, hnegative, if_pos rfl] at positive
      omega

theorem rank_of_unsigned (unsigned : a.isNegative = false) : a.rank = a.magnitude := by
  rw [rank, unsigned, if_neg Bool.false_ne_true]

theorem value_of_unsigned (unsigned : a.isNegative = false) : a.value = a.units := by
  rw [value, unsigned, if_neg Bool.false_ne_true]

/-- A number that is not below zero has no units below zero. The sign of a negative zero
    makes no difference. -/
theorem value_nonneg (nonneg : 0 ≤ s.rank) : 0 ≤ s.value := by
  cases hnegative : s.isNegative with
  | false =>
      rw [value_of_unsigned hnegative]
      omega
  | true =>
      rw [rank, hnegative, if_pos rfl] at nonneg
      have hzero : s.magnitude = 0 := by omega
      rw [value, units, hzero, hnegative]
      decide

/-- What is left of a finite number above zero is no larger than the number. -/
theorem sub_atMost (finite : a.isFinite = true) (positive : lt zero a = true)
    (number : s.isNaN = false) (falling : lt s zero = false) : (a.sub s).AtMost a := by
  have ha := isNaN_of_isFinite finite
  refine ⟨(isNaN_sub finite s).trans number, ha, ?_⟩
  have hpositive := (rank_pos_iff ha).mp positive
  have hnonneg := (rank_nonneg_iff number).mp falling
  cases hfinite : s.isFinite with
  | true =>
      -- The exact difference is no larger, and rounding keeps that.
      have hunsigned := isNegative_of_rank_pos hpositive
      have hvalue := value_nonneg hnonneg
      have hexact : a.value - s.value ≤ a.units := by
        rw [value_of_unsigned hunsigned]
        omega
      have hself : magnitudeOfRatio a.units 1 = a.magnitude :=
        magnitudeOfRatio_unitsOf (of_decide_eq_true finite)
      rw [sub_of_finite finite hfinite, rank_of_unsigned hunsigned, ← hself]
      exact rank_ofValue_le _ hexact
  | false =>
      -- Nothing is left but negative infinity.
      rw [sub_of_infinite finite number hfinite, rank_neg]
      omega

/-! ### Stopping at zero -/

theorem clampNegative_of_isNaN (nothing : a.isNaN = true) : a.clampNegative = zero := by
  rw [clampNegative, lt, nothing]
  rfl

theorem isNegative_clampNegative (a : Single) : a.clampNegative.isNegative = false := by
  unfold clampNegative
  split
  · rename_i positive
    cases hnumber : a.isNaN with
    | true =>
        rw [lt, hnumber] at positive
        cases positive
    | false => exact isNegative_of_rank_pos ((rank_pos_iff hnumber).mp positive)
  · rfl

/-- Stopping at zero leads nowhere above a number that is above zero. -/
theorem clampNegative_atMost {b : Single} (le : a.AtMost b) (positive : lt zero b = true) :
    a.clampNegative.AtMost b := by
  unfold clampNegative
  split
  · exact le
  · exact ⟨rfl, le.2.1, Int.le_of_lt ((rank_pos_iff le.2.1).mp positive)⟩

end Single

end ChipEight
