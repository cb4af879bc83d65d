import FieldPipeline.Decimal.Shortest
import Mathlib.Algebra.Order.Field.Power
import Mathlib.Algebra.Order.Field.Rat
import Mathlib.Algebra.Order.Group.Nat
import Mathlib.Data.Nat.Cast.Order.Field
import Mathlib.Tactic.FieldSimp
import Mathlib.Tactic.Linarith
import Mathlib.Tactic.NormNum.Pow
import Mathlib.Tactic.Positivity
import Mathlib.Tactic.Ring

namespace FieldPipeline.Double

section Grid

/-- The significand, the exponent and the reach belong to the magnitude, all bits but the sign. -/
def sig (b : Nat) : Nat :=
  if b / 2 ^ 52 = 0 then b % 2 ^ 52 else 2 ^ 52 + b % 2 ^ 52

def pow (b : Nat) : Int :=
  (max (b / 2 ^ 52) 1 : Nat) - 1075

def below (b : Nat) : Nat :=
  if sig b = 2 ^ 52 ∧ 1 < b / 2 ^ 52 then 1 else 2

/-- Where the reach begins. -/
def lower (b : Nat) : ℚ :=
  (4 * sig b - below b) * 2 ^ (pow b - 2)

/-- Where the reach ends. -/
def upper (b : Nat) : ℚ :=
  (4 * sig b + 2) * 2 ^ (pow b - 2)

theorem sig_mod_two (b : Nat) : sig b % 2 = b % 2 := by
  unfold sig
  split <;> omega

theorem sig_lt (b : Nat) : sig b < 2 ^ 53 := by
  unfold sig
  split <;> omega

/-- A reach ends where the next one begins. -/
theorem lower_succ (b : Nat) : lower (b + 1) = upper b := by
  unfold lower upper
  by_cases wrap : b % 2 ^ 52 = 2 ^ 52 - 1
  · by_cases first : b / 2 ^ 52 = 0
    · have sigs : sig b = 2 ^ 52 - 1 ∧ sig (b + 1) = 2 ^ 52 := by
        unfold sig
        constructor <;> split <;> omega
      have pows : pow (b + 1) = pow b := by
        unfold pow
        omega
      have step : below (b + 1) = 2 := by
        unfold below
        rw [if_neg]
        omega
      rw [sigs.1, sigs.2, pows, step]
      norm_num
    · have sigs : sig b = 2 ^ 53 - 1 ∧ sig (b + 1) = 2 ^ 52 := by
        unfold sig
        constructor <;> split <;> omega
      have pows : pow (b + 1) - 2 = pow b - 2 + 1 := by
        unfold pow
        omega
      have step : below (b + 1) = 1 := by
        unfold below
        rw [if_pos]
        omega
      rw [sigs.1, sigs.2, pows, step, zpow_add₀ (by norm_num)]
      norm_num
      ring
  · have sigs : sig (b + 1) = sig b + 1 := by
      unfold sig
      split <;> split <;> omega
    have pows : pow (b + 1) = pow b := by
      unfold pow
      omega
    have step : below (b + 1) = 2 := by
      unfold below
      rw [if_neg]
      rw [sigs]
      unfold sig
      split <;> omega
    rw [sigs, pows, step]
    push_cast
    ring

theorem lower_lt_upper (b : Nat) : lower b < upper b := by
  unfold lower upper
  have positive : (0 : ℚ) < 2 ^ (pow b - 2) := by positivity
  have step : (0 : ℚ) < below b := by
    unfold below
    split <;> norm_num
  nlinarith

theorem upper_strictMono : StrictMono upper := by
  refine strictMono_nat_of_lt_succ fun b => ?_
  rw [← lower_succ]
  exact lower_lt_upper (b + 1)

/-- The numbers that round to a magnitude; the ends do if it is even. -/
def Within (b : Nat) (x : ℚ) : Prop :=
  if b % 2 = 0 then lower b ≤ x ∧ x ≤ upper b else lower b < x ∧ x < upper b

theorem Within.bounds {b : Nat} {x : ℚ} (h : Within b x) : lower b ≤ x ∧ x ≤ upper b := by
  unfold Within at h
  split at h
  · exact h
  · exact ⟨h.1.le, h.2.le⟩

theorem Within.le {b b' : Nat} {x : ℚ} (h : Within b x) (h' : Within b' x) : b' ≤ b := by
  by_contra later
  obtain ⟨c, rfl⟩ : ∃ c, b' = c + 1 := ⟨b' - 1, by omega⟩
  have order : upper b ≤ upper c := upper_strictMono.monotone (by omega)
  have begins := lower_succ c
  -- The reaches are apart or have an end in common, which cannot belong to both.
  by_cases odd : b % 2 = 0
  · by_cases odd' : (c + 1) % 2 = 0
    · have apart : upper b < upper c := upper_strictMono (by omega)
      linarith [h.bounds.2, h'.bounds.1]
    · rw [Within, if_neg odd'] at h'
      linarith [h.bounds.2, h'.1]
  · rw [Within, if_neg odd] at h
    linarith [h.2, h'.bounds.1]

/-- A number rounds to one magnitude. -/
theorem Within.unique {b b' : Nat} {x : ℚ} (h : Within b x) (h' : Within b' x) : b = b' :=
  Nat.le_antisymm (h'.le h) (h.le h')

end Grid

/-- The bits below the sign. -/
def magnitudeBits (d : Double) : Nat :=
  d.bits.toNat % 2 ^ 63

theorem exponentField_eq (d : Double) : d.exponentField = d.magnitudeBits / 2 ^ 52 := by
  have size := d.bits.toNat_lt
  change d.bits.toNat / 2 ^ 52 % 2 ^ 11 = d.bits.toNat % 2 ^ 63 / 2 ^ 52
  omega

theorem fractionField_eq (d : Double) : d.fractionField = d.magnitudeBits % 2 ^ 52 := by
  change d.bits.toNat % 2 ^ 52 = d.bits.toNat % 2 ^ 63 % 2 ^ 52
  omega

theorem significand_eq (d : Double) : d.significand = sig d.magnitudeBits := by
  unfold significand sig
  rw [exponentField_eq, fractionField_eq]
  rfl

theorem exponent_eq (d : Double) : d.exponent = pow d.magnitudeBits := by
  unfold exponent pow
  rw [exponentField_eq]

theorem isZero_iff (d : Double) : d.isZero = true ↔ d.magnitudeBits = 0 := by
  unfold isZero
  rw [exponentField_eq, fractionField_eq, Bool.and_eq_true, beq_iff_eq, beq_iff_eq]
  omega

/-- Sign and magnitude are all there is. -/
theorem eq_of_magnitudeBits {d d' : Double} (sign : d.negative = d'.negative)
    (same : d.magnitudeBits = d'.magnitudeBits) : d = d' := by
  have size := d.bits.toNat_lt
  have size' := d'.bits.toNat_lt
  have sign' : 2 ^ 63 ≤ d.bits.toNat ↔ 2 ^ 63 ≤ d'.bits.toNat := decide_eq_decide.mp sign
  unfold magnitudeBits at same
  have bits : d.bits.toNat = d'.bits.toNat := by omega
  obtain ⟨bits₁⟩ := d
  obtain ⟨bits₂⟩ := d'
  exact congrArg Double.mk (UInt64.toNat_inj.mp bits)

theorem sig_pos {b : Nat} (h : b ≠ 0) : 0 < sig b := by
  unfold sig
  split <;> omega

/-- A power with an integer exponent, as numerator and denominator. -/
theorem zpow_eq_div {a : ℚ} (h : a ≠ 0) (k : Int) : a ^ k = a ^ k.toNat / a ^ (-k).toNat := by
  rw [eq_div_iff (pow_ne_zero _ h), ← zpow_natCast, ← zpow_natCast, ← zpow_add₀ h]
  congr 1
  omega

section Reach

variable {d : Double}

theorem reach_den_pos (d : Double) : (0 : ℚ) < d.reach.den := by
  change (0 : ℚ) < ((2 ^ _ : Nat) : ℚ)
  positivity

theorem reach_unit (d : Double) (a : ℚ) :
    a * 2 ^ (d.exponent - 2).toNat / d.reach.den = a * 2 ^ (pow d.magnitudeBits - 2) := by
  have den : (d.reach.den : ℚ) = 2 ^ (-(d.exponent - 2)).toNat := by
    change ((2 ^ _ : Nat) : ℚ) = _
    push_cast
    rfl
  rw [den, mul_div_assoc, ← zpow_eq_div (by norm_num), exponent_eq]

theorem reach_low (nonzero : d.magnitudeBits ≠ 0) :
    (d.reach.low : ℚ) / d.reach.den = lower d.magnitudeBits := by
  have low : (d.reach.low : ℚ) =
      (4 * sig d.magnitudeBits - below d.magnitudeBits) * 2 ^ (d.exponent - 2).toNat := by
    have positive := sig_pos nonzero
    have step : d.reach.low =
        (4 * sig d.magnitudeBits - below d.magnitudeBits) * 2 ^ (d.exponent - 2).toNat := by
      unfold below
      rw [← significand_eq, ← exponentField_eq]
      rfl
    have small : below d.magnitudeBits ≤ 4 * sig d.magnitudeBits := by
      unfold below
      split <;> omega
    rw [step]
    push_cast [Nat.cast_sub small]
    rfl
  rw [low, reach_unit]
  rfl

theorem reach_high (d : Double) : (d.reach.high : ℚ) / d.reach.den = upper d.magnitudeBits := by
  have high : (d.reach.high : ℚ) =
      (4 * sig d.magnitudeBits + 2) * 2 ^ (d.exponent - 2).toNat := by
    have step : d.reach.high = (4 * sig d.magnitudeBits + 2) * 2 ^ (d.exponent - 2).toNat := by
      rw [← significand_eq]
      rfl
    rw [step]
    push_cast
    rfl
  rw [high, reach_unit]
  rfl

theorem reach_value (d : Double) : (d.reach.value : ℚ) / d.reach.den =
    4 * sig d.magnitudeBits * 2 ^ (pow d.magnitudeBits - 2) := by
  have value : (d.reach.value : ℚ) = 4 * sig d.magnitudeBits * 2 ^ (d.exponent - 2).toNat := by
    have step : d.reach.value = 4 * sig d.magnitudeBits * 2 ^ (d.exponent - 2).toNat := by
      rw [← significand_eq]
      rfl
    rw [step]
    push_cast
    rfl
  rw [value, reach_unit]

theorem decimal_scaled (d : Double) (n : Nat) (k : Int) :
    ((n * pow10 k.toNat * d.reach.den : Nat) : ℚ) =
      n * 10 ^ k * (d.reach.den * 10 ^ (-k).toNat) := by
  have ten : (10 : ℚ) ^ (-k).toNat ≠ 0 := pow_ne_zero _ (by norm_num)
  change ((n * 10 ^ k.toNat * d.reach.den : Nat) : ℚ) = _
  rw [zpow_eq_div (by norm_num)]
  push_cast
  field_simp

theorem bound_scaled (d : Double) (a : Nat) (k : Int) :
    ((a * pow10 (-k).toNat : Nat) : ℚ) =
      a / d.reach.den * (d.reach.den * 10 ^ (-k).toNat) := by
  have den := (reach_den_pos d).ne'
  change ((a * 10 ^ (-k).toNat : Nat) : ℚ) = _
  push_cast
  field_simp

theorem scale_pos (d : Double) (k : Int) : (0 : ℚ) < d.reach.den * 10 ^ (-k).toNat :=
  mul_pos (reach_den_pos d) (by positivity)

/-- The decimals of a reach, as rational numbers. -/
theorem holds_iff (nonzero : d.magnitudeBits ≠ 0) (n : Nat) (k : Int) :
    d.reach.holds n k = true ↔ Within d.magnitudeBits (n * 10 ^ k) := by
  have closed : d.reach.closed = decide (d.magnitudeBits % 2 = 0) := by
    change decide (d.significand % 2 = 0) = _
    rw [significand_eq, sig_mod_two]
  have positive := scale_pos d k
  unfold Reach.holds Within
  rw [closed, ← reach_low nonzero, ← reach_high]
  by_cases even : d.magnitudeBits % 2 = 0
  · simp only [even, decide_true, if_true, Bool.and_eq_true, decide_eq_true_eq]
    rw [← Nat.cast_le (α := ℚ), ← Nat.cast_le (α := ℚ), decimal_scaled, bound_scaled, bound_scaled,
      mul_le_mul_iff_of_pos_right positive, mul_le_mul_iff_of_pos_right positive]
  · simp only [even, decide_false, Bool.false_eq_true, if_false, Bool.and_eq_true,
      decide_eq_true_eq]
    rw [← Nat.cast_lt (α := ℚ), ← Nat.cast_lt (α := ℚ), decimal_scaled, bound_scaled, bound_scaled,
      mul_lt_mul_iff_of_pos_right positive, mul_lt_mul_iff_of_pos_right positive]

end Reach

section Shortest

variable {d : Double}

theorem value_pos (nonzero : d.magnitudeBits ≠ 0) : 0 < d.reach.value := by
  have step : d.reach.value = 4 * sig d.magnitudeBits * 2 ^ (d.exponent - 2).toNat := by
    rw [← significand_eq]
    rfl
  have positive := sig_pos nonzero
  rw [step]
  positivity

theorem den_le (d : Double) : d.reach.den ≤ pow10 400 := by
  have power {n : Nat} (h : (-(d.exponent - 2)).toNat ≤ 3 * n) : d.reach.den ≤ pow10 n :=
    calc 2 ^ (-(d.exponent - 2)).toNat ≤ 2 ^ (3 * n) := Nat.pow_le_pow_right (by decide) h
      _ = 8 ^ n := by rw [Nat.pow_mul]
      _ ≤ 10 ^ n := Nat.pow_le_pow_left (by decide) n
  apply power
  unfold exponent
  omega

/-- The first of the digits of a quotient counts. -/
theorem firstDigit_le {value den places : Nat} (hv : 0 < value) (hd : 0 < den)
    (small : den ≤ pow10 places) :
    (10 : ℚ) ^ ((Nat.toDigits 10 (value * pow10 places / den)).length - (places : Int) - 1) ≤
      value / den := by
  let size := value * pow10 places / den
  have some_ : 0 < size := Nat.div_pos (small.trans (Nat.le_mul_of_pos_left _ hv)) hd
  have first : 10 ^ ((Nat.toDigits 10 size).length - 1) ≤ size := by
    by_contra short
    rcases Nat.eq_zero_or_pos ((Nat.toDigits 10 size).length - 1) with one | more
    · rw [one] at short
      omega
    · have fits := (Nat.length_toDigits_le_iff (by decide) more).mpr (not_le.mp short)
      omega
  have exponents : (Nat.toDigits 10 size).length - (places : Int) - 1 =
      ((Nat.toDigits 10 size).length - 1 : Nat) - (places : Int) := by
    have digits : 0 < (Nat.toDigits 10 size).length := Nat.length_toDigits_pos
    omega
  rw [exponents, zpow_sub₀ (by norm_num), zpow_natCast, zpow_natCast,
    div_le_iff₀ (pow_pos (by norm_num) places)]
  calc (10 : ℚ) ^ ((Nat.toDigits 10 size).length - 1) ≤ size := by exact_mod_cast first
    _ ≤ ((value * pow10 places : Nat) : ℚ) / den := Nat.cast_div_le
    _ = value / den * 10 ^ places := by
      change ((value * 10 ^ places : Nat) : ℚ) / den = _
      push_cast
      ring

theorem wholeDigits_le (nonzero : d.magnitudeBits ≠ 0) :
    (10 : ℚ) ^ (d.reach.wholeDigits - 1) ≤ d.reach.value / d.reach.den :=
  firstDigit_le (value_pos nonzero) (by exact_mod_cast reach_den_pos d) (den_le d)

/-- Rounding down to a grid. -/
theorem floor_bounds (d : Double) (k : Int) :
    (d.reach.floor k : ℚ) * 10 ^ k ≤ d.reach.value / d.reach.den ∧
      (d.reach.value : ℚ) / d.reach.den < (d.reach.floor k + 1 : Nat) * 10 ^ k := by
  have positive := scale_pos d k
  have size : 0 < d.reach.den * pow10 k.toNat :=
    Nat.mul_pos (by exact_mod_cast reach_den_pos d) (Nat.pow_pos (by decide))
  constructor
  · rw [← mul_le_mul_iff_of_pos_right positive, ← decimal_scaled, ← bound_scaled, Nat.cast_le,
      Nat.mul_assoc, Nat.mul_comm (pow10 k.toNat)]
    exact Nat.div_mul_le_self _ _
  · rw [← mul_lt_mul_iff_of_pos_right positive, ← decimal_scaled, ← bound_scaled, Nat.cast_lt,
      Nat.mul_assoc, Nat.mul_comm (pow10 k.toNat), Nat.mul_comm (d.reach.floor k + 1)]
    exact Nat.lt_mul_div_succ _ size

/-- On a grid of seventeen digits some decimal rounds to the float. -/
theorem onGrid?_seventeen (nonzero : d.magnitudeBits ≠ 0) :
    d.reach.onGrid? (d.reach.wholeDigits - 17) ≠ none := by
  intro missed
  let k := d.reach.wholeDigits - 17
  obtain ⟨down, up⟩ := floor_bounds d k
  have first := wholeDigits_le nonzero
  have outside : ¬ Within d.magnitudeBits (d.reach.floor k * 10 ^ k) ∧
      ¬ Within d.magnitudeBits ((d.reach.floor k + 1 : Nat) * 10 ^ k) := by
    rw [← holds_iff nonzero, ← holds_iff nonzero]
    simp only [Reach.onGrid?] at missed
    split at missed
    · cases missed
    · cases missed
    · cases missed
    · next low high => exact ⟨by simp [k, low], by simp [k, high]⟩
  rw [reach_value] at down up first
  have unit : (0 : ℚ) < 2 ^ (pow d.magnitudeBits - 2) := by positivity
  have begins : (d.reach.floor k : ℚ) * 10 ^ k ≤ lower d.magnitudeBits := by
    by_contra h
    have inside : (d.reach.floor k : ℚ) * 10 ^ k < upper d.magnitudeBits := by
      unfold upper
      linarith
    apply outside.1
    unfold Within
    split
    · exact ⟨(not_le.mp h).le, inside.le⟩
    · exact ⟨not_le.mp h, inside⟩
  have ends : upper d.magnitudeBits ≤ (d.reach.floor k + 1 : Nat) * 10 ^ k := by
    by_contra h
    have inside : lower d.magnitudeBits < (d.reach.floor k + 1 : Nat) * 10 ^ k := by
      have step : (0 : ℚ) ≤ below d.magnitudeBits := Nat.cast_nonneg _
      unfold lower
      nlinarith
    apply outside.2
    unfold Within
    split
    · exact ⟨inside.le, (not_le.mp h).le⟩
    · exact ⟨inside, not_le.mp h⟩
  -- So the grid is at least as wide as the reach, which is too wide for seventeen digits.
  have wide : (2 + below d.magnitudeBits) * 2 ^ (pow d.magnitudeBits - 2) ≤ (10 : ℚ) ^ k := by
    unfold lower upper at *
    push_cast at ends
    linarith
  have fine : (10 : ℚ) ^ k * 10 ^ 16 = 10 ^ (d.reach.wholeDigits - 1) := by
    rw [← zpow_natCast, ← zpow_add₀ (by norm_num)]
    congr 1
    simp only [k]
    omega
  have bound : (2 + below d.magnitudeBits : ℚ) * 10 ^ 16 ≤ 4 * sig d.magnitudeBits := by
    rw [← mul_le_mul_iff_of_pos_right unit]
    linarith
  have counted : (2 + below d.magnitudeBits) * 10 ^ 16 ≤ 4 * sig d.magnitudeBits := by
    exact_mod_cast bound
  have size := sig_lt d.magnitudeBits
  unfold below at counted
  split at counted <;> omega

theorem onGrid?_holds {r : Reach} {k k' : Int} {n : Nat} (h : r.onGrid? k = some (n, k')) :
    r.holds n k' = true := by
  simp only [Reach.onGrid?] at h
  split at h
  · next low high =>
    cases h
    split
    · exact high
    · exact low
  · next low high =>
    cases h
    exact low
  · next low high =>
    cases h
    exact high
  · cases h

theorem firstHit_holds {r : Reach} (sure : r.onGrid? (r.wholeDigits - 17) ≠ none)
    {more digits : Nat} (before : digits ≤ 17) (reaches : 17 < digits + more) :
    r.holds (r.firstHit more digits).1 (r.firstHit more digits).2 = true := by
  induction more generalizing digits with
  | zero => omega
  | succ more ih =>
    unfold Reach.firstHit
    cases hit : r.onGrid? (r.wholeDigits - digits) with
    | some found => exact onGrid?_holds hit
    | none =>
      have early : digits ≠ 17 := by
        rintro rfl
        exact sure hit
      exact ih (by omega) (by omega)

/-- The shortest decimal of a float rounds to it. -/
theorem shortest_holds (nonzero : d.magnitudeBits ≠ 0) :
    d.reach.holds d.shortest.1 d.shortest.2 = true :=
  firstHit_holds (onGrid?_seventeen nonzero) (by decide) (by decide)

theorem lower_pos {b : Nat} (nonzero : b ≠ 0) : 0 < lower b := by
  unfold lower
  have positive : (1 : ℚ) ≤ sig b := by exact_mod_cast sig_pos nonzero
  have step : (below b : ℚ) ≤ 2 := by
    unfold below
    split <;> norm_num
  have power : (0 : ℚ) < 2 ^ (pow b - 2) := by positivity
  nlinarith

theorem shortest_pos (nonzero : d.magnitudeBits ≠ 0) : d.shortest.1 ≠ 0 := by
  intro zero
  have within := ((holds_iff nonzero _ _).mp (shortest_holds nonzero)).bounds.1
  rw [zero, Nat.cast_zero, zero_mul] at within
  exact absurd (lower_pos nonzero) (not_lt.mpr within)

/-- The size of the shortest decimal determines the magnitude. -/
theorem shortest_inj {d' : Double} (nonzero : d.magnitudeBits ≠ 0)
    (nonzero' : d'.magnitudeBits ≠ 0)
    (same : (d.shortest.1 : ℚ) * 10 ^ d.shortest.2 = d'.shortest.1 * 10 ^ d'.shortest.2) :
    d.magnitudeBits = d'.magnitudeBits := by
  have within := (holds_iff nonzero _ _).mp (shortest_holds nonzero)
  have within' := (holds_iff nonzero' _ _).mp (shortest_holds nonzero')
  rw [same] at within
  exact within.unique within'

end Shortest

end FieldPipeline.Double
