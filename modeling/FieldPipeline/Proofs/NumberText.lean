import FieldPipeline.Proofs.NumeralText
import FieldPipeline.Proofs.Rounding
import FieldPipeline.Value
import Mathlib.Data.List.DropRight

namespace FieldPipeline

namespace Double

theorem eq_trimZeros_append (digits : List Char) :
    ∃ k, digits = trimZeros digits ++ List.replicate k '0' := by
  have zeros : digits.rtakeWhile (· = '0') =
      List.replicate (digits.rtakeWhile (· = '0')).length '0' :=
    List.eq_replicate_of_mem fun c hc => by
      have zero := List.mem_rtakeWhile_imp hc
      exact of_decide_eq_true zero
  have parts : digits.rdropWhile (· = '0') ++ digits.rtakeWhile (· = '0') = digits :=
    List.rdropWhile_append_rtakeWhile
  rw [zeros] at parts
  exact ⟨_, parts.symm⟩

/-- The digits that a float shows, and where its first digit stands. -/
def shownDigits (d : Double) : List Char :=
  trimZeros (Nat.toDigits 10 d.shortest.1)

def shownExponent (d : Double) : Int :=
  d.shortest.2 + (Nat.toDigits 10 d.shortest.1).length - 1

def sizeNumeral (d : Double) : Numeral :=
  if d.isZero then ⟨none, ['0'], some ['0'], none⟩ else .laidOut d.shownDigits d.shownExponent

def signChar (negative : Bool) : Option Char :=
  if negative then some '-' else none

theorem signChar_cases (negative : Bool) :
    signChar negative = none ∨ signChar negative = some '-' := by
  cases negative
  · exact .inl rfl
  · exact .inr rfl

theorem signChar_inj {negative negative' : Bool} (same : signChar negative = signChar negative') :
    negative = negative' := by
  revert same
  cases negative <;> cases negative' <;> decide

/-- The numeral that a float is shown as. -/
def numeral (d : Double) : Numeral :=
  { d.sizeNumeral with sign := signChar d.negative }

theorem sizeNumeral_sign (d : Double) : d.sizeNumeral.sign = none := by
  unfold sizeNumeral
  split
  · rfl
  · exact Numeral.laidOut_sign _ _

theorem chars_eq_numeral (d : Double) : d.chars = d.numeral.chars := by
  have size : (if d.isZero then ['0', '.', '0'] else layout d.shownDigits d.shownExponent) =
      d.sizeNumeral.chars := by
    unfold sizeNumeral
    split
    · rfl
    · exact Numeral.layout_eq_chars _ _
  have signed : d.chars = (signChar d.negative).toList ++ d.sizeNumeral.chars := by
    rw [← size]
    unfold chars signChar
    cases d.negative <;> rfl
  rw [signed, Numeral.chars, Numeral.chars, sizeNumeral_sign]
  simp only [numeral, Option.toList_none, List.nil_append, List.append_assoc]

section Shown

variable {d : Double} (nonzero : d.magnitudeBits ≠ 0)

include nonzero in
theorem shownDigits_ne_nil : d.shownDigits ≠ [] := by
  intro none_
  obtain ⟨k, digits⟩ := eq_trimZeros_append (Nat.toDigits 10 d.shortest.1)
  have value := congrArg Numeral.digitsValue digits
  rw [show trimZeros _ = [] from none_, List.nil_append, Numeral.digitsValue_toDigits,
    Numeral.digitsValue_zeros] at value
  exact shortest_pos nonzero value

theorem shownDigits_isDigit : ∀ c ∈ d.shownDigits, c.isDigit = true := by
  intro c hc
  obtain ⟨k, digits⟩ := eq_trimZeros_append (Nat.toDigits 10 d.shortest.1)
  refine Numeral.isDigit_of_mem_toDigits (n := d.shortest.1) ?_
  rw [digits]
  exact List.mem_append_left _ hc

include nonzero in
theorem sizeNumeral_magnitude :
    d.sizeNumeral.magnitude = d.shortest.1 * (10 : ℚ) ^ d.shortest.2 := by
  have full : ¬ d.isZero = true := fun zero => nonzero ((isZero_iff d).mp zero)
  obtain ⟨k, digits⟩ := eq_trimZeros_append (Nat.toDigits 10 d.shortest.1)
  have value : d.shortest.1 = Numeral.digitsValue d.shownDigits * 10 ^ k := by
    have both := congrArg Numeral.digitsValue digits
    rwa [Numeral.digitsValue_toDigits, Numeral.digitsValue_append, Numeral.digitsValue_zeros,
      List.length_replicate] at both
  have length : (Nat.toDigits 10 d.shortest.1).length = d.shownDigits.length + k := by
    have both := congrArg List.length digits
    rwa [List.length_append, List.length_replicate] at both
  have power : d.shownExponent + 1 - d.shownDigits.length = k + d.shortest.2 := by
    unfold shownExponent
    omega
  rw [sizeNumeral, if_neg full, Numeral.laidOut_magnitude (shownDigits_ne_nil nonzero), power,
    zpow_add₀ (by norm_num), zpow_natCast, value]
  push_cast
  ring

end Shown

theorem numeral_proper (d : Double) : d.numeral.Proper := by
  have size : d.sizeNumeral.Proper := by
    unfold sizeNumeral
    split
    · refine ⟨.inl rfl, Numeral.isDigit_zero, nofun, ?_⟩
      rintro _ ⟨⟩
      exact Numeral.isDigit_zero
    · next full =>
      have nonzero : d.magnitudeBits ≠ 0 := fun zero => full ((isZero_iff d).mpr zero)
      exact Numeral.laidOut_proper shownDigits_isDigit (shownDigits_ne_nil nonzero) _
  exact { size with sign := signChar_cases d.negative }

theorem numeral_marked (d : Double) : d.numeral.fraction = none → d.numeral.exponent ≠ none := by
  change d.sizeNumeral.fraction = none → d.sizeNumeral.exponent ≠ none
  unfold sizeNumeral
  split
  · nofun
  · exact Numeral.laidOut_marked _

theorem magnitude_eq_zero (d : Double) : d.numeral.magnitude = 0 ↔ d.magnitudeBits = 0 := by
  change d.sizeNumeral.magnitude = 0 ↔ _
  constructor
  · intro zero
    by_contra nonzero
    rw [sizeNumeral_magnitude nonzero] at zero
    have digits : (d.shortest.1 : ℚ) ≠ 0 := Nat.cast_ne_zero.mpr (shortest_pos nonzero)
    exact mul_ne_zero digits (zpow_ne_zero _ (by norm_num)) zero
  · intro zero
    rw [sizeNumeral, if_pos ((isZero_iff d).mpr zero)]
    exact zero_mul _

/-- A float is the only one that is shown as it is. -/
theorem chars_inj {d d' : Double} (same : d.chars = d'.chars) : d = d' := by
  rw [chars_eq_numeral, chars_eq_numeral] at same
  have numerals := Numeral.chars_inj (numeral_proper d) (numeral_proper d') same
  have sign : d.negative = d'.negative := signChar_inj (congrArg Numeral.sign numerals)
  have sizes := congrArg Numeral.magnitude numerals
  refine eq_of_magnitudeBits sign ?_
  by_cases zero : d.magnitudeBits = 0
  · rw [zero]
    exact ((magnitude_eq_zero d').mp (sizes ▸ (magnitude_eq_zero d).mpr zero)).symm
  · have zero' : d'.magnitudeBits ≠ 0 := fun h =>
      zero ((magnitude_eq_zero d).mp (sizes.trans ((magnitude_eq_zero d').mpr h)))
    refine shortest_inj zero zero' ?_
    rw [← sizeNumeral_magnitude zero, ← sizeNumeral_magnitude zero']
    exact sizes

end Double

namespace Number

def numeral : Number → Numeral
  | int n => ⟨Double.signChar (n < 0), Nat.toDigits 10 n.natAbs, none, none⟩
  | float d _ => d.numeral

theorem chars_eq_numeral (n : Number) : n.chars = n.numeral.chars := by
  cases n with
  | float d finite => exact d.chars_eq_numeral
  | int n => by_cases h : n < 0 <;> simp [chars, numeral, Numeral.chars, Double.signChar, h,
      Numeral.fractionChars, Numeral.exponentChars]

theorem numeral_proper (n : Number) : n.numeral.Proper := by
  cases n with
  | float d finite => exact d.numeral_proper
  | int n =>
    exact ⟨Double.signChar_cases _, fun c hc => Numeral.isDigit_of_mem_toDigits hc,
      List.ne_nil_of_length_pos Nat.length_toDigits_pos, nofun⟩

theorem int_inj {n n' : Int} (same : (int n).numeral = (int n').numeral) : n = n' := by
  obtain ⟨signs, digits, -, -⟩ := Numeral.mk.inj same
  have size : n.natAbs = n'.natAbs := by
    have value := congrArg Numeral.digitsValue digits
    rwa [Numeral.digitsValue_toDigits, Numeral.digitsValue_toDigits] at value
  have sign : n < 0 ↔ n' < 0 := decide_eq_decide.mp (Double.signChar_inj signs)
  omega

/-- A number is the only one that is shown as it is. -/
theorem chars_inj {n n' : Number} (same : n.chars = n'.chars) : n = n' := by
  cases n with
  | int n =>
    cases n' with
    | int n' =>
      rw [chars_eq_numeral, chars_eq_numeral] at same
      rw [int_inj (Numeral.chars_inj (numeral_proper _) (numeral_proper _) same)]
    | float d finite =>
      rw [chars_eq_numeral, chars_eq_numeral] at same
      have numerals := Numeral.chars_inj (numeral_proper _) (numeral_proper _) same
      have whole : (int n).numeral.fraction = none ∧ (int n).numeral.exponent = none := ⟨rfl, rfl⟩
      rw [numerals] at whole
      exact absurd whole.2 (d.numeral_marked whole.1)
  | float d finite =>
    cases n' with
    | int n' =>
      rw [chars_eq_numeral, chars_eq_numeral] at same
      have numerals := Numeral.chars_inj (numeral_proper _) (numeral_proper _) same
      have whole : (int n').numeral.fraction = none ∧ (int n').numeral.exponent = none :=
        ⟨rfl, rfl⟩
      rw [← numerals] at whole
      exact absurd whole.2 (d.numeral_marked whole.1)
    | float d' finite' =>
      cases Double.chars_inj same
      rfl

end Number

end FieldPipeline
