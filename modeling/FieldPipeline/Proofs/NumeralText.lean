import FieldPipeline.Decimal.Numeral
import FieldPipeline.Decimal.Shortest
import FieldPipeline.Proofs.Cutting
import Mathlib.Algebra.Order.Field.Rat
import Mathlib.Tactic.Ring

namespace FieldPipeline.Numeral

theorem digitsValue_eq (cs : List Char) : digitsValue cs = Nat.ofDigitChars 10 cs 0 :=
  Nat.ofDigitChars_eq_foldl.symm

@[simp] theorem digitsValue_append (cs ds : List Char) :
    digitsValue (cs ++ ds) = digitsValue cs * 10 ^ ds.length + digitsValue ds := by
  rw [digitsValue_eq, digitsValue_eq, digitsValue_eq, Nat.ofDigitChars_append,
    Nat.ofDigitChars_eq_ofDigitChars_zero, Nat.mul_comm]

@[simp] theorem digitsValue_toDigits (n : Nat) : digitsValue (Nat.toDigits 10 n) = n :=
  (digitsValue_eq _).trans Nat.ofDigitChars_ten_toDigits

@[simp] theorem digitsValue_zeros (k : Nat) : digitsValue (List.replicate k '0') = 0 := by
  rw [digitsValue_eq, Nat.ofDigitChars_replicate_zero, Nat.mul_zero]

theorem isDigit_of_mem_toDigits {n : Nat} {c : Char} (h : c ∈ Nat.toDigits 10 n) :
    c.isDigit = true :=
  Nat.isDigit_of_mem_toDigits (by decide) (by decide) h

theorem isDigit_zero : ∀ c ∈ ['0'], c.isDigit = true := by
  intro c hc
  rw [List.mem_singleton.mp hc]
  rfl

/-- The text of an exponent, which always has a sign. -/
def exponentChars : Option Int → List Char
  | none => []
  | some e => 'e' :: (if e < 0 then '-' else '+') :: Nat.toDigits 10 e.natAbs

def fractionChars : Option (List Char) → List Char
  | none => []
  | some digits => '.' :: digits

/-- A numeral written out. -/
def chars (n : Numeral) : List Char :=
  n.sign.toList ++ n.whole ++ fractionChars n.fraction ++ exponentChars n.exponent

/-- A numeral with digits before the point and no plus sign. -/
structure Proper (n : Numeral) : Prop where
  sign : n.sign = none ∨ n.sign = some '-'
  whole : ∀ c ∈ n.whole, c.isDigit = true
  nonempty : n.whole ≠ []
  fraction : ∀ digits ∈ n.fraction, ∀ c ∈ digits, c.isDigit = true

theorem exponent?_minus {digits : List Char} (all : digits.all Char.isDigit = true)
    (some_ : digits ≠ []) :
    exponent? ('e' :: '-' :: digits) = some (some (-(digitsValue digits : Int))) := by
  simp [exponent?, splitSign, all, some_]

theorem exponent?_plus {digits : List Char} (all : digits.all Char.isDigit = true)
    (some_ : digits ≠ []) :
    exponent? ('e' :: '+' :: digits) = some (some (digitsValue digits : Int)) := by
  simp [exponent?, splitSign, all, some_]

theorem exponent?_exponentChars (e : Option Int) : exponent? (exponentChars e) = some e := by
  cases e with
  | none => rfl
  | some e =>
    have all : (Nat.toDigits 10 e.natAbs).all Char.isDigit = true :=
      List.all_eq_true.mpr fun c hc => isDigit_of_mem_toDigits hc
    have some_ : Nat.toDigits 10 e.natAbs ≠ [] := List.ne_nil_of_length_pos Nat.length_toDigits_pos
    rw [exponentChars]
    by_cases h : e < 0
    · have size : -(e.natAbs : Int) = e := by omega
      rw [if_pos h, exponent?_minus all some_, digitsValue_toDigits, size]
    · have size : (e.natAbs : Int) = e := by omega
      rw [if_neg h, exponent?_plus all some_, digitsValue_toDigits, size]

theorem exponentChars_head (e : Option Int) : ∀ c ∈ (exponentChars e).head?, c = 'e' := by
  cases e with
  | none => nofun
  | some e =>
    intro c hc
    exact (Option.some.inj hc).symm

theorem splitSign_digits {whole rest : List Char} (digits : ∀ c ∈ whole, c.isDigit = true)
    (some_ : whole ≠ []) : splitSign (whole ++ rest) = (none, whole ++ rest) := by
  cases whole with
  | nil => exact absurd rfl some_
  | cons c more =>
    have hc := digits c List.mem_cons_self
    rw [List.cons_append]
    unfold splitSign
    split
    · next e =>
      cases (List.cons.inj e).1
      cases hc
    · next e =>
      cases (List.cons.inj e).1
      cases hc
    · rfl

/-- A numeral that is written out is read back. -/
theorem read?_chars {n : Numeral} (h : n.Proper) : read? n.chars = some n := by
  obtain ⟨sign, whole, fraction, exponent⟩ := n
  obtain ⟨signs, digits, some_, digits'⟩ := h
  simp only at signs digits some_ digits'
  have signed : splitSign (chars ⟨sign, whole, fraction, exponent⟩) =
      (sign, whole ++ (fractionChars fraction ++ exponentChars exponent)) := by
    rcases signs with rfl | rfl
    · simp only [chars, Option.toList_none, List.nil_append, List.append_assoc]
      exact splitSign_digits digits some_
    · simp [chars, splitSign]
  have stop : ∀ c ∈ (exponentChars exponent).head?, c.isDigit = false := by
    intro c hc
    rw [exponentChars_head exponent c hc]
    rfl
  unfold read?
  rw [signed]
  cases fraction with
  | none =>
    obtain ⟨taken, left⟩ := Text.span_append digits stop
    simp only [fractionChars, List.nil_append, taken, left]
    have noPoint : ∀ rest, exponentChars exponent ≠ '.' :: rest := by
      intro rest e
      have point := exponentChars_head exponent '.' (by rw [e]; rfl)
      cases point
    split
    · next rest e => exact absurd e (noPoint rest)
    · rw [exponent?_exponentChars]
      rfl
  | some fraction =>
    have point : ∀ c ∈ ('.' :: (fraction ++ exponentChars exponent)).head?, c.isDigit = false := by
      rintro c ⟨⟩
      rfl
    obtain ⟨taken, left⟩ := Text.span_append digits point
    obtain ⟨taken', left'⟩ := Text.span_append (digits' fraction rfl) stop
    simp only [fractionChars, List.cons_append, taken, left, taken', left',
      exponent?_exponentChars]
    rfl

/-- Numerals with one text are one numeral. -/
theorem chars_inj {n n' : Numeral} (h : n.Proper) (h' : n'.Proper) (same : n.chars = n'.chars) :
    n = n' := by
  have read := read?_chars h
  rw [same, read?_chars h'] at read
  exact (Option.some.inj read).symm

/-- The size of a numeral. -/
def magnitude (n : Numeral) : ℚ :=
  n.digits * (10 : ℚ) ^ n.scale

/-- The numeral that a layout writes out. -/
def laidOut (digits : List Char) (e : Int) : Numeral :=
  if -5 ≤ e ∧ e ≤ 15 then
    if e < 0 then ⟨none, ['0'], some (List.replicate (-e - 1).toNat '0' ++ digits), none⟩
    else if digits.length ≤ e.toNat + 1 then
      ⟨none, digits ++ List.replicate (e.toNat + 1 - digits.length) '0', some ['0'], none⟩
    else ⟨none, digits.take (e.toNat + 1), some (digits.drop (e.toNat + 1)), none⟩
  else
    match digits with
    | first :: second :: rest => ⟨none, [first], some (second :: rest), some e⟩
    | digits => ⟨none, digits, none, some e⟩

theorem layout_eq_chars (digits : List Char) (e : Int) :
    Double.layout digits e = (laidOut digits e).chars := by
  unfold Double.layout laidOut
  split
  · split
    · simp [chars, fractionChars, exponentChars]
    · simp only
      split <;> simp [chars, fractionChars, exponentChars]
  · match digits with
    | [] => simp [chars, fractionChars, exponentChars]
    | [first] => simp [chars, fractionChars, exponentChars]
    | first :: second :: rest => simp [chars, fractionChars, exponentChars]

theorem laidOut_sign (digits : List Char) (e : Int) : (laidOut digits e).sign = none := by
  unfold laidOut
  split
  · split
    · rfl
    · split <;> rfl
  · split <;> rfl

section LaidOut

variable {digits : List Char} (all : ∀ c ∈ digits, c.isDigit = true) (some_ : digits ≠ [])

include all some_ in
theorem laidOut_proper (e : Int) : (laidOut digits e).Proper := by
  have zero {k : Nat} {c : Char} (h : c ∈ List.replicate k '0') : c.isDigit = true := by
    rw [List.eq_of_mem_replicate h]
    rfl
  have padded {k : Nat} {c : Char} (h : c ∈ List.replicate k '0' ++ digits) :
      c.isDigit = true := (List.mem_append.mp h).elim zero (all c)
  have padded' {k : Nat} {c : Char} (h : c ∈ digits ++ List.replicate k '0') :
      c.isDigit = true := (List.mem_append.mp h).elim (all c) zero
  unfold laidOut
  split
  · split
    · refine ⟨.inl rfl, isDigit_zero, by simp, ?_⟩
      rintro _ ⟨⟩ c hc
      exact padded hc
    split
    · refine ⟨.inl rfl, fun c => padded', by simp [some_], ?_⟩
      rintro _ ⟨⟩
      exact isDigit_zero
    · refine ⟨.inl rfl, fun c hc => all c (List.mem_of_mem_take hc), by simp [some_], ?_⟩
      rintro _ ⟨⟩ c hc
      exact all c (List.mem_of_mem_drop hc)
  · split
    · next first second rest =>
      refine ⟨.inl rfl, fun c hc => ?_, by simp, ?_⟩
      · rw [List.mem_singleton.mp hc]
        exact all first List.mem_cons_self
      · rintro _ ⟨⟩ c hc
        exact all c (List.mem_cons_of_mem first hc)
    · exact ⟨.inl rfl, all, some_, nofun⟩

/-- A layout cannot be mistaken for an integer. -/
theorem laidOut_marked (e : Int) :
    (laidOut digits e).fraction = none → (laidOut digits e).exponent ≠ none := by
  unfold laidOut
  split
  · split
    · nofun
    · split <;> nofun
  · split <;> nofun

include some_ in
theorem laidOut_magnitude (e : Int) :
    (laidOut digits e).magnitude =
      digitsValue digits * (10 : ℚ) ^ (e + 1 - digits.length) := by
  have nought : digitsValue ['0'] = 0 := rfl
  unfold laidOut magnitude
  split
  · next near =>
    split
    · next small =>
      have value : digitsValue (['0'] ++ (List.replicate (-e - 1).toNat '0' ++ digits)) =
          digitsValue digits := by
        rw [digitsValue_append, digitsValue_append, digitsValue_zeros, nought, Nat.zero_mul,
          Nat.zero_mul, Nat.zero_add, Nat.zero_add]
      have size : (0 : Int) - (List.replicate (-e - 1).toNat '0' ++ digits).length =
          e + 1 - digits.length := by
        rw [List.length_append, List.length_replicate]
        omega
      exact congrArg₂ (fun (n : Nat) (k : Int) => (n : ℚ) * (10 : ℚ) ^ k) value size
    split
    · next large short =>
      have value :
          digitsValue ((digits ++ List.replicate (e.toNat + 1 - digits.length) '0') ++ ['0']) =
          digitsValue digits * 10 ^ (e.toNat + 1 - digits.length) * 10 := by
        rw [digitsValue_append, digitsValue_append, digitsValue_zeros, nought,
          List.length_replicate, List.length_singleton]
        rfl
      have power : e + 1 - digits.length = (e.toNat + 1 - digits.length : Nat) := by omega
      change ((digitsValue (digits ++ List.replicate (e.toNat + 1 - digits.length) '0' ++ ['0']) :
        Nat) : ℚ) * 10 ^ (0 - 1 : Int) = _
      rw [value, power, zpow_natCast]
      push_cast
      rw [mul_assoc]
      norm_num
    · next large long =>
      have value : digitsValue (digits.take (e.toNat + 1) ++ digits.drop (e.toNat + 1)) =
          digitsValue digits := by rw [List.take_append_drop]
      have size : (0 : Int) - (digits.drop (e.toNat + 1)).length = e + 1 - digits.length := by
        rw [List.length_drop]
        omega
      exact congrArg₂ (fun (n : Nat) (k : Int) => (n : ℚ) * (10 : ℚ) ^ k) value size
  · split
    · next first second rest =>
      have size : e - (second :: rest).length = e + 1 - (first :: second :: rest).length := by
        rw [List.length_cons, List.length_cons, List.length_cons]
        omega
      exact congrArg (fun k : Int => ((digitsValue _ : Nat) : ℚ) * (10 : ℚ) ^ k) size
    · next short =>
      have one : digits.length = 1 := by
        match digits, some_, short with
        | [c], _, _ => rfl
        | first :: second :: rest, _, short => exact absurd rfl (short first second rest)
      have value : digitsValue (digits ++ []) = digitsValue digits := by rw [List.append_nil]
      have size : e - (0 : Nat) = e + 1 - digits.length := by omega
      exact congrArg₂ (fun (n : Nat) (k : Int) => (n : ℚ) * (10 : ℚ) ^ k) value size

end LaidOut

end FieldPipeline.Numeral
