import FieldPipeline.Text.CaseMapping
import Mathlib.Data.List.Basic

namespace FieldPipeline.Text

namespace CodePoints

/-- Whether `first`, `first + stride`, … up to `last` are all in a set, found in one pass. -/
def hasRun : CodePoints → Nat → Nat → Nat → Bool
  -- Compared as Booleans, since whole tables are checked by evaluation.
  | [], first, last, _ => last.blt first
  | (a, b) :: rest, first, last, stride =>
    a.ble first && bif b.blt first then hasRun rest first last stride
      else last.ble b || hasRun rest (first + stride) last stride

@[simp] theorem holds_cons (a b n : Nat) (rest : CodePoints) :
    holds ((a, b) :: rest) n = true ↔ a ≤ n ∧ (n ≤ b ∨ rest.holds n = true) := by
  by_cases before : n < a
  · simp [holds, before, Nat.not_le_of_lt before]
  · simp [holds, before, Nat.le_of_not_lt before]

theorem holds_of_hasRun {set : CodePoints} {first last stride : Nat}
    (run : set.hasRun first last stride = true) {k : Nat} (le : first + stride * k ≤ last) :
    set.holds (first + stride * k) = true := by
  induction set generalizing first k with
  | nil =>
    rw [hasRun, Nat.blt_eq] at run
    omega
  | cons range rest ih =>
    obtain ⟨a, b⟩ := range
    rw [hasRun, Bool.and_eq_true, Nat.ble_eq] at run
    obtain ⟨above, run⟩ := run
    rw [holds_cons]
    refine ⟨by omega, ?_⟩
    cases beyond : b.blt first with
    | true =>
      rw [beyond, cond_true] at run
      exact .inr (ih run le)
    | false =>
      rw [beyond, cond_false, Bool.or_eq_true, Nat.ble_eq] at run
      cases k with
      | zero =>
        rw [← Bool.not_eq_true, Nat.blt_eq, Nat.not_lt] at beyond
        exact .inl beyond
      | succ k =>
        rw [Nat.mul_succ, ← Nat.add_assoc, Nat.add_right_comm] at le ⊢
        exact run.imp (Nat.le_trans le) fun run => ih run le

/-- Whether a set has nothing from `a` to `b`, where what comes after `b` is left to `beyond`. -/
def pass (a b : Nat) (beyond : CodePoints → Bool) : CodePoints → Bool
  | [] => true
  | (c, d) :: rest =>
    bif b.blt c then beyond ((c, d) :: rest) else d.blt a && pass a b beyond rest

/-- Whether two sets have nothing in common, found in one pass over both. -/
def apart : CodePoints → CodePoints → Bool
  | [] => fun _ => true
  | (a, b) :: rest => pass a b (apart rest)

theorem not_holds_of_apart {s t : CodePoints} (h : s.apart t = true) {n : Nat}
    (there : s.holds n = true) : t.holds n = false := by
  induction s generalizing t with
  | nil => cases there
  | cons range rest ih =>
    obtain ⟨a, b⟩ := range
    obtain ⟨above, within⟩ := (holds_cons a b n rest).mp there
    rw [apart] at h
    induction t with
    | nil => rfl
    | cons range' rest' ih' =>
      obtain ⟨c, d⟩ := range'
      rw [pass] at h
      cases past : b.blt c with
      | true =>
        rw [past, cond_true] at h
        rcases within with low | later
        · rw [Nat.blt_eq] at past
          rw [← Bool.not_eq_true, holds_cons]
          omega
        · exact ih h later
      | false =>
        rw [past, cond_false, Bool.and_eq_true, Nat.blt_eq] at h
        rw [← Bool.not_eq_true, holds_cons]
        rintro ⟨-, low | later⟩
        · omega
        · cases (ih' h.2).symm.trans later

end CodePoints

namespace Shift

/-- Whether everything that is moved comes to be in a set. -/
def lands (set : CodePoints) (s : Shift) : Bool :=
  0 ≤ (s.first : Int) + s.distance && set.hasRun (s.target s.first) (s.target s.last) s.stride

theorem holds_target {set : CodePoints} {s : Shift} (h : s.lands set = true) {n : Nat}
    (covered : s.covers n = true) : set.holds (s.target n) = true := by
  simp only [lands, Bool.and_eq_true, decide_eq_true_eq] at h
  simp only [covers, Bool.and_eq_true, decide_eq_true_eq, beq_iff_eq] at covered
  obtain ⟨down, run⟩ := h
  obtain ⟨⟨above, below⟩, step⟩ := covered
  have steps := Nat.div_add_mod (n - s.first) s.stride
  have moved : s.target n = s.target s.first + s.stride * ((n - s.first) / s.stride) := by
    unfold target
    omega
  rw [moved]
  refine CodePoints.holds_of_hasRun run ?_
  rw [← moved]
  unfold target
  omega

end Shift

theorem Shifts.apply_cases (shifts : Shifts) (n : Nat) :
    shifts.apply n = n ∨ ∃ s ∈ shifts, s.covers n = true ∧ shifts.apply n = s.target n := by
  unfold apply
  cases found : shifts.find? (·.covers n) with
  | none => exact .inl rfl
  | some s =>
    have covered := List.find?_some (p := (Shift.covers · n)) found
    exact .inr ⟨s, List.mem_of_find?_eq_some found, covered, rfl⟩

/-- The code points of characters. -/
def scalars : CodePoints :=
  [(0, 0xD7FF), (0xE000, 0x10FFFF)]

theorem toNat_ofNat_of_holds {n : Nat} (h : scalars.holds n = true) : (Char.ofNat n).toNat = n := by
  rw [scalars, CodePoints.holds_cons, CodePoints.holds_cons] at h
  have valid : n.isValidChar := by
    obtain ⟨-, low | ⟨above, high | none⟩⟩ := h
    · exact .inl (by omega)
    · exact .inr ⟨by omega, by omega⟩
    · cases none
  rw [Char.ofNat, dif_pos valid]
  rfl

theorem lowercaseShifts_land {s : Shift} (mem : s ∈ lowercaseShifts) :
    s.lands scalars = true ∧ s.lands lowercaseLetters = true := by
  have valid : lowercaseShifts.all (·.lands scalars) = true := by decide +kernel
  have small : lowercaseShifts.all (·.lands lowercaseLetters) = true := by decide +kernel
  exact ⟨List.all_eq_true.mp valid s mem, List.all_eq_true.mp small s mem⟩

variable {c : Char}

theorem not_isUppercase_of_isLowercase (small : isLowercase c = true) :
    isUppercase c = false := by
  have apart : lowercaseLetters.apart uppercaseLetters = true := by decide +kernel
  exact CodePoints.not_holds_of_apart apart small

/-- A dotted capital I becomes a letter and a dot, and neither is a capital. -/
theorem dotted_plain : isUppercase 'i' = false ∧ isUppercase '\u0307' = false :=
  ⟨not_isUppercase_of_isLowercase rfl, by decide +kernel⟩

namespace Character

/-- Lower case keeps a character, makes a small letter of it, or takes the dot off a capital I. -/
theorem lowercase_cases (c : Char) : lowercase c = [c] ∨ c = '\u0130' ∨
    ∃ small, isLowercase small = true ∧ lowercase c = [small] := by
  by_cases dotted : c = '\u0130'
  · exact .inr (.inl dotted)
  rw [lowercase, if_neg dotted]
  obtain same | ⟨s, mem, covered, moved⟩ := lowercaseShifts.apply_cases c.toNat
  · rw [same, Char.ofNat_toNat]
    exact .inl rfl
  · obtain ⟨valid, small⟩ := lowercaseShifts_land mem
    have number : (Char.ofNat (s.target c.toNat)).toNat = s.target c.toNat :=
      toNat_ofNat_of_holds (Shift.holds_target valid covered)
    refine .inr (.inr ⟨.ofNat (s.target c.toNat), ?_, by rw [moved]⟩)
    rw [isLowercase, CodePoints.contains, number]
    exact Shift.holds_target small covered

theorem lowercase_kept_or_plain (c : Char) :
    lowercase c = [c] ∨ ∀ d ∈ lowercase c, isUppercase d = false := by
  obtain kept | rfl | ⟨small, low, lowered⟩ := lowercase_cases c
  · exact .inl kept
  · right
    change ∀ d ∈ ['i', '\u0307'], isUppercase d = false
    exact List.forall_mem_cons.mpr ⟨dotted_plain.1, List.forall_mem_singleton.mpr dotted_plain.2⟩
  · right
    intro d mem
    rw [lowered, List.mem_singleton] at mem
    rw [mem]
    exact not_isUppercase_of_isLowercase low

end Character

/-- A capital that lower case leaves as it is, such as ℂ. -/
def lacksSmall (c : Char) : Bool :=
  isUppercase c && Character.lowercase c == [c]

/-- A capital that is a small letter, at least in the end, when it is written in lower case. -/
def endsSmall (c : Char) : Bool :=
  isUppercase c && (Character.lowercase c).getLast?.any isLowercase

theorem not_endsSmall_of_plain (plain : isUppercase c = false) : endsSmall c = false := by
  rw [endsSmall, plain, Bool.false_and]

theorem lowercase_of_lacksSmall (lacks : lacksSmall c = true) : Character.lowercase c = [c] := by
  rw [lacksSmall, Bool.and_eq_true, beq_iff_eq] at lacks
  exact lacks.2

theorem not_endsSmall_of_kept (kept : Character.lowercase c = [c]) : endsSmall c = false := by
  rw [endsSmall, kept, List.getLast?_singleton, Option.any_some]
  cases small : isLowercase c with
  | false => exact Bool.and_false _
  | true => rw [not_isUppercase_of_isLowercase small, Bool.false_and]

theorem not_endsSmall_of_mem_lowercase {d : Char} (mem : d ∈ Character.lowercase c) :
    endsSmall d = false := by
  obtain kept | plain := Character.lowercase_kept_or_plain c
  · rw [kept, List.mem_singleton] at mem
    rw [mem]
    exact not_endsSmall_of_kept kept
  · exact not_endsSmall_of_plain (plain d mem)

end FieldPipeline.Text
