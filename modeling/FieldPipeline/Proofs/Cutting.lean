import Mathlib.Data.List.Basic

namespace FieldPipeline.Text

theorem span_append {p : Char → Bool} {a b : List Char} (inside : ∀ c ∈ a, p c = true)
    (stop : ∀ c ∈ b.head?, p c = false) :
    (a ++ b).takeWhile p = a ∧ (a ++ b).dropWhile p = b := by
  rw [List.takeWhile_append_of_pos inside, List.dropWhile_append_of_pos inside]
  cases b with
  | nil => simp
  | cons c b =>
    have no := stop c rfl
    simp [no]

/-- A text is cut in one way where its first part ends. -/
theorem span_cut {p : Char → Bool} {a a' b b' : List Char} (inside : ∀ c ∈ a, p c = true)
    (inside' : ∀ c ∈ a', p c = true) (stop : ∀ c ∈ b.head?, p c = false)
    (stop' : ∀ c ∈ b'.head?, p c = false) (h : a ++ b = a' ++ b') : a = a' ∧ b = b' := by
  obtain ⟨taken, left⟩ := span_append inside stop
  obtain ⟨taken', left'⟩ := span_append inside' stop'
  rw [h] at taken left
  exact ⟨taken.symm.trans taken', left.symm.trans left'⟩

/-- A text is cut in one way at the first of its separators. -/
theorem first_cut {c : Char} {a a' b b' : List Char} (ha : c ∉ a) (ha' : c ∉ a')
    (h : a ++ c :: b = a' ++ c :: b') : a = a' ∧ b = b' := by
  have inside {a : List Char} (ha : c ∉ a) : ∀ x ∈ a, (x != c) = true := by
    intro x hx
    exact bne_iff_ne.mpr fun e => ha (e ▸ hx)
  have stop (b : List Char) : ∀ x ∈ (c :: b).head?, (x != c) = false := by
    rintro x ⟨⟩
    exact bne_self_eq_false c
  obtain ⟨first, rest⟩ := span_cut (inside ha) (inside ha') (stop b) (stop b') h
  exact ⟨first, (List.cons.inj rest).2⟩

theorem last_cut {c : Char} {a a' b b' : List Char} (hb : c ∉ b) (hb' : c ∉ b')
    (h : a ++ c :: b = a' ++ c :: b') : a = a' ∧ b = b' := by
  have back := congrArg List.reverse h
  simp only [List.reverse_append, List.reverse_cons, List.append_assoc, List.singleton_append]
    at back
  obtain ⟨hb, ha⟩ := first_cut (by simpa using hb) (by simpa using hb') back
  exact ⟨List.reverse_inj.mp ha, List.reverse_inj.mp hb⟩

end FieldPipeline.Text
