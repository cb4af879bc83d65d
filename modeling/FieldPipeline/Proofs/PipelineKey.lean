import FieldPipeline.Processing
import FieldPipeline.Proofs.Cutting
import Mathlib.Data.List.Nodup

namespace FieldPipeline.Processor

section Distinct

theorem eraseReps_loop (a : String) (names done : List String) :
    List.eraseRepsBy.loop (· == ·) a names done =
      done.reverse ++ List.eraseRepsBy.loop (· == ·) a names [] := by
  induction names generalizing a done with
  | nil => simp [List.eraseRepsBy.loop]
  | cons b rest ih =>
    rw [List.eraseRepsBy.loop, List.eraseRepsBy.loop]
    split
    · exact ih a done
    · rw [ih b (a :: done), ih b [a]]
      simp

theorem eraseReps_cons_cons (a b : String) (rest : List String) :
    (a :: b :: rest).eraseReps =
      if a = b then (b :: rest).eraseReps else a :: (b :: rest).eraseReps := by
  change List.eraseRepsBy.loop (· == ·) a (b :: rest) [] =
    if a = b then List.eraseRepsBy.loop (· == ·) b rest []
    else a :: List.eraseRepsBy.loop (· == ·) b rest []
  rw [List.eraseRepsBy.loop]
  by_cases h : a = b
  · subst h
    simp
  · rw [if_neg h, beq_eq_false_iff_ne.mpr h]
    exact eraseReps_loop b rest [a]

@[simp] theorem mem_eraseReps {names : List String} {name : String} :
    name ∈ names.eraseReps ↔ name ∈ names := by
  induction names with
  | nil => rfl
  | cons a rest ih =>
    cases rest with
    | nil => rfl
    | cons b rest =>
      rw [eraseReps_cons_cons]
      split
      · next h =>
        rw [ih, h]
        simp
      · rw [List.mem_cons, ih, ← List.mem_cons]

theorem eraseReps_increasing {names : List String} (h : names.Pairwise fun a b => ¬ b < a) :
    names.eraseReps.Pairwise (· < ·) := by
  induction names with
  | nil => exact List.Pairwise.nil
  | cons a rest ih =>
    cases rest with
    | nil => exact List.pairwise_singleton _ _
    | cons b rest =>
      obtain ⟨least, sorted⟩ := List.pairwise_cons.mp h
      rw [eraseReps_cons_cons]
      split
      · exact ih sorted
      · next apart =>
        refine List.pairwise_cons.mpr ⟨fun c hc => ?_, ih sorted⟩
        rw [mem_eraseReps] at hc
        refine String.not_le.mp fun hca => apart ?_
        have hab : a ≤ b := String.not_lt.mp (least b List.mem_cons_self)
        have hbc : b ≤ c := by
          rcases List.mem_cons.mp hc with rfl | hc
          · exact String.le_refl c
          · exact String.not_lt.mp ((List.pairwise_cons.mp sorted).1 c hc)
        exact String.le_antisymm hab (String.le_trans hbc hca)

@[simp] theorem mem_distinctSorted {names : List String} {name : String} :
    name ∈ distinctSorted names ↔ name ∈ names := by
  unfold distinctSorted Table.sorted
  simp [List.mem_mergeSort]

theorem sorted_pairwise (names : List String) :
    (Table.sorted names).Pairwise fun a b => ¬ b < a := by
  have sorted : (Table.sorted names).Pairwise fun a b => (!(b < a)) = true :=
    List.pairwise_mergeSort
      (fun a b c hab hbc => by
        simp only [Bool.not_eq_true', decide_eq_false_iff_not, String.not_lt] at hab hbc ⊢
        exact String.le_trans hab hbc)
      (fun a b => by
        simp only [Bool.or_eq_true, Bool.not_eq_true', decide_eq_false_iff_not, String.not_lt]
        exact String.le_total a b) names
  exact sorted.imp fun h => by simpa using h

theorem distinctSorted_increasing (names : List String) :
    (distinctSorted names).Pairwise (· < ·) :=
  eraseReps_increasing (sorted_pairwise names)

theorem increasing_unique {names others : List String} (h : names.Pairwise (· < ·))
    (h' : others.Pairwise (· < ·)) (same : ∀ name, name ∈ names ↔ name ∈ others) :
    names = others := by
  have distinct {l : List String} (h : l.Pairwise (· < ·)) : l.Nodup := by
    refine h.imp fun below e => ?_
    rw [e] at below
    exact String.lt_irrefl _ below
  have perm : names.Perm others :=
    (List.perm_ext_iff_of_nodup (distinct h) (distinct h')).mpr same
  refine perm.eq_of_pairwise (fun a b _ _ hab hba => ?_) h h'
  exact absurd (String.lt_trans hab hba) (String.lt_irrefl a)

/-- Order and repetitions are all that is lost. -/
theorem distinctSorted_eq_iff {names others : List String} :
    distinctSorted names = distinctSorted others ↔ ∀ name, name ∈ names ↔ name ∈ others := by
  constructor
  · intro h name
    rw [← mem_distinctSorted, h, mem_distinctSorted]
  · intro same
    refine increasing_unique (distinctSorted_increasing names) (distinctSorted_increasing others) ?_
    intro name
    rw [mem_distinctSorted, mem_distinctSorted]
    exact same name

theorem distinctSorted_of_increasing {names : List String} (h : names.Pairwise (· < ·)) :
    distinctSorted names = names :=
  increasing_unique (distinctSorted_increasing names) h fun _ => mem_distinctSorted

end Distinct

theorem keyOf_nil (recordType field : String) (direction : Direction) :
    keyOf recordType field direction [] = recordType ++ "." ++ field ++ "." ++ direction.text := by
  rw [keyOf, distinctSorted_of_increasing List.Pairwise.nil]

/-- Which groups are active matters, but not how they are listed. -/
theorem keyOf_congr {groups others : List String} (recordType field : String)
    (direction : Direction) (same : ∀ name, name ∈ groups ↔ name ∈ others) :
    keyOf recordType field direction groups = keyOf recordType field direction others := by
  unfold keyOf
  rw [distinctSorted_eq_iff.mpr same]

/-- The end of a key, after the field and its separator. -/
def keyEnd (direction : Direction) (names : List String) : List Char :=
  direction.text.toList ++
    match names with
    | [] => []
    | names => '|' :: (String.intercalate "," names).toList

theorem keyOf_toList (recordType field : String) (direction : Direction) (groups : List String) :
    (keyOf recordType field direction groups).toList =
      recordType.toList ++ '.' :: field.toList ++
        '.' :: keyEnd direction (distinctSorted groups) := by
  unfold keyOf keyEnd
  cases distinctSorted groups with
  | nil => simp
  | cons name rest => simp

theorem intercalate_inj {names others : List String} (hn : names ≠ []) (ho : others ≠ [])
    (plain : ∀ name ∈ names, ',' ∉ name.toList) (plain' : ∀ name ∈ others, ',' ∉ name.toList)
    (h : (String.intercalate "," names).toList = (String.intercalate "," others).toList) :
    names = others := by
  rw [String.toList_intercalate, String.toList_intercalate] at h
  have split := congrArg (List.splitOn ',') h
  have comma : ",".toList = [','] := rfl
  rw [comma, List.splitOn_intercalate ',' (by simpa using plain) (by simpa using hn),
    List.splitOn_intercalate ',' (by simpa using plain') (by simpa using ho)] at split
  exact List.map_injective_iff.mpr (fun _ _ => String.toList_inj.mp) split

theorem keyEnd_inj {direction direction' : Direction} {names others : List String}
    (plain : ∀ name ∈ names, ',' ∉ name.toList) (plain' : ∀ name ∈ others, ',' ∉ name.toList)
    (h : keyEnd direction names = keyEnd direction' others) :
    direction = direction' ∧ names = others := by
  have same : direction = direction' := by
    cases direction <;> cases direction' <;> first | rfl | cases h
  subst same
  refine ⟨rfl, ?_⟩
  have rest := List.append_cancel_left h
  cases names with
  | nil =>
    cases others with
    | nil => rfl
    | cons other others => cases rest
  | cons name names =>
    cases others with
    | nil => cases rest
    | cons other others =>
      exact intercalate_inj nofun nofun plain plain' (List.cons.inj rest).2

theorem dot_notMem_intercalate {names : List String} (plain : ∀ name ∈ names, '.' ∉ name.toList) :
    '.' ∉ (String.intercalate "," names).toList := by
  induction names with
  | nil => simp
  | cons name rest ih =>
    have here := plain name List.mem_cons_self
    have later := ih fun other ho => plain other (List.mem_cons_of_mem name ho)
    cases rest with
    | nil =>
      rw [String.intercalate_singleton]
      exact here
    | cons other rest =>
      rw [String.intercalate_cons_cons, String.toList_append, String.toList_append,
        List.mem_append, List.mem_append, not_or, not_or]
      exact ⟨⟨here, by decide⟩, later⟩

theorem dot_notMem_keyEnd (direction : Direction) {names : List String}
    (plain : ∀ name ∈ names, '.' ∉ name.toList) : '.' ∉ keyEnd direction names := by
  have way : '.' ∉ direction.text.toList := by cases direction <;> decide
  unfold keyEnd
  rw [List.mem_append, not_or]
  refine ⟨way, ?_⟩
  cases names with
  | nil => exact List.not_mem_nil
  | cons name rest =>
    rw [List.mem_cons, not_or]
    exact ⟨by decide, dot_notMem_intercalate plain⟩

/-- A record type without a dot, and groups without dots and commas, are told apart by the key. The
field may be any text. -/
theorem keyOf_eq_iff {recordType recordType' field field' : String}
    {direction direction' : Direction} {groups groups' : List String}
    (type : '.' ∉ recordType.toList) (type' : '.' ∉ recordType'.toList)
    (plain : ∀ name ∈ groups, '.' ∉ name.toList ∧ ',' ∉ name.toList)
    (plain' : ∀ name ∈ groups', '.' ∉ name.toList ∧ ',' ∉ name.toList) :
    keyOf recordType field direction groups = keyOf recordType' field' direction' groups' ↔
      recordType = recordType' ∧ field = field' ∧ direction = direction' ∧
        ∀ name, name ∈ groups ↔ name ∈ groups' := by
  constructor
  · intro h
    have text := congrArg String.toList h
    rw [keyOf_toList, keyOf_toList, List.append_assoc, List.append_assoc] at text
    have dotless : '.' ∉ keyEnd direction (distinctSorted groups) :=
      dot_notMem_keyEnd direction fun name hn => (plain name (mem_distinctSorted.mp hn)).1
    have dotless' : '.' ∉ keyEnd direction' (distinctSorted groups') :=
      dot_notMem_keyEnd direction' fun name hn => (plain' name (mem_distinctSorted.mp hn)).1
    obtain ⟨sameType, rest⟩ := Text.first_cut type type' text
    obtain ⟨sameField, ends⟩ := Text.last_cut dotless dotless' rest
    obtain ⟨sameWay, sameGroups⟩ := keyEnd_inj
      (fun name hn => (plain name (mem_distinctSorted.mp hn)).2)
      (fun name hn => (plain' name (mem_distinctSorted.mp hn)).2) ends
    exact ⟨String.toList_inj.mp sameType, String.toList_inj.mp sameField, sameWay,
      distinctSorted_eq_iff.mp sameGroups⟩
  · rintro ⟨rfl, rfl, rfl, same⟩
    exact keyOf_congr recordType field direction same

/-- The order of groups does not count; a dot within a field does no harm. -/
theorem keyOf_eq_iff_first :
    keyOf "Doc" "name.first" .outbound ["b", "a", "b"] =
        keyOf "Doc" "name.first" .outbound ["a", "b"] ∧
      keyOf "Doc" "name.first" .outbound ["a"] ≠ keyOf "Doc" "name" .outbound ["a"] := by
  constructor
  · refine (keyOf_eq_iff (by decide) (by decide) (by decide) (by decide)).mpr ⟨rfl, rfl, rfl, ?_⟩
    intro name
    simp only [List.mem_cons, List.not_mem_nil, or_false]
    constructor
    · rintro (hb | ha | hb)
      · exact .inr hb
      · exact .inl ha
      · exact .inr hb
    · exact .inr
  · intro h
    have same := (keyOf_eq_iff (by decide) (by decide) (by decide) (by decide)).mp h
    exact absurd same.2.1 (by decide)

/-- A dot within a record type and a comma within a group are lost in the key. -/
theorem keyOf_ambiguous :
    keyOf "Order" "line.sku" .inbound [] = keyOf "Order.line" "sku" .inbound [] ∧
      keyOf "Doc" "name" .inbound ["a,b"] = keyOf "Doc" "name" .inbound ["a", "b"] ∧
      "Order" ≠ "Order.line" ∧ ¬ ("a" ∈ ["a,b"] ↔ "a" ∈ ["a", "b"]) := by
  refine ⟨?_, ?_, by decide, by decide⟩
  · rw [keyOf_nil, keyOf_nil]
    rfl
  · have joined : distinctSorted ["a,b"] = ["a,b"] := distinctSorted_of_increasing (by decide)
    have apart : distinctSorted ["a", "b"] = ["a", "b"] := distinctSorted_of_increasing (by decide)
    rw [keyOf, keyOf, joined, apart]
    rfl

end FieldPipeline.Processor
