import FieldPipeline.Proofs.PipelineKey
import FieldPipeline.Proofs.Visits
import FieldPipeline.Proofs.Walk
import FieldPipeline.Scripted.Form
import Mathlib.Data.List.Dedup
import Mathlib.Data.List.Induction

namespace FieldPipeline

open Outcome

variable {ρ σ : Type}

/-- A field is the same in two records: its value, and whether it was supplied. -/
def Record.SameAt [Record ρ σ] (a b : ρ) (field : String) : Prop :=
  Record.get? a field = Record.get? b field ∧ Record.isFilled a field = Record.isFilled b field

theorem Record.SameAt.trans [Record ρ σ] {a b c : ρ} {field : String} (h : SameAt a b field)
    (h' : SameAt b c field) : SameAt a c field :=
  ⟨h.1.trans h'.1, h.2.trans h'.2⟩

theorem Record.SameAt.symm [Record ρ σ] {a b : ρ} {field : String} (h : SameAt a b field) :
    SameAt b a field :=
  ⟨h.1.symm, h.2.symm⟩

/-- Neither setting a field nor marking it as never supplied touches another field. -/
class LocalRecord (ρ : Type) {σ : outParam Type} [Record ρ σ] : Prop where
  set_sameAt (r : ρ) (field : String) (v : Value) {other : String} (apart : other ≠ field) :
    Record.SameAt (Record.set r field v) r other
  unfill_sameAt (r : ρ) (field : String) {other : String} (apart : other ≠ field) :
    Record.SameAt (Record.unfill r field) r other

/-- Setting a field fills it, and marking it as never supplied keeps its value or removes it.
Neither touches another field. -/
class LawfulRecord (ρ : Type) {σ : outParam Type} [Record ρ σ] : Prop where
  get?_set (r : ρ) (field : String) (v : Value) : Record.get? (Record.set r field v) field = some v
  isFilled_set (r : ρ) (field : String) (v : Value) :
    Record.isFilled (Record.set r field v) field = true
  set_sameAt (r : ρ) (field : String) (v : Value) {other : String} (apart : other ≠ field) :
    Record.SameAt (Record.set r field v) r other
  get?_unfill (r : ρ) (field : String) :
    Record.get? (Record.unfill r field) field = Record.get? r field ∨
      Record.get? (Record.unfill r field) field = none
  isFilled_unfill (r : ρ) (field : String) :
    Record.isFilled (Record.unfill r field) field = false
  unfill_sameAt (r : ρ) (field : String) {other : String} (apart : other ≠ field) :
    Record.SameAt (Record.unfill r field) r other

instance [Record ρ σ] [LawfulRecord ρ] : LocalRecord ρ where
  set_sameAt := LawfulRecord.set_sameAt
  unfill_sameAt := LawfulRecord.unfill_sameAt

/-- One call that declares a field. -/
structure FieldCall (ρ σ : Type) where
  recordType : String
  direction : Direction
  field : String
  declarations : List (Declaration ρ σ)

namespace Metadata

/-- The metadata that a sequence of calls comes to. -/
def ofCalls (calls : List (FieldCall ρ σ)) : Metadata ρ σ :=
  calls.foldl (fun m c => m.declare c.recordType c.direction c.field c.declarations) []

/-- The fields that were declared for a type and a direction, in the order of the last declaration
of each. -/
def declaredNames (calls : List (FieldCall ρ σ)) (recordType : String) (direction : Direction) :
    List String :=
  ((calls.filter fun c => (recordType, direction) = (c.recordType, c.direction)).map
    (·.field)).dedup

theorem fields_declare (m : Metadata ρ σ) (recordType field : String) (direction : Direction)
    (declarations : List (Declaration ρ σ)) (recordType' : String) (direction' : Direction) :
    (m.declare recordType direction field declarations).fields recordType' direction' =
      if (recordType', direction') = (recordType, direction) then
        (m.fields recordType direction).filter (·.field ≠ field) ++ [⟨field, declarations⟩]
      else m.fields recordType' direction' := by
  unfold declare
  rw [fields, Table.get?_put]
  split
  · rfl
  · rfl

theorem dedup_concat (names : List String) (name : String) :
    (names ++ [name]).dedup = names.dedup.filter (· ≠ name) ++ [name] := by
  induction names with
  | nil => rfl
  | cons first rest ih =>
    by_cases again : first ∈ rest
    · rw [List.cons_append, List.dedup_cons_of_mem (List.mem_append_left _ again),
        List.dedup_cons_of_mem again, ih]
    rw [List.dedup_cons_of_notMem again]
    by_cases same : first = name
    · subst same
      rw [List.cons_append, List.dedup_cons_of_mem (List.mem_append_right _ List.mem_cons_self), ih,
        List.filter_cons_of_neg (by simp)]
    · have apart : first ∉ rest ++ [name] := by simp [again, same]
      rw [List.cons_append, List.dedup_cons_of_notMem apart, ih,
        List.filter_cons_of_pos (by simpa using same), List.cons_append]

theorem names_ofCalls (calls : List (FieldCall ρ σ)) (recordType : String) (direction : Direction) :
    ((ofCalls calls).fields recordType direction).map (·.field) =
      declaredNames calls recordType direction := by
  induction calls using List.reverseRecOn with
  | nil => rfl
  | append_singleton calls c ih =>
    have last : ofCalls (calls ++ [c]) =
        (ofCalls calls).declare c.recordType c.direction c.field c.declarations :=
      List.foldl_concat ..
    rw [declaredNames] at ih ⊢
    rw [last, fields_declare, List.filter_append]
    split
    · next here =>
      cases here
      rw [List.filter_cons_of_pos (by simp), List.filter_nil, List.map_append, List.map_append,
        List.map_singleton, List.map_singleton, dedup_concat, ← ih, List.filter_map]
      rfl
    · next elsewhere =>
      rw [List.filter_cons_of_neg (by simpa using elsewhere), List.filter_nil, List.append_nil, ih]

end Metadata

namespace Processor

variable [Record ρ σ] {p : Processor ρ σ} {context : Value} {direction : Direction}
  {fields : List (FieldDeclarations ρ σ)} {record final : ρ} {report report' : Report}
  {w w' : Workspace ρ σ}

section Local

variable [LocalRecord ρ]

theorem afterRejection_sameAt {mode : ErrorMode} {left : ρ} {field other : String}
    (h : afterRejection mode record field = some left) (apart : other ≠ field) :
    Record.SameAt left record other := by
  cases mode with
  | failFast => cases h
  | collectFailToInput =>
    cases h
    exact ⟨rfl, rfl⟩
  | collectFailToNull =>
    cases h
    exact LocalRecord.set_sameAt record field .null apart
  | collectNone =>
    cases h
    exact (LocalRecord.unfill_sameAt _ field apart).trans
      (LocalRecord.set_sameAt record field .null apart)

theorem Handles.sameAt {f : FieldDeclarations ρ σ} {left : ρ} {verdict : Verdict}
    (h : p.Handles context direction f record w verdict left w') {other : String}
    (apart : other ≠ f.field) : Record.SameAt left record other := by
  cases h with
  | processed => exact LocalRecord.set_sameAt record f.field _ apart
  | collected filled built ran mode => exact afterRejection_sameAt mode apart
  | _ => exact ⟨rfl, rfl⟩

/-- A run touches no field but those that it handles, however it ends. -/
theorem processFields_sameAt (p : Processor ρ σ) (context : Value) (direction : Direction)
    (fields : List (FieldDeclarations ρ σ)) (record : ρ) (report : Report) (w : Workspace ρ σ)
    {other : String} (apart : other ∉ fields.map (·.field)) :
    Record.SameAt (p.processFields context direction fields record report w).1.2 record other := by
  induction fields generalizing record report w with
  | nil => exact ⟨rfl, rfl⟩
  | cons f rest ih =>
    rw [List.map_cons, List.mem_cons, not_or] at apart
    obtain ⟨verdict, left, w', h⟩ :=
      p.exists_handles context direction f record w
    rw [h.processFields_cons]
    have here := h.sameAt apart.1
    cases verdict.enter f.field report with
    | error fault => exact here
    | ok report' => exact (ih left report' w' apart.2).trans here

end Local

variable [LawfulRecord ρ]

/-- What a run adds to the report: the names are those of the supplied fields, each once and in the
order of the fields. -/
theorem processFields_names (distinct : (fields.map (·.field)).Nodup)
    (h : p.processFields context direction fields record report w = ((.ok report', final), w')) :
    ∃ done failed, report'.processed = report.processed ++ done ∧
      report'.errors = report.errors ++ failed ∧
      done.Sublist (fields.map (·.field)) ∧
      (failed.map (·.property)).Sublist ((fields.map (·.field)).map some) ∧
      (done.map some ++ failed.map (·.property)).Perm
        (((fields.map (·.field)).filter (Record.isFilled record)).map some) := by
  induction fields generalizing record report w with
  | nil =>
    cases h
    exact ⟨[], [], by simp, by simp, List.Sublist.refl _, List.Sublist.refl _, List.Perm.refl _⟩
  | cons f rest ih =>
    obtain ⟨verdict, left, w₁, step⟩ :=
      p.exists_handles context direction f record w
    rw [step.processFields_cons] at h
    rw [List.map_cons, List.nodup_cons] at distinct
    -- Whether a later field is supplied does not depend on what became of this one.
    have later : (rest.map (·.field)).filter (Record.isFilled left) =
        (rest.map (·.field)).filter (Record.isFilled record) := by
      refine List.filter_congr fun name hn => ?_
      have apart : name ≠ f.field := by
        rintro rfl
        exact distinct.1 hn
      exact (step.sameAt apart).2
    rw [List.map_cons, List.map_cons]
    cases step with
    | absent empty =>
      obtain ⟨done, failed, hd, he, sd, sf, names⟩ := ih distinct.2 h
      rw [List.filter_cons_of_neg (by simp [empty])]
      exact ⟨done, failed, hd, he, sd.cons _, sf.cons _, names⟩
    | processed filled built ran =>
      obtain ⟨done, failed, hd, he, sd, sf, names⟩ := ih distinct.2 h
      rw [List.filter_cons_of_pos filled, List.map_cons, ← later]
      refine ⟨f.field :: done, failed, ?_, he, sd.cons_cons _, sf.cons _, names.cons _⟩
      rw [hd, List.append_assoc]
      rfl
    | @collected _ r _ _ _ filled built ran mode =>
      obtain ⟨done, failed, hd, he, sd, sf, names⟩ := ih distinct.2 h
      rw [List.filter_cons_of_pos filled, List.map_cons, ← later]
      refine ⟨done, { r with property := some f.field } :: failed, hd, ?_, sd.cons _,
        sf.cons_cons _, ?_⟩
      · rw [he, List.append_assoc]
        rfl
      · exact List.perm_middle.trans (names.cons _)
    | unbuilt | refused | broken => cases h

theorem named_mem {failed : List Rejection} {names : List String} {e : Rejection} {field : String}
    (h : (failed.map (·.property)).Sublist (names.map some)) (hm : e ∈ failed)
    (named : e.property = some field) : field ∈ names := by
  have there : some field ∈ failed.map (·.property) := List.mem_map.mpr ⟨e, hm, named⟩
  obtain ⟨name, hn, same⟩ := List.mem_map.mp (h.subset there)
  cases same
  exact hn

/-- What became of one field in a run that does not end early: the field is handled as it was at the
start, is left as its verdict says, and the report has its name for no other reason. -/
theorem processFields_fate {d : FieldDeclarations ρ σ} (hd : d ∈ fields)
    (distinct : (fields.map (·.field)).Nodup)
    (h : p.processFields context direction fields record {} w = ((.ok report', final), w')) :
    ∃ verdict current w₁ left w₂,
      p.Reaches context direction fields record w d current w₁ ∧
      p.Handles context direction d current w₁ verdict left w₂ ∧
      Record.SameAt current record d.field ∧ Record.SameAt final left d.field ∧
      (d.field ∈ report'.processed → ∃ v, verdict = .processed v) ∧
      ∀ e ∈ report'.errors, e.property = some d.field → verdict = .collected e := by
  obtain ⟨before, after, rfl⟩ := List.append_of_mem hd
  rw [List.map_append, List.map_cons, List.nodup_append, List.nodup_cons] at distinct
  obtain ⟨distinct₁, ⟨notAfter, distinct₂⟩, disjoint⟩ := distinct
  have notBefore : d.field ∉ before.map (·.field) :=
    fun hb => disjoint _ hb _ List.mem_cons_self rfl
  obtain ⟨report₁, current, w₁, verdict, report₂, left, w₂, first, step, entered, second⟩ :=
    processFields_split h
  obtain ⟨done, failed, hd, he, sd, sf, -⟩ := processFields_names distinct₁ first
  obtain ⟨done', failed', hd', he', sd', sf', -⟩ := processFields_names distinct₂ second
  have same₁ := p.processFields_sameAt context direction before record {} w notBefore
  have same₂ := p.processFields_sameAt context direction after left report₂ w₂ notAfter
  rw [first] at same₁
  rw [second] at same₂
  -- The other fields have other names, so they add nothing under this one.
  have processed₁ : d.field ∉ report₁.processed := by
    rw [hd, List.nil_append]
    exact fun hm => notBefore (sd.subset hm)
  have errors₁ : ∀ e ∈ report₁.errors, e.property ≠ some d.field := by
    intro e hm named
    rw [he, List.nil_append] at hm
    exact notBefore (named_mem sf hm named)
  refine ⟨verdict, current, w₁, left, w₂, ⟨before, after, report₁, rfl, first⟩, step, same₁, same₂,
    fun hp => ?_, fun e hm named => ?_⟩
  · rw [hd', List.mem_append] at hp
    rcases hp with hp | hp
    · cases verdict with
      | processed v => exact ⟨v, rfl⟩
      | ended fault => cases entered
      | absent | collected r =>
        cases entered
        exact absurd hp processed₁
    · exact absurd (sd'.subset hp) notAfter
  · rw [he', List.mem_append] at hm
    rcases hm with hm | hm
    · cases verdict with
      | collected r =>
        cases entered
        rcases List.mem_append.mp hm with hm | hm
        · exact absurd named (errors₁ e hm)
        · rw [List.mem_singleton.mp hm]
      | ended fault => cases entered
      | absent | processed v =>
        cases entered
        exact absurd named (errors₁ e hm)
    · exact absurd (named_mem sf' hm named) notAfter

/-- The pipeline of a field comes to `result` on the value that the field had at the start. It sees
the record as the fields before have left it. -/
def Yields (p : Processor ρ σ) (record : ρ) (direction : Direction) (w : Workspace ρ σ)
    (d : FieldDeclarations ρ σ) (result : Except Fault Value) : Prop :=
  ∃ current made w₁ w₂ w₃,
    p.Reaches (Record.context record) direction
      (p.metadata.fields (Record.typeName record) direction) record w d current w₁ ∧
    p.pipeline current d direction w₁ = (.ok made, w₂) ∧
    (Build.ofAct (made.run ((Record.get? record d.field).getD .null)
      { record := current, context := Record.context record, direction,
        tracePaths := p.options.tracePaths }) : Build ρ σ Value) w₂ = (result, w₃)

/-- A field after its pipeline rejected it. -/
def Keeps (mode : ErrorMode) (record final : ρ) (field : String) : Prop :=
  match mode with
  | .failFast => False
  | .collectFailToInput =>
    Record.get? final field = Record.get? record field ∧ Record.isFilled final field = true
  | .collectFailToNull =>
    Record.get? final field = some .null ∧ Record.isFilled final field = true
  | .collectNone =>
    (Record.get? final field = some .null ∨ Record.get? final field = none) ∧
      Record.isFilled final field = false

theorem keeps_afterRejection {mode : ErrorMode} {left : ρ} {field : String}
    (h : afterRejection mode record field = some left)
    (filled : Record.isFilled record field = true) : Keeps mode record left field := by
  cases mode with
  | failFast => cases h
  | collectFailToInput =>
    cases h
    exact ⟨rfl, filled⟩
  | collectFailToNull =>
    cases h
    exact ⟨LawfulRecord.get?_set .., LawfulRecord.isFilled_set ..⟩
  | collectNone =>
    cases h
    have null := LawfulRecord.get?_set record field .null
    refine ⟨?_, LawfulRecord.isFilled_unfill ..⟩
    rcases LawfulRecord.get?_unfill (Record.set record field .null) field with same | gone
    · exact .inl (same.trans null)
    · exact .inr gone

omit [LawfulRecord ρ] in
theorem Keeps.congr {mode : ErrorMode} {current left : ρ} {field : String}
    (h : Keeps mode current left field) (before : Record.SameAt current record field)
    (after : Record.SameAt final left field) : Keeps mode record final field := by
  unfold Keeps at h ⊢
  rw [after.1, after.2, ← before.1]
  exact h

section Process

variable {calls : List (FieldCall ρ σ)}

omit [Record ρ σ] [LawfulRecord ρ] in
theorem fields_nodup (declared : p.metadata = .ofCalls calls) (recordType : String)
    (direction : Direction) : ((p.metadata.fields recordType direction).map (·.field)).Nodup := by
  rw [declared, Metadata.names_ofCalls]
  exact List.nodup_dedup _

theorem process_names (declared : p.metadata = .ofCalls calls)
    (h : p.process record direction w = ((.ok report, final), w')) :
    let names := Metadata.declaredNames calls (Record.typeName record) direction
    report.processed.Sublist names ∧ (report.errors.map (·.property)).Sublist (names.map some) ∧
      (report.processed.map some ++ report.errors.map (·.property)).Perm
        ((names.filter (Record.isFilled record)).map some) := by
  intro names
  obtain ⟨done, failed, hd, he, sd, sf, perm⟩ :=
    processFields_names (fields_nodup declared _ direction) h
  rw [declared, Metadata.names_ofCalls] at sd sf perm
  rw [hd, he]
  exact ⟨sd, sf, perm⟩

theorem process_fate (declared : p.metadata = .ofCalls calls)
    (h : p.process record direction w = ((.ok report, final), w')) {d : FieldDeclarations ρ σ}
    (hd : d ∈ p.metadata.fields (Record.typeName record) direction) :
    (d.field ∈ report.processed → ∃ v, p.Yields record direction w d (.ok v) ∧
      Record.get? final d.field = some v ∧ Record.isFilled final d.field = true) ∧
    ∀ e ∈ report.errors, e.property = some d.field →
      ∃ r : Rejection, e = { r with property := some d.field } ∧
        p.Yields record direction w d (.error (.rejected r)) ∧
        Keeps p.options.errorMode record final d.field := by
  obtain ⟨verdict, current, w₁, left, w₃, reaches, step, start, last, processed, failed⟩ :=
    processFields_fate hd (fields_nodup declared _ direction) h
  constructor
  · intro hp
    obtain ⟨v, rfl⟩ := processed hp
    cases step with
    | @processed made _ w₂ _ filled built ran =>
      refine ⟨v, ⟨current, made, w₁, w₂, w₃, reaches, built, ?_⟩, ?_, ?_⟩
      · rw [← start.1]
        exact ran
      · rw [last.1, LawfulRecord.get?_set]
      · rw [last.2, LawfulRecord.isFilled_set]
  · intro e he named
    cases failed e he named
    cases step with
    | @collected made r _ w₂ _ filled built ran mode =>
      refine ⟨r, rfl, ⟨current, made, w₁, w₂, w₃, reaches, built, ?_⟩, ?_⟩
      · rw [← start.1]
        exact ran
      · exact (keeps_afterRejection mode filled).congr start last

theorem process_untouched (declared : p.metadata = .ofCalls calls)
    (h : p.process record direction w = ((.ok report, final), w')) {name : String}
    (spared : name ∉ Metadata.declaredNames calls (Record.typeName record) direction ∨
      Record.isFilled record name = false) : Record.SameAt final record name := by
  rw [← Metadata.names_ofCalls, ← declared] at spared
  by_cases there : name ∈ (p.metadata.fields (Record.typeName record) direction).map (·.field)
  · have empty := spared.resolve_left fun absent => absent there
    obtain ⟨d, hd, rfl⟩ := List.mem_map.mp there
    obtain ⟨verdict, current, w₁, left, w₃, -, step, start, last, -, -⟩ :=
      processFields_fate hd (fields_nodup declared _ direction) h
    rw [← start.2] at empty
    cases step with
    | absent => exact last.trans start
    | unbuilt filled | processed filled | collected filled | refused filled | broken filled =>
      rw [empty] at filled
      cases filled
  · have same := p.processFields_sameAt (Record.context record) direction _ record {} w there
    rw [← process, h] at same
    exact same

/-- A run that collects rejections accounts for every field. -/
theorem process_collects (declared : p.metadata = .ofCalls calls)
    (h : p.process record direction w = ((.ok report, final), w')) :
    let names := Metadata.declaredNames calls (Record.typeName record) direction
    (report.processed.map some ++ report.errors.map (·.property)).Nodup ∧
    (∀ slot, slot ∈ report.processed.map some ++ report.errors.map (·.property) ↔
      ∃ name ∈ names, Record.isFilled record name = true ∧ slot = some name) ∧
    report.processed.Sublist names ∧
    (report.errors.map (·.property)).Sublist (names.map some) ∧
    (∀ d ∈ p.metadata.fields (Record.typeName record) direction,
      (d.field ∈ report.processed → ∃ v, p.Yields record direction w d (.ok v) ∧
        Record.get? final d.field = some v ∧ Record.isFilled final d.field = true) ∧
      ∀ e ∈ report.errors, e.property = some d.field →
        ∃ r : Rejection, e = { r with property := some d.field } ∧
          p.Yields record direction w d (.error (.rejected r)) ∧
          Keeps p.options.errorMode record final d.field) ∧
    ∀ name, name ∉ names ∨ Record.isFilled record name = false →
      Record.SameAt final record name := by
  intro names
  obtain ⟨inOrder, inOrder', account⟩ := process_names declared h
  have distinct : ((names.filter (Record.isFilled record)).map some).Nodup :=
    ((List.nodup_dedup _).filter _).map fun _ _ same => Option.some.inj same
  refine ⟨account.nodup_iff.mpr distinct, fun slot => ?_, inOrder, inOrder',
    fun d hd => process_fate declared h hd, fun name => process_untouched declared h⟩
  rw [account.mem_iff, List.mem_map]
  constructor
  · rintro ⟨name, hn, rfl⟩
    obtain ⟨there, filled⟩ := List.mem_filter.mp hn
    exact ⟨name, there, filled, rfl⟩
  · rintro ⟨name, there, filled, rfl⟩
    exact ⟨name, List.mem_filter.mpr ⟨there, filled⟩, rfl⟩

end Process

open Scripted in
instance : LawfulRecord Form where
  get?_set r field v := by
    change (r.set field v).get? field = _
    simp
  isFilled_set r field v := by
    change (r.set field v).isFilled field = _
    simp [Form.isFilled_set]
  set_sameAt r field v other apart := by
    constructor
    · change (r.set field v).get? other = r.get? other
      simp [apart]
    · change (r.set field v).isFilled other = r.isFilled other
      simp [Form.isFilled_set, apart]
  get?_unfill r field := by
    change (r.unfill field).get? field = r.get? field ∨ (r.unfill field).get? field = none
    rw [Form.get?_unfill]
    split
    · exact .inr rfl
    · exact .inl rfl
  isFilled_unfill r field := by
    change (r.unfill field).isFilled field = _
    simp [Form.isFilled_unfill]
  unfill_sameAt r field other apart := by
    constructor
    · change (r.unfill field).get? other = r.get? other
      rw [Form.get?_unfill, if_neg fun here => apart here.1]
    · change (r.unfill field).isFilled other = r.isFilled other
      simp [Form.isFilled_unfill, apart]

/-- The callable of a field that has to be a list. -/
def eachItem (number : Nat) : Compiled Scripted.Form Scripted.Desk :=
  ⟨number, (Node.fresh "Chain" [.fresh "Each" [] .each] .pipe).compile⟩

theorem compileAll_each (r : Resolver Scripted.Form Scripted.Desk) (owner : Scripted.Form)
    (w : Workspace Scripted.Form Scripted.Desk) :
    Chain.compileAll r [.group (.each (some 0))] owner .inbound w =
      (.ok (eachItem w.issued), { w with issued := w.issued + 1 }) := by
  have walk : Chain.Compiles r owner .inbound .all 0 [] [.group (.each (some 0))] w
      [.fresh "Each" [] .each] (1 + 0 + 0) w :=
    .active Take.noConfusion rfl rfl (.full 0 [] [] w) rfl (.atEnd 1 _ w)
  exact Chain.compileAll_eq_ok.mpr ⟨[.fresh "Each" [] .each], _, w, walk, rfl, rfl⟩

theorem pipeline_each (p : Processor Scripted.Form Scripted.Desk) {record : Scripted.Form}
    {field : String} {w : Workspace Scripted.Form Scripted.Desk}
    (new : w.cache.pipeline? (pipelineKey record field .inbound) = none) :
    p.pipeline record ⟨field, [.group (.each (some 0))]⟩ .inbound w =
      (.ok (eachItem w.issued), { w with
        cache := (w.cache.keepPipeline (pipelineKey record field .inbound) (eachItem w.issued)).2
        issued := w.issued + 1 }) :=
  pipeline_compiled (f := ⟨field, _⟩) new (compileAll_each p.resolver record w)

/-- A run with a field that is processed, one that was declared twice and is rejected, and one that
was not supplied. -/
theorem process_collects_tags :
    let calls : List (FieldCall Scripted.Form Scripted.Desk) :=
      [⟨"Doc", .inbound, "age", []⟩, ⟨"Doc", .inbound, "tags", [.group (.each (some 0))]⟩,
        ⟨"Doc", .outbound, "tags", []⟩, ⟨"Doc", .inbound, "age", [.group (.each (some 0))]⟩,
        ⟨"Doc", .inbound, "note", []⟩]
    let p : Processor Scripted.Form Scripted.Desk :=
      { metadata := .ofCalls calls, options := { errorMode := .collectNone } }
    let form : Scripted.Form :=
      { fields := [("age", .string "x"), ("tags", .array []), ("note", .null)]
        filled := ["tags", "age"] }
    ∃ report final w',
      p.process form .inbound { run := { app := {} } } = ((.ok report, final), w') ∧
      report.processed = ["tags"] ∧ report.errors.map (·.property) = [some "age"] ∧
      Record.isFilled final "age" = false ∧ Record.SameAt final form "note" := by
  intro calls p form
  let each : List (Declaration Scripted.Form Scripted.Desk) := [.group (.each (some 0))]
  have apart : pipelineKey form "tags" .inbound ≠ pipelineKey form "age" .inbound := by
    change keyOf "Doc" "tags" .inbound [] ≠ keyOf "Doc" "age" .inbound []
    rw [keyOf_nil, keyOf_nil]
    decide
  let between : Scripted.Form := Record.set form "tags" (.array [])
  let w : Workspace Scripted.Form Scripted.Desk :=
    { cache := { pipelines := [(pipelineKey form "tags" .inbound, eachItem 0)] }
      run := { app := {} }, issued := 1 }
  let w' : Workspace Scripted.Form Scripted.Desk :=
    { w with cache := (w.cache.keepPipeline (pipelineKey form "age" .inbound) (eachItem 1)).2
             issued := 2 }
  let refused : Rejection :=
    { template := Rejection.notIterable, params := [("type", .string "string")]
      origin := some "Each", property := some "age" }
  have tags : p.Handles .null .inbound ⟨"tags", each⟩ form { run := { app := {} } }
      (.processed (.array [])) between w :=
    .processed rfl (p.pipeline_each rfl) rfl
  have new : w.cache.pipeline? (pipelineKey between "age" .inbound) = none := if_neg apart
  have age : p.Handles .null .inbound ⟨"age", each⟩ between w (.collected refused)
      (Record.unfill (Record.set between "age" .null) "age") w' :=
    .collected rfl (p.pipeline_each new) rfl rfl
  have note : p.Handles .null .inbound ⟨"note", []⟩
      (Record.unfill (Record.set between "age" .null) "age") w' .absent _ w' :=
    .absent rfl
  have ran : p.process form .inbound { run := { app := {} } } = _ :=
    (tags.processFields_cons [⟨"age", each⟩, ⟨"note", []⟩] {}).trans
      ((age.processFields_cons [⟨"note", []⟩] { processed := ["tags"] }).trans
        (note.processFields_cons [] { processed := ["tags"], errors := [refused] }))
  exact ⟨_, _, _, ran, rfl, rfl, rfl, (process_collects rfl ran).2.2.2.2.2 "note" (.inr rfl)⟩

end Processor

end FieldPipeline
