import FieldPipeline.Proofs.Collecting

namespace FieldPipeline

open Outcome

variable {ρ σ : Type}

theorem Verdict.enter_errors {verdict : Verdict} {field : String} {report report' : Report}
    (h : verdict.enter field report = .ok report') : report.errors <+: report'.errors := by
  cases verdict with
  | ended fault => cases h
  | collected r =>
    cases h
    exact List.prefix_append _ _
  | absent | processed v =>
    cases h
    exact List.prefix_rfl

theorem Verdict.enter_clean {verdict : Verdict} {field : String} {report report' : Report}
    (h : verdict.enter field report = .ok report') (kept : ∀ e, verdict ≠ .collected e) :
    report'.errors = report.errors := by
  cases verdict with
  | ended fault => cases h
  | collected r => exact absurd rfl (kept r)
  | absent | processed v =>
    cases h
    rfl

namespace Processor

variable [Record ρ σ] {p : Processor ρ σ} {context : Value} {direction : Direction}
  {fields before after : List (FieldDeclarations ρ σ)} {d f : FieldDeclarations ρ σ}
  {record final : ρ} {report report' : Report} {fault : Fault} {w w' : Workspace ρ σ}

theorem Handles.ended_record {left : ρ}
    (h : p.Handles context direction f record w (.ended fault) left w') : left = record := by
  cases h <;> rfl

/-- A run that ends early, around the field at which it ends. -/
theorem processFields_ended
    (h : p.processFields context direction fields record report w = ((.error fault, final), w')) :
    ∃ before d after report₁ w₁, fields = before ++ d :: after ∧
      p.processFields context direction before record report w = ((.ok report₁, final), w₁) ∧
      p.Handles context direction d final w₁ (.ended fault) final w' := by
  induction fields generalizing record report w with
  | nil => cases h
  | cons f rest ih =>
    obtain ⟨verdict, left, w₁, step⟩ := p.exists_handles context direction f record w
    rw [step.processFields_cons] at h
    cases entered : verdict.enter f.field report with
    | error raised =>
      rw [entered] at h
      cases h
      have ended : verdict = .ended fault := by
        cases verdict <;> cases entered
        rfl
      subst ended
      have same := step.ended_record
      subst same
      exact ⟨[], f, rest, report, w, rfl, rfl, step⟩
    | ok report₁ =>
      rw [entered] at h
      obtain ⟨before, d, after, report₂, w₂, rfl, done, ended⟩ := ih h
      refine ⟨f :: before, d, after, report₂, w₂, rfl, ?_, ended⟩
      rw [step.processFields_cons, entered]
      exact done

/-- A run that ends at a field comes to none of those behind it. -/
theorem not_reaches_after (distinct : ((before ++ d :: after).map (·.field)).Nodup)
    {report₁ : Report} {current : ρ} {w₁ : Workspace ρ σ}
    (done : p.processFields context direction before record {} w = ((.ok report₁, current), w₁))
    (ended : p.Handles context direction d current w₁ (.ended fault) current w')
    (behind : f ∈ after) (other : ρ) (u : Workspace ρ σ) :
    ¬ p.Reaches context direction (before ++ d :: after) record w f other u := by
  rintro ⟨before', after', report₂, split, reached⟩
  have apart := List.nodup_append.mp (List.Nodup.of_map _ distinct)
  have later : d ≠ f := fun same => (List.nodup_cons.mp apart.2.1).1 (same ▸ behind)
  -- The fields before `f` are those before `d`, then `d`, and then some more.
  obtain ⟨more, rfl⟩ : ∃ more, before' = before ++ d :: more := by
    rcases List.append_eq_append_iff.mp split with ⟨more, rfl, tail⟩ | ⟨more, rfl, tail⟩
    · cases more with
      | nil => exact absurd (List.cons.inj tail).1 later
      | cons first more =>
        obtain ⟨rfl, -⟩ := List.cons.inj tail
        exact ⟨more, rfl⟩
    · cases more with
      | nil => exact absurd (List.cons.inj tail).1.symm later
      | cons first more =>
        obtain ⟨rfl, -⟩ := List.cons.inj tail
        have both := apart.2.2 f (List.mem_append_right _ List.mem_cons_self) f
          (List.mem_cons_of_mem _ behind)
        exact absurd rfl both
  rw [processFields_append, done] at reached
  simp only [ended.processFields_cons, Verdict.enter] at reached
  cases reached

theorem Handles.other_metadata {verdict : Verdict} {left : ρ}
    (h : p.Handles context direction f record w verdict left w') (m : Metadata ρ σ) :
    ({ p with metadata := m } : Processor ρ σ).Handles context direction f record w verdict left
      w' := by
  cases h with
  | absent empty => exact .absent empty
  | unbuilt filled built => exact .unbuilt filled built
  | processed filled built ran => exact .processed filled built ran
  | collected filled built ran mode => exact .collected filled built ran mode
  | refused filled built ran mode => exact .refused filled built ran mode
  | broken filled built ran hard => exact .broken filled built ran hard

/-- The fields are all that metadata have to do with a run. -/
theorem processFields_metadata (m : Metadata ρ σ) (fields : List (FieldDeclarations ρ σ))
    (record : ρ) (report : Report) (w : Workspace ρ σ) :
    ({ p with metadata := m } : Processor ρ σ).processFields context direction fields record report
      w = p.processFields context direction fields record report w := by
  induction fields generalizing record report w with
  | nil => rfl
  | cons f rest ih =>
    obtain ⟨verdict, left, w', h⟩ := p.exists_handles context direction f record w
    rw [h.processFields_cons, (h.other_metadata m).processFields_cons]
    cases verdict.enter f.field report with
    | error fault => rfl
    | ok report' => exact ih left report' w'

/-- A pipeline whose compilation fails leaves no pipeline behind. -/
theorem pipeline_unkept {u : Workspace ρ σ}
    (h : p.pipeline record d direction w = (.error fault, u)) :
    u.cache.pipelines = w.cache.pipelines ∧
      u.cache.pipeline? (pipelineKey record d.field direction) = none := by
  cases there : w.cache.pipeline? (pipelineKey record d.field direction) with
  | some kept =>
    rw [pipeline_of_some there] at h
    cases h
  | none =>
    rw [pipeline_of_none there] at h
    rcases compiled : Chain.compileAll p.resolver d.declarations record direction w with
      ⟨raised | made, t⟩
    · rw [compiled] at h
      cases h
      have same := ((Chain.lossless_compileAll ..).after compiled).pipelines
      refine ⟨same, ?_⟩
      rw [Cache.pipeline?, same]
      exact there
    · rw [compiled] at h
      cases h

/-- A run that ends early ends at one field. The fields before it are as a run over them alone
leaves them, and it and the fields behind it are as they were. None of the fields behind it is come
to, and a pipeline that could not be compiled is not kept. -/
theorem process_aborts [LocalRecord ρ]
    (distinct : ((p.metadata.fields (Record.typeName record) direction).map (·.field)).Nodup)
    (h : p.process record direction w = ((.error fault, final), w')) :
    ∃ before d after report₁ w₁,
      p.metadata.fields (Record.typeName record) direction = before ++ d :: after ∧
      (∀ m : Metadata ρ σ, m.fields (Record.typeName record) direction = before →
        ({ p with metadata := m } : Processor ρ σ).process record direction w =
          ((.ok report₁, final), w₁)) ∧
      p.Handles (Record.context record) direction d final w₁ (.ended fault) final w' ∧
      (∀ f ∈ d :: after, Record.SameAt final record f.field) ∧
      (∀ f ∈ after, ∀ current u, ¬ p.Reaches (Record.context record) direction
        (p.metadata.fields (Record.typeName record) direction) record w f current u) ∧
      ∀ raised u, p.pipeline final d direction w₁ = (.error raised, u) →
        u.cache.pipelines = w₁.cache.pipelines ∧
          u.cache.pipeline? (pipelineKey final d.field direction) = none := by
  obtain ⟨before, d, after, report₁, w₁, split, done, ended⟩ := processFields_ended h
  rw [split] at distinct ⊢
  refine ⟨before, d, after, report₁, w₁, rfl, fun m alone => ?_, ended, fun f behind => ?_,
    fun f behind => not_reaches_after distinct done ended behind,
    fun raised u => pipeline_unkept⟩
  · rw [process, alone, processFields_metadata]
    exact done
  · have apart : f.field ∉ before.map (·.field) := by
      intro there
      rw [List.map_append, List.nodup_append] at distinct
      exact distinct.2.2 _ there _ (List.mem_map_of_mem behind) rfl
    have same := p.processFields_sameAt (Record.context record) direction before record {} w apart
    rw [done] at same
    exact same

/-- Three fields that have to be lists. The second is not, and the third keeps its value. -/
theorem process_aborts_age :
    let each : List (Declaration Scripted.Form Scripted.Desk) := [.group (.each (some 0))]
    let p : Processor Scripted.Form Scripted.Desk :=
      { metadata := [(("Doc", .inbound), [⟨"tags", each⟩, ⟨"age", each⟩, ⟨"note", each⟩])] }
    let form : Scripted.Form :=
      { fields := [("age", .string "x"), ("tags", .array []), ("note", .array [.null])]
        filled := ["tags", "age", "note"] }
    ∃ e final w', p.process form .inbound { run := { app := {} } } =
        ((.error (.rejected e), final), w') ∧
      e.property = some "age" ∧ Record.SameAt final form "note" := by
  intro each p form
  have apart : pipelineKey form "tags" .inbound ≠ pipelineKey form "age" .inbound := by
    change keyOf "Doc" "tags" .inbound [] ≠ keyOf "Doc" "age" .inbound []
    rw [keyOf_nil, keyOf_nil]
    decide
  let between : Scripted.Form := Record.set form "tags" (.array [])
  let w : Workspace Scripted.Form Scripted.Desk :=
    { cache := { pipelines := [(pipelineKey form "tags" .inbound, eachItem 0)] }
      run := { app := {} }, issued := 1 }
  let refused : Rejection :=
    { template := Rejection.notIterable, params := [("type", .string "string")]
      origin := some "Each", property := some "age" }
  have tags : p.Handles .null .inbound ⟨"tags", each⟩ form { run := { app := {} } }
      (.processed (.array [])) between w :=
    .processed rfl (p.pipeline_each rfl) rfl
  have new : w.cache.pipeline? (pipelineKey between "age" .inbound) = none := if_neg apart
  have age : p.Handles .null .inbound ⟨"age", each⟩ between w (.ended (.rejected refused))
      between _ :=
    .refused rfl (p.pipeline_each new) rfl rfl
  have ran : p.process form .inbound { run := { app := {} } } = _ :=
    (tags.processFields_cons [⟨"age", each⟩, ⟨"note", each⟩] {}).trans
      (age.processFields_cons [⟨"note", each⟩] { processed := ["tags"] })
  obtain ⟨before, d, after, -, -, split, -, -, spared, -⟩ := process_aborts (by decide) ran
  have last : (⟨"note", each⟩ : FieldDeclarations Scripted.Form Scripted.Desk) ∈ d :: after := by
    have ends := congrArg List.getLast? split
    rw [List.getLast?_append_of_ne_nil _ (List.cons_ne_nil d after)] at ends
    exact List.mem_of_getLast? ends.symm
  exact ⟨refused, between, _, ran, rfl, spared _ last⟩

section Modes

/-- A processor with another error mode. -/
def inMode (p : Processor ρ σ) (mode : ErrorMode) : Processor ρ σ :=
  { p with options := { p.options with errorMode := mode } }

theorem afterRejection_collects {mode : ErrorMode} (collects : mode.collects = true) (record : ρ)
    (field : String) : ∃ left, afterRejection mode record field = some left := by
  cases mode with
  | failFast => cases collects
  | _ => exact ⟨_, rfl⟩

/-- What ends a run at a rejection is collected instead, and nothing else is different. -/
theorem Handles.collecting {mode : ErrorMode} (collects : mode.collects = true) {verdict : Verdict}
    {left : ρ} (h : (p.inMode .failFast).Handles context direction f record w verdict left w') :
    (p.inMode mode).Handles context direction f record w verdict left w' ∧
        (∀ e, verdict ≠ .collected e) ∨
      ∃ e left', verdict = .ended (.rejected e) ∧
        (p.inMode mode).Handles context direction f record w (.collected e) left' w' := by
  cases h with
  | absent empty => exact .inl ⟨.absent empty, nofun⟩
  | unbuilt filled built => exact .inl ⟨.unbuilt filled built, nofun⟩
  | processed filled built ran => exact .inl ⟨.processed filled built ran, nofun⟩
  | collected filled built ran mode => cases mode
  | refused filled built ran _ =>
    obtain ⟨left', keeps⟩ := afterRejection_collects collects record f.field
    exact .inr ⟨_, left', rfl, .collected filled built ran keeps⟩
  | broken filled built ran hard => exact .inl ⟨.broken filled built ran hard, nofun⟩

/-- A run only adds to the rejections that were collected. -/
theorem processFields_errors
    (h : p.processFields context direction fields record report w = ((.ok report', final), w')) :
    report.errors <+: report'.errors := by
  induction fields generalizing record report w with
  | nil =>
    cases h
    exact List.prefix_rfl
  | cons f rest ih =>
    obtain ⟨verdict, left, w₁, step⟩ := p.exists_handles context direction f record w
    rw [step.processFields_cons] at h
    cases entered : verdict.enter f.field report with
    | error fault =>
      rw [entered] at h
      cases h
    | ok report₁ =>
      rw [entered] at h
      exact (Verdict.enter_errors entered).trans (ih h)

/-- Until something is rejected a run is the same in every mode. After that the run that goes on has
the rejection that the other ended with as its first. -/
theorem processFields_modes {mode : ErrorMode} (collects : mode.collects = true)
    (p : Processor ρ σ) (context : Value) (direction : Direction)
    (fields : List (FieldDeclarations ρ σ)) (record : ρ) (report : Report) (w : Workspace ρ σ)
    (clean : report.errors = []) :
    ((p.inMode mode).processFields context direction fields record report w =
        (p.inMode .failFast).processFields context direction fields record report w ∧
      ∀ report' final w',
        (p.inMode .failFast).processFields context direction fields record report w =
          ((.ok report', final), w') → report'.errors = []) ∨
    ∃ e final w',
      (p.inMode .failFast).processFields context direction fields record report w =
        ((.error (.rejected e), final), w') ∧
      ∀ report' left u, (p.inMode mode).processFields context direction fields record report w =
        ((.ok report', left), u) → report'.errors.head? = some e := by
  induction fields generalizing record report w with
  | nil =>
    refine .inl ⟨rfl, fun report' final w' h => ?_⟩
    cases h
    exact clean
  | cons f rest ih =>
    obtain ⟨verdict, left, w₁, step⟩ :=
      (p.inMode .failFast).exists_handles context direction f record w
    rw [step.processFields_cons]
    rcases step.collecting collects with ⟨same, kept⟩ | ⟨e, left', rfl, instead⟩
    · rw [same.processFields_cons]
      cases entered : verdict.enter f.field report with
      | error fault => exact .inl ⟨rfl, nofun⟩
      | ok report₁ => exact ih left report₁ w₁ ((Verdict.enter_clean entered kept).trans clean)
    · refine .inr ⟨e, left, w₁, rfl, fun report' final u h => ?_⟩
      rw [instead.processFields_cons] at h
      obtain ⟨more, grown⟩ := processFields_errors h
      rw [← grown, clean]
      rfl

/-- A run that ends at the first rejection and one that collects them agree up to there: without a
rejection they are the same run, a rejection that ends the one is the first that the other collects,
and any other fault ends both alike. -/
theorem process_modes {mode : ErrorMode} (collects : mode.collects = true) (p : Processor ρ σ)
    (record : ρ) (direction : Direction) (w : Workspace ρ σ) :
    (∀ report final w', (p.inMode .failFast).process record direction w =
        ((.ok report, final), w') →
      report.errors = [] ∧ (p.inMode mode).process record direction w = ((.ok report, final), w')) ∧
    (∀ e final w', (p.inMode .failFast).process record direction w =
        ((.error (.rejected e), final), w') →
      ∀ report left u, (p.inMode mode).process record direction w = ((.ok report, left), u) →
        report.errors.head? = some e) ∧
    ∀ fault final w', (∀ e, fault ≠ .rejected e) →
      (p.inMode .failFast).process record direction w = ((.error fault, final), w') →
      (p.inMode mode).process record direction w = ((.error fault, final), w') := by
  have agree := processFields_modes collects p (Record.context record) direction
    (p.metadata.fields (Record.typeName record) direction) record {} w rfl
  change ((p.inMode mode).process record direction w =
      (p.inMode .failFast).process record direction w ∧ _) ∨ _ at agree
  refine ⟨fun report final w' fast => ?_, fun e final w' fast report left u slow => ?_,
    fun fault final w' hard fast => ?_⟩
  · rcases agree with ⟨same, clean⟩ | ⟨e, _, _, ended, -⟩
    · exact ⟨clean report final w' fast, same.trans fast⟩
    · cases ended.symm.trans fast
  · rcases agree with ⟨same, -⟩ | ⟨e', _, _, ended, first⟩
    · cases (same.trans fast).symm.trans slow
    · cases ended.symm.trans fast
      exact first report left u slow
  · rcases agree with ⟨same, -⟩ | ⟨e, _, _, ended, -⟩
    · exact same.trans fast
    · cases ended.symm.trans fast
      exact absurd rfl (hard e)

/-- A field that has to be a list and is not: the run that collects has one rejection, the one that
the other run ends with. -/
theorem process_modes_age :
    let each : List (Declaration Scripted.Form Scripted.Desk) := [.group (.each (some 0))]
    let p : Processor Scripted.Form Scripted.Desk :=
      { metadata := [(("Doc", .inbound), [⟨"age", each⟩, ⟨"note", each⟩])]
        options := { tracePaths := true } }
    let form : Scripted.Form := { fields := [("age", .string "x")], filled := ["age"] }
    ErrorMode.collectFailToNull.collects = true ∧ ∃ e final w' report left u,
      (p.inMode .failFast).process form .inbound { run := { app := {} } } =
        ((.error (.rejected e), final), w') ∧
      (p.inMode .collectFailToNull).process form .inbound { run := { app := {} } } =
        ((.ok report, left), u) ∧
      e.path = some ["Each"] ∧ report.errors.head? = some e := by
  intro each p form
  let w : Workspace Scripted.Form Scripted.Desk :=
    { cache := { pipelines := [(pipelineKey form "age" .inbound, eachItem 0)] }
      run := { app := {} }, issued := 1 }
  let refused : Rejection :=
    { template := Rejection.notIterable, params := [("type", .string "string")]
      origin := some "Each", path := some ["Each"], property := some "age" }
  have ended : (p.inMode .failFast).Handles .null .inbound ⟨"age", each⟩ form
      { run := { app := {} } } (.ended (.rejected refused)) form w :=
    .refused (r := { refused with property := none }) rfl
      ((p.inMode .failFast).pipeline_each rfl) rfl rfl
  have collected : (p.inMode .collectFailToNull).Handles .null .inbound ⟨"age", each⟩ form
      { run := { app := {} } } (.collected refused) (Record.set form "age" .null) w :=
    .collected (r := { refused with property := none }) rfl
      ((p.inMode .collectFailToNull).pipeline_each rfl) rfl rfl
  have absent : (p.inMode .collectFailToNull).Handles .null .inbound ⟨"note", each⟩
      (Record.set form "age" .null) w .absent _ w :=
    .absent rfl
  have fast : (p.inMode .failFast).process form .inbound { run := { app := {} } } = _ :=
    ended.processFields_cons [⟨"note", each⟩] {}
  have slow : (p.inMode .collectFailToNull).process form .inbound { run := { app := {} } } = _ :=
    (collected.processFields_cons [⟨"note", each⟩] {}).trans
      (absent.processFields_cons [] { errors := [refused] })
  have first := (process_modes rfl p form .inbound _).2.1 _ _ _ fast _ _ _ slow
  exact ⟨rfl, refused, form, w, _, _, _, fast, slow, rfl, first⟩

end Modes

end Processor

end FieldPipeline
