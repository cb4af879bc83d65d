import FieldPipeline.Processing
import FieldPipeline.Proofs.Growth

namespace FieldPipeline

open Outcome

variable {ρ σ : Type}

/-- What a run comes to at one field. -/
inductive Verdict where
  | absent
  | processed (v : Value)
  | collected (r : Rejection)
  | ended (fault : Fault)

/-- The report after a field, unless the run ends there. -/
def Verdict.enter (field : String) (report : Report) : Verdict → Except Fault Report
  | absent => .ok report
  | processed _ => .ok { report with processed := report.processed ++ [field] }
  | collected r => .ok { report with errors := report.errors ++ [r] }
  | ended fault => .error fault

namespace Processor

section Pipeline

variable [Record ρ σ] {p : Processor ρ σ} {direction : Direction}

/-- The key under which the pipeline of a field is kept for a record. -/
def pipelineKey (record : ρ) (field : String) (direction : Direction) : String :=
  keyOf (Record.typeName record) field direction (Record.activeGroups record direction)

theorem pipeline_of_some {record : ρ} {f : FieldDeclarations ρ σ} {made : Compiled ρ σ}
    {w : Workspace ρ σ}
    (kept : w.cache.pipeline? (pipelineKey record f.field direction) = some made) :
    p.pipeline record f direction w = (.ok made, w) := by
  rw [pipelineKey] at kept
  refine bind_eq_ok.mpr ⟨w.cache, w, rfl, ?_⟩
  simp only [kept]
  rfl

/-- A pipeline that is not there is compiled, and is kept unless that fails. -/
theorem pipeline_of_none {record : ρ} {f : FieldDeclarations ρ σ} {w : Workspace ρ σ}
    (new : w.cache.pipeline? (pipelineKey record f.field direction) = none) :
    p.pipeline record f direction w =
      match Chain.compileAll p.resolver f.declarations record direction w with
      | (.ok made, w') => (.ok made, { w' with cache :=
          (w'.cache.keepPipeline (pipelineKey record f.field direction) made).2 })
      | (.error fault, w') => (.error fault, w') := by
  unfold pipelineKey at new ⊢
  unfold pipeline
  rw [bind_of_ok (Build.cache_run w)]
  simp only [new]
  rw [bind_run]
  rcases e : Chain.compileAll p.resolver f.declarations record direction w with ⟨fault | made, w'⟩
  · rfl
  · rw [Cache.pipeline?, ← ((Chain.lossless_compileAll ..).after e).pipelines,
      ← Cache.pipeline?] at new
    simp only [Build.onCache, Cache.keepPipeline, new, Option.getD_none]

theorem pipeline_compiled {record : ρ} {f : FieldDeclarations ρ σ} {made : Compiled ρ σ}
    {w w' : Workspace ρ σ}
    (new : w.cache.pipeline? (pipelineKey record f.field direction) = none)
    (compiled : Chain.compileAll p.resolver f.declarations record direction w = (.ok made, w')) :
    p.pipeline record f direction w = (.ok made, { w' with
      cache := (w'.cache.keepPipeline (pipelineKey record f.field direction) made).2 }) := by
  rw [pipeline_of_none new, compiled]

theorem pipeline_keeps {record : ρ} {f : FieldDeclarations ρ σ} {made : Compiled ρ σ}
    {w w' : Workspace ρ σ} (h : p.pipeline record f direction w = (.ok made, w')) :
    w'.cache.pipeline? (pipelineKey record f.field direction) = some made := by
  cases there : w.cache.pipeline? (pipelineKey record f.field direction) with
  | some kept =>
    rw [pipeline_of_some there] at h
    cases h
    exact there
  | none =>
    rw [pipeline_of_none there] at h
    rcases e : Chain.compileAll p.resolver f.declarations record direction w with
      ⟨fault | made, w₁⟩
    · rw [e] at h
      cases h
    · rw [e] at h
      cases h
      rw [Cache.pipeline?, ← ((Chain.lossless_compileAll ..).after e).pipelines,
        ← Cache.pipeline?] at there
      simp [there]

end Pipeline

variable [Record ρ σ] {p : Processor ρ σ} {context : Value} {direction : Direction}

/-- Handling one field takes the record and the workspace to others. -/
inductive Handles (p : Processor ρ σ) (context : Value) (direction : Direction)
    (f : FieldDeclarations ρ σ) (record : ρ) (w : Workspace ρ σ) :
    Verdict → ρ → Workspace ρ σ → Prop
  | absent (empty : Record.isFilled record f.field = false) :
      Handles p context direction f record w .absent record w
  | unbuilt {fault : Fault} {w₁ : Workspace ρ σ} (filled : Record.isFilled record f.field = true)
      (built : p.pipeline record f direction w = (.error fault, w₁)) :
      Handles p context direction f record w (.ended fault) record w₁
  | processed {made : Compiled ρ σ} {v : Value} {w₁ w₂ : Workspace ρ σ}
      (filled : Record.isFilled record f.field = true)
      (built : p.pipeline record f direction w = (.ok made, w₁))
      (ran : p.runField made record f.field context direction w₁ = (.ok v, w₂)) :
      Handles p context direction f record w (.processed v) (Record.set record f.field v) w₂
  | collected {made : Compiled ρ σ} {r : Rejection} {left : ρ} {w₁ w₂ : Workspace ρ σ}
      (filled : Record.isFilled record f.field = true)
      (built : p.pipeline record f direction w = (.ok made, w₁))
      (ran : p.runField made record f.field context direction w₁ = (.error (.rejected r), w₂))
      (mode : afterRejection p.options.errorMode record f.field = some left) :
      Handles p context direction f record w (.collected { r with property := some f.field }) left
        w₂
  | refused {made : Compiled ρ σ} {r : Rejection} {w₁ w₂ : Workspace ρ σ}
      (filled : Record.isFilled record f.field = true)
      (built : p.pipeline record f direction w = (.ok made, w₁))
      (ran : p.runField made record f.field context direction w₁ = (.error (.rejected r), w₂))
      (mode : afterRejection p.options.errorMode record f.field = none) :
      Handles p context direction f record w
        (.ended (.rejected { r with property := some f.field })) record w₂
  | broken {made : Compiled ρ σ} {fault : Fault} {w₁ w₂ : Workspace ρ σ}
      (filled : Record.isFilled record f.field = true)
      (built : p.pipeline record f direction w = (.ok made, w₁))
      (ran : p.runField made record f.field context direction w₁ = (.error fault, w₂))
      (hard : ∀ r, fault ≠ .rejected r) :
      Handles p context direction f record w (.ended fault) record w₂

theorem exists_handles (p : Processor ρ σ) (context : Value) (direction : Direction)
    (f : FieldDeclarations ρ σ) (record : ρ) (w : Workspace ρ σ) :
    ∃ verdict left w', p.Handles context direction f record w verdict left w' := by
  cases filled : Record.isFilled record f.field with
  | false => exact ⟨_, _, _, .absent filled⟩
  | true =>
    rcases built : p.pipeline record f direction w with ⟨fault | made, w₁⟩
    · exact ⟨_, _, _, .unbuilt filled built⟩
    rcases ran : p.runField made record f.field context direction w₁ with ⟨fault | v, w₂⟩
    · cases fault with
      | rejected r =>
        cases mode : afterRejection p.options.errorMode record f.field with
        | none => exact ⟨_, _, _, .refused filled built ran mode⟩
        | some left => exact ⟨_, _, _, .collected filled built ran mode⟩
      | configuration m => exact ⟨_, _, _, .broken filled built ran nofun⟩
      | unreadable message => exact ⟨_, _, _, .broken filled built ran nofun⟩
      | internal message => exact ⟨_, _, _, .broken filled built ran nofun⟩
    · exact ⟨_, _, _, .processed filled built ran⟩

theorem processFields_built {f : FieldDeclarations ρ σ} {record : ρ} {made : Compiled ρ σ}
    {w w₁ : Workspace ρ σ} (filled : Record.isFilled record f.field = true)
    (built : p.pipeline record f direction w = (.ok made, w₁))
    (rest : List (FieldDeclarations ρ σ)) (report : Report) :
    p.processFields context direction (f :: rest) record report w =
      match p.runField made record f.field context direction w₁ with
      | (.ok v, w₂) =>
        p.processFields context direction rest (Record.set record f.field v)
          { report with processed := report.processed ++ [f.field] } w₂
      | (.error (.rejected r), w₂) =>
        match afterRejection p.options.errorMode record f.field with
        | none => ((.error (.rejected { r with property := some f.field }), record), w₂)
        | some left =>
          p.processFields context direction rest left
            { report with errors := report.errors ++ [{ r with property := some f.field }] } w₂
      | (.error fault, w₂) => ((.error fault, record), w₂) := by
  rw [processFields, filled, if_neg (by simp), state_bind_run, ExceptT.run, built]
  dsimp only
  rw [state_bind_run, ExceptT.run]
  rcases p.runField made record f.field context direction w₁ with ⟨fault | v, w₂⟩
  · cases fault with
    | rejected r =>
      dsimp only
      cases afterRejection p.options.errorMode record f.field <;> rfl
    | _ => rfl
  · rfl

/-- A run handles its first field and goes on with the others, unless it ends there. -/
theorem Handles.processFields_cons {f : FieldDeclarations ρ σ} {record left : ρ}
    {w w' : Workspace ρ σ} {verdict : Verdict}
    (h : p.Handles context direction f record w verdict left w')
    (rest : List (FieldDeclarations ρ σ)) (report : Report) :
    p.processFields context direction (f :: rest) record report w =
      match verdict.enter f.field report with
      | .ok report' => p.processFields context direction rest left report' w'
      | .error fault => ((.error fault, left), w') := by
  cases h with
  | absent empty =>
    rw [processFields, empty]
    rfl
  | unbuilt filled built =>
    rw [processFields, filled, if_neg (by simp), state_bind_run, ExceptT.run, built]
    rfl
  | processed filled built ran =>
    rw [processFields_built filled built, ran]
    rfl
  | collected filled built ran mode =>
    rw [processFields_built filled built, ran]
    simp only [mode, Verdict.enter]
  | refused filled built ran mode =>
    rw [processFields_built filled built, ran]
    simp only [mode, Verdict.enter]
  | @broken _ fault _ _ filled built ran hard =>
    rw [processFields_built filled built, ran]
    cases fault with
    | rejected r => exact absurd rfl (hard r)
    | _ => rfl

/-- A run over two lists of fields is a run over the first and then, if that does not end early,
over the second. -/
theorem processFields_append (before after : List (FieldDeclarations ρ σ)) (record : ρ)
    (report : Report) (w : Workspace ρ σ) :
    p.processFields context direction (before ++ after) record report w =
      match p.processFields context direction before record report w with
      | ((.ok report', left), w') => p.processFields context direction after left report' w'
      | ((.error fault, left), w') => ((.error fault, left), w') := by
  induction before generalizing record report w with
  | nil => rfl
  | cons f rest ih =>
    obtain ⟨verdict, left, w', h⟩ := p.exists_handles context direction f record w
    rw [List.cons_append, h.processFields_cons, h.processFields_cons]
    cases verdict.enter f.field report with
    | error fault => rfl
    | ok report' => exact ih left report' w'

/-- A run that does not end early, around one of its fields. -/
theorem processFields_split {before after : List (FieldDeclarations ρ σ)}
    {d : FieldDeclarations ρ σ} {record final : ρ} {report report' : Report}
    {w w' : Workspace ρ σ}
    (h : p.processFields context direction (before ++ d :: after) record report w =
      ((.ok report', final), w')) :
    ∃ report₁ current w₁ verdict report₂ left w₂,
      p.processFields context direction before record report w = ((.ok report₁, current), w₁) ∧
      p.Handles context direction d current w₁ verdict left w₂ ∧
      verdict.enter d.field report₁ = .ok report₂ ∧
      p.processFields context direction after left report₂ w₂ = ((.ok report', final), w') := by
  rw [processFields_append] at h
  rcases first : p.processFields context direction before record report w with
    ⟨⟨fault | report₁, current⟩, w₁⟩
  · rw [first] at h
    cases h
  · rw [first] at h
    obtain ⟨verdict, left, w₂, step⟩ :=
      p.exists_handles context direction d current w₁
    simp only [step.processFields_cons] at h
    cases entered : verdict.enter d.field report₁ with
    | error fault =>
      rw [entered] at h
      cases h
    | ok report₂ =>
      rw [entered] at h
      exact ⟨report₁, current, w₁, verdict, report₂, left, w₂, rfl, step, entered, h⟩

/-- A run over `fields` comes to `d` with the record `current` and the workspace `w₁`. -/
def Reaches (p : Processor ρ σ) (context : Value) (direction : Direction)
    (fields : List (FieldDeclarations ρ σ)) (record : ρ) (w : Workspace ρ σ)
    (d : FieldDeclarations ρ σ) (current : ρ) (w₁ : Workspace ρ σ) : Prop :=
  ∃ before after report, fields = before ++ d :: after ∧
    p.processFields context direction before record {} w = ((.ok report, current), w₁)

end Processor

end FieldPipeline
