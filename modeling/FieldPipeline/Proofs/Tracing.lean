import FieldPipeline.Proofs.Memo
import FieldPipeline.Proofs.Oblivious

namespace FieldPipeline

open Outcome

variable {ρ σ : Type}

/-- Code that does the same whatever is on the trace, and leaves it as it finds it. -/
structure Callable.Traceless (body : Callable ρ σ) : Prop where
  oblivious : body.Oblivious
  balanced : ∀ v scope s, (body v scope s).2.trace = s.trace

structure Handler.Traceless [Record ρ σ] (h : Handler ρ σ) : Prop where
  oblivious : h.Oblivious
  balanced : ∀ fallback v scope r s,
    (Strategy.fallbackFor fallback (some h) v scope r s).2.trace = s.trace

/-- What declarations refer to for any record, and what handles their failures, is traceless. -/
structure Chain.Traceless [Record ρ σ] (r : Resolver ρ σ) (ds : List (Declaration ρ σ)) :
    Prop where
  supplied : ∀ owner, Supplied r owner Callable.Traceless ds
  handled : ∀ d ∈ ds, ∀ h, d.handler? = some h → h.Traceless

/-- A cache of traceless code and pipelines. -/
structure Cache.Traceless (c : Cache ρ σ) : Prop where
  entries : c.Holds (fun _ => True) Callable.Traceless
  pipelines : ∀ {key made}, c.pipeline? key = some made → made.run.Traceless

theorem Cache.Traceless.of_empty {c : Cache ρ σ} (entries : c.entries = [])
    (pipelines : c.pipelines = []) : c.Traceless where
  entries := .of_empty entries
  pipelines kept := by
    rw [pipeline?, pipelines] at kept
    cases kept

theorem Cache.Traceless.keepPipeline {c : Cache ρ σ} (h : c.Traceless) {made : Compiled ρ σ}
    (own : made.run.Traceless) (key : String) : (c.keepPipeline key made).2.Traceless where
  entries := ⟨h.entries.instances, h.entries.steps⟩
  pipelines found := by
    obtain there | ⟨-, -, rfl⟩ := keepPipeline_cases found
    · exact h.pipelines there
    · exact own

section Tree

variable [Record ρ σ] {root : Node ρ σ}

/-- A tree of traceless code is traceless. -/
theorem Node.compile_traceless (isFresh : root.IsFresh) (does : root.Does Callable.Traceless)
    (handled : root.HandledBy Handler.Traceless) : root.compile.Traceless where
  oblivious := by
    refine compile_oblivious (fun site asked => ?_) (fun fallback h v r asked => ?_) isFresh
    · have supplied := does site asked
      cases site with
      | leaf l v | predicate run v =>
        obtain ⟨name, body, runs, traceless⟩ := supplied
        exact ⟨name, body, runs, traceless.oblivious⟩
      | handler | refusal => trivial
    · exact (handled fallback h v r asked).oblivious
  balanced v scope s := by
    refine compile_trace isFresh (fun site asked t => ?_) v s
    cases site with
    | leaf l v | predicate run v =>
      exact (does _ asked).balanced (fun body traceless => traceless.balanced v scope) t
    | handler fallback h v r => exact (handled fallback h v r asked).balanced fallback v scope r t
    | refusal node r => rfl

/-- Traceless declarations make traceless pipelines, and keep a cache traceless. -/
theorem Chain.compileAll_traceless {r : Resolver ρ σ} {ds : List (Declaration ρ σ)}
    (given : Traceless r ds) {owner : ρ} {direction : Direction} {w w' : Workspace ρ σ}
    {result : Except Fault (Compiled ρ σ)} (cache : w.cache.Traceless)
    (ran : compileAll r ds owner direction w = (result, w')) :
    w'.cache.Traceless ∧ ∀ made, result = .ok made → made.run.Traceless := by
  have refers (d) (hd : d ∈ ds) :
      Refers (.supply (fun _ => True) Callable.Traceless) r owner d :=
    fun need hn => ⟨given.supplied owner d hd need hn, fun _ _ => trivial⟩
  have kept := ((keeps_compileAll refers direction).after cache.entries).1
  rw [ran] at kept
  refine ⟨⟨kept, fun {key made} there => ?_⟩, ?_⟩
  · rw [Cache.pipeline?, ((lossless_compileAll ..).after ran).pipelines] at there
    exact cache.pipelines there
  rintro made rfl
  obtain ⟨children, used, w₁, walk, rfl, rfl⟩ := compileAll_eq_ok.mp ran
  have built := compile_eq_ok (q := ⟨ds, 0⟩).mpr ⟨children, used, walk, rfl, rfl⟩
  refine Node.compile_traceless (compile_isFresh built) ?_ (compile_handledBy built given.handled)
  exact compile_does built (given.supplied owner)
    ⟨fun _ there => cache.entries.instances trivial there,
      fun _ there => cache.entries.steps trivial there⟩

end Tree

theorem Rejection.pathless_atField {r r' : Rejection} (h : r.pathless = r'.pathless)
    (field : String) :
    ({ r with property := some field } : Rejection).pathless =
      ({ r' with property := some field } : Rejection).pathless := by
  cases r
  cases r'
  cases h
  rfl

def Report.pathless (report : Report) : Report :=
  { report with errors := report.errors.map Rejection.pathless }

/-- What a run comes to, without paths. -/
def Report.seen (result : Except Fault Report) : Except Fault Report :=
  (result.map Report.pathless).mapError Fault.pathless

def Verdict.pathless : Verdict → Verdict
  | collected r => collected r.pathless
  | ended fault => ended fault.pathless
  | verdict => verdict

theorem Verdict.seen_enter (verdict : Verdict) (field : String) (report : Report) :
    Report.seen (verdict.enter field report) = verdict.pathless.enter field report.pathless := by
  cases verdict with
  | collected r => simp [Report.seen, enter, pathless, Report.pathless, Except.map, Except.mapError]
  | _ => rfl

namespace Processor

variable [Record ρ σ] {p : Processor ρ σ} {context : Value} {direction : Direction}

/-- A processor that traces paths, or does not. -/
def tracing (p : Processor ρ σ) (tracePaths : Bool) : Processor ρ σ :=
  { p with options := { p.options with tracePaths } }

theorem pipeline_traceless {f : FieldDeclarations ρ σ} {record : ρ} {w w' : Workspace ρ σ}
    {result : Except Fault (Compiled ρ σ)} (given : Chain.Traceless p.resolver f.declarations)
    (cache : w.cache.Traceless) (piped : p.pipeline record f direction w = (result, w')) :
    w'.cache.Traceless ∧ ∀ made, result = .ok made → made.run.Traceless := by
  cases there : w.cache.pipeline? (pipelineKey record f.field direction) with
  | some kept =>
    rw [pipeline_of_some there] at piped
    cases piped
    refine ⟨cache, ?_⟩
    rintro made ⟨⟩
    exact cache.pipelines there
  | none =>
    rw [pipeline_of_none there] at piped
    rcases ran : Chain.compileAll p.resolver f.declarations record direction w with
      ⟨fault | made, w₁⟩
    · rw [ran] at piped
      cases piped
      exact ⟨(Chain.compileAll_traceless given cache ran).1, nofun⟩
    · rw [ran] at piped
      cases piped
      obtain ⟨kept, traceless⟩ := Chain.compileAll_traceless given cache ran
      refine ⟨kept.keepPipeline (traceless made rfl) _, ?_⟩
      rintro _ ⟨⟩
      exact traceless made rfl

/-- A pipeline of oblivious code runs alike with and without paths, whatever is on the trace. -/
theorem runField_oblivious (p : Processor ρ σ) (context : Value) (direction : Direction)
    {made : Compiled ρ σ} (own : made.run.Oblivious) (b : Bool) (record : ρ) (field : String)
    {w w' : Workspace ρ σ} (app : w.run.app = w'.run.app) :
    ∃ result result' s s',
      p.runField made record field context direction w = (result, { w with run := s }) ∧
      (p.tracing b).runField made record field context direction w' =
        (result', { w' with run := s' }) ∧
      result.mapError Fault.pathless = result'.mapError Fault.pathless ∧ s.app = s'.app := by
  let v := (Record.get? record field).getD .null
  let scope : Scope ρ := { record, context, direction, tracePaths := p.options.tracePaths }
  obtain ⟨same, left⟩ := Prod.mk.inj (own v scope b w.run w'.run app)
  exact ⟨_, _, _, _, rfl, rfl, same, left⟩

/-- One that is balanced, too, leaves the same workspace. -/
theorem runField_traceless {made : Compiled ρ σ} (own : made.run.Traceless) (b : Bool) (record : ρ)
    (field : String) (w : Workspace ρ σ) :
    ∃ result result' w',
      p.runField made record field context direction w = (result, w') ∧
      (p.tracing b).runField made record field context direction w = (result', w') ∧
      result.mapError Fault.pathless = result'.mapError Fault.pathless ∧ w'.cache = w.cache := by
  obtain ⟨result, result', s, s', ran, ran', same, app⟩ :=
    p.runField_oblivious context direction own.oblivious b record field
      (rfl : w.run.app = w.run.app)
  have trace : s.trace = s'.trace := by
    have left := congrArg (·.2.run.trace) ran
    have left' := congrArg (·.2.run.trace) ran'
    exact left.symm.trans (((own.balanced ..).trans (own.balanced ..).symm).trans left')
  cases s
  cases s'
  cases app
  cases trace
  exact ⟨result, result', _, ran, ran', same, rfl⟩

/-- The workspaces of two runs over fields, one with and one without paths, are related by `R`: a
field of a record with the property `like` has the same pipeline in both, which runs alike. -/
def Parallel (p : Processor ρ σ) (b : Bool) (context : Value) (direction : Direction)
    (like : ρ → Prop) (R : Workspace ρ σ → Workspace ρ σ → Prop) (f : FieldDeclarations ρ σ) :
    Prop :=
  ∀ record w w', like record → R w w' → ∃ result u u',
    p.pipeline record f direction w = (result, u) ∧
    p.pipeline record f direction w' = (result, u') ∧ R u u' ∧
    ∀ made, result = .ok made → ∃ result result' t t',
      p.runField made record f.field context direction u = (result, t) ∧
      (p.tracing b).runField made record f.field context direction u' = (result', t') ∧
      result.mapError Fault.pathless = result'.mapError Fault.pathless ∧ R t t'

section Parallel

variable {b : Bool} {like : ρ → Prop} {R : Workspace ρ σ → Workspace ρ σ → Prop}

theorem Parallel.ran {f : FieldDeclarations ρ σ} {record : ρ} {made : Compiled ρ σ}
    {result : Except Fault Value} {w v u t : Workspace ρ σ}
    (both : p.Parallel b context direction like R f) (own : like record) (related : R w v)
    (built : p.pipeline record f direction w = (.ok made, u))
    (ran : p.runField made record f.field context direction u = (result, t)) :
    ∃ u' result' t', p.pipeline record f direction v = (.ok made, u') ∧
      (p.tracing b).runField made record f.field context direction u' = (result', t') ∧
      result.mapError Fault.pathless = result'.mapError Fault.pathless ∧ R t t' := by
  obtain ⟨looked, _, u', first, second, -, runs⟩ := both record w v own related
  cases built.symm.trans first
  obtain ⟨_, result', _, t', ran₁, ran₂, same, after⟩ := runs _ rfl
  cases ran.symm.trans ran₁
  exact ⟨u', result', t', second, ran₂, same, after⟩

/-- One field is handled alike with and without paths. -/
theorem Handles.parallel {f : FieldDeclarations ρ σ} {record left : ρ} {w w' v : Workspace ρ σ}
    {verdict : Verdict} (h : p.Handles context direction f record w verdict left w')
    (both : p.Parallel b context direction like R f) (own : like record) (related : R w v) :
    ∃ verdict' v', (p.tracing b).Handles context direction f record v verdict' left v' ∧
      verdict.pathless = verdict'.pathless ∧ R w' v' := by
  -- Both take the same pipeline; what is left to compare is how it runs.
  cases h with
  | absent empty => exact ⟨_, v, .absent empty, rfl, related⟩
  | unbuilt filled built =>
    obtain ⟨looked, u, u', first, second, kept, -⟩ := both record w v own related
    cases built.symm.trans first
    exact ⟨_, u', .unbuilt filled second, rfl, kept⟩
  | processed filled built ran =>
    obtain ⟨u', result', v', built', ran', same, after⟩ := both.ran own related built ran
    obtain ⟨a, e, rfl⟩ | ⟨r, r', e, -, -⟩ | ⟨fault, e, -, -⟩ := Fault.mapError_eq same <;> cases e
    exact ⟨_, v', .processed filled built' ran', rfl, after⟩
  | collected filled built ran mode =>
    obtain ⟨u', result', v', built', ran', same, after⟩ := both.ran own related built ran
    obtain ⟨a, e, -⟩ | ⟨r, r', e, rfl, alike⟩ | ⟨fault, e, -, hard⟩ := Fault.mapError_eq same <;>
      cases e
    · exact ⟨_, v', .collected filled built' ran' mode,
        congrArg Verdict.collected (Rejection.pathless_atField alike _), after⟩
    · exact absurd rfl (hard _)
  | refused filled built ran mode =>
    obtain ⟨u', result', v', built', ran', same, after⟩ := both.ran own related built ran
    obtain ⟨a, e, -⟩ | ⟨r, r', e, rfl, alike⟩ | ⟨fault, e, -, hard⟩ := Fault.mapError_eq same <;>
      cases e
    · exact ⟨_, v', .refused filled built' ran' mode,
        congrArg (Verdict.ended ∘ Fault.rejected) (Rejection.pathless_atField alike _), after⟩
    · exact absurd rfl (hard _)
  | broken filled built ran hard =>
    obtain ⟨u', result', v', built', ran', same, after⟩ := both.ran own related built ran
    obtain ⟨a, e, -⟩ | ⟨r, r', e, -, -⟩ | ⟨fault, e, rfl, -⟩ := Fault.mapError_eq same <;> cases e
    · exact absurd rfl (hard _)
    · exact ⟨_, v', .broken filled built' ran' hard, rfl, after⟩

/-- Whatever a field comes to, it leaves the record as it was, or sets or unfills the field. -/
theorem Handles.closed {f : FieldDeclarations ρ σ} {record left : ρ} {w w' : Workspace ρ σ}
    {verdict : Verdict} (h : p.Handles context direction f record w verdict left w')
    (closed : ∀ a field v, like a → like (Record.set a field v) ∧ like (Record.unfill a field))
    (own : like record) : like left := by
  have null := (closed record f.field .null own).1
  cases h with
  | processed => exact (closed record f.field _ own).1
  | collected filled built ran mode =>
    generalize p.options.errorMode = errors at mode
    cases errors with
    | failFast => cases mode
    | collectFailToInput =>
      cases mode
      exact own
    | collectFailToNull =>
      cases mode
      exact null
    | collectNone =>
      cases mode
      exact (closed _ f.field .null null).2
  | _ => exact own

/-- So is a run over several fields. -/
theorem processFields_parallel {fields : List (FieldDeclarations ρ σ)} {record : ρ}
    {report report' : Report} {w w' : Workspace ρ σ}
    (both : ∀ f ∈ fields, p.Parallel b context direction like R f)
    (closed : ∀ a field v, like a → like (Record.set a field v) ∧ like (Record.unfill a field))
    (own : like record) (related : R w w') (same : report.pathless = report'.pathless) :
    ∃ result result' left u u',
      p.processFields context direction fields record report w = ((result, left), u) ∧
      (p.tracing b).processFields context direction fields record report' w' =
        ((result', left), u') ∧
      Report.seen result = Report.seen result' ∧ R u u' := by
  induction fields generalizing record report report' w w' with
  | nil => exact ⟨_, _, record, w, w', rfl, rfl, congrArg Except.ok same, related⟩
  | cons f rest ih =>
    obtain ⟨first, others⟩ := List.forall_mem_cons.mp both
    obtain ⟨verdict, left, u, step⟩ := p.exists_handles context direction f record w
    obtain ⟨verdict', u', step', alike, after⟩ := step.parallel first own related
    rw [step.processFields_cons, step'.processFields_cons]
    have entered : Report.seen (verdict.enter f.field report) =
        Report.seen (verdict'.enter f.field report') := by
      rw [Verdict.seen_enter, Verdict.seen_enter, alike, same]
    cases e : verdict.enter f.field report with
    | ok next =>
      cases e' : verdict'.enter f.field report' with
      | ok next' =>
        rw [e, e'] at entered
        exact ih others (step.closed closed own) after (Except.ok.inj entered)
      | error fault =>
        rw [e, e'] at entered
        cases entered
    | error fault =>
      cases e' : verdict'.enter f.field report' with
      | ok next' =>
        rw [e, e'] at entered
        cases entered
      | error fault' =>
        rw [e, e'] at entered
        exact ⟨_, _, left, u, u', rfl, rfl, entered, after⟩

/-- A field whose pipelines are oblivious and have been compiled. -/
theorem compiled_parallel {f : FieldDeclarations ρ σ} {c : Cache ρ σ}
    (compiled : ∀ record, like record → ∃ made,
      c.pipeline? (pipelineKey record f.field direction) = some made ∧ made.run.Oblivious) :
    p.Parallel b context direction like
      (fun w w' => (w.cache = c ∧ w'.cache = c) ∧ w.run.app = w'.run.app) f := by
  rintro record w w' own ⟨⟨rfl, cache⟩, app⟩
  obtain ⟨made, there, oblivious⟩ := compiled record own
  have there' := there
  rw [← cache] at there'
  refine ⟨_, w, w', pipeline_of_some there, pipeline_of_some there', ⟨⟨rfl, cache⟩, app⟩, ?_⟩
  rintro _ ⟨⟩
  obtain ⟨result, result', s, s', ran, ran', same, left⟩ :=
    p.runField_oblivious context direction oblivious b record f.field app
  exact ⟨result, result', _, _, ran, ran', same, ⟨rfl, cache⟩, left⟩

/-- A field of traceless code, also if its pipelines are still to be compiled. -/
theorem traceless_parallel {f : FieldDeclarations ρ σ}
    (given : Chain.Traceless p.resolver f.declarations) :
    p.Parallel b context direction (fun _ => True) (fun w w' => w = w' ∧ w.cache.Traceless) f := by
  rintro record w _ - ⟨rfl, cache⟩
  rcases piped : p.pipeline record f direction w with ⟨result, u⟩
  obtain ⟨kept, own⟩ := pipeline_traceless given cache piped
  refine ⟨result, u, u, rfl, rfl, ⟨rfl, kept⟩, fun made ok => ?_⟩
  obtain ⟨result, result', t, ran, ran', same, left⟩ :=
    runField_traceless (own made ok) b record f.field u
  exact ⟨result, result', t, t, ran, ran', same, rfl, left ▸ kept⟩

end Parallel

/-- Tracing paths is observation. Whether or not paths are traced, a pipeline of code that pays no
attention to the trace turns to the same sites, with the same values, in the same order, and comes
to the same outcome up to the path of a rejection. So processing with pipelines that have been
compiled ends with the same record and the same report up to paths. If pipelines are compiled on the
way, it does so where the code also leaves the trace as it finds it. -/
theorem process_oblivious (p : Processor ρ σ) (b : Bool) :
    (∀ q q' owner direction take root w w',
      Chain.compile p.resolver q owner direction take w = ((.ok root, q'), w') →
      Chain.Supplied p.resolver owner Callable.Oblivious q.rest →
      w.cache.Holds (Chain.Uses owner q.rest) Callable.Oblivious →
      (∀ d ∈ q.rest, ∀ h, d.handler? = some h → h.Oblivious) →
      ∀ v scope s s', s.app = s'.app →
        Act.seen (root.compile v scope s) = Act.seen (root.compile v (scope.tracing b) s') ∧
        (root.answers v scope s).map Answer.pathless =
          (root.answers v (scope.tracing b) s').map Answer.pathless) ∧
    (∀ (like : ρ → Prop) record direction w w', w.cache = w'.cache → w.run.app = w'.run.app →
      (∀ a field v, like a → like (Record.set a field v) ∧ like (Record.unfill a field)) →
      (∀ a, like a → ∀ f ∈ p.metadata.fields (Record.typeName record) direction,
        ∃ made, w.cache.pipeline? (pipelineKey a f.field direction) = some made ∧
          made.run.Oblivious) →
      like record →
      ∃ result result' left u u', p.process record direction w = ((result, left), u) ∧
        (p.tracing b).process record direction w' = ((result', left), u') ∧
        Report.seen result = Report.seen result' ∧ u.run.app = u'.run.app) ∧
    ∀ record direction w,
      (∀ f ∈ p.metadata.fields (Record.typeName record) direction,
        Chain.Traceless p.resolver f.declarations) →
      w.cache.Traceless →
      ∃ result result' left w', p.process record direction w = ((result, left), w') ∧
        (p.tracing b).process record direction w = ((result', left), w') ∧
        Report.seen result = Report.seen result' ∧ w'.cache.Traceless := by
  refine ⟨?_, ?_, ?_⟩
  · intro q q' owner direction take root w w' built supplied held handled v scope s s' app
    have does := Chain.compile_does built supplied held
    have handlers := Chain.compile_handledBy built handled
    have alike := Node.compile_oblivious does handlers (Chain.compile_isFresh built)
    exact ⟨alike v scope b s s' app, Node.answers_oblivious does handlers v scope b app⟩
  · intro like record direction w w' cache app closed compiled own
    obtain ⟨result, result', left, u, u', ran, ran', same, -, app'⟩ :=
      processFields_parallel (fun f hf => compiled_parallel fun a ha => compiled a ha f hf) closed
        own ⟨⟨rfl, cache.symm⟩, app⟩ rfl
    exact ⟨result, result', left, u, u', ran, ran', same, app'⟩
  · intro record direction w given cache
    obtain ⟨result, result', left, u, u', ran, ran', same, rfl, kept⟩ :=
      processFields_parallel (fun f hf => traceless_parallel (given f hf))
        (fun _ _ _ _ => ⟨trivial, trivial⟩) trivial ⟨rfl, cache⟩ rfl
    exact ⟨result, result', left, u, ran, ran', same, kept⟩

/-- A handler that passes on the rejection that it is shown, with its path and under another
template. -/
theorem process_oblivious_passed :
    let grumble : Transformer Scripted.Form Scripted.Desk :=
      { name := "Grumble", apply := fun _ _ _ => throw (.rejected { template := "bad" }) }
    let pass : Handler Scripted.Form Scripted.Desk :=
      .function fun f => throw (.rejected { f.rejection with template := "lost" })
    let ds : List (Declaration Scripted.Form Scripted.Desk) :=
      [.node { identity := .given "g" grumble }, .failTo .null (some pass)]
    let p : Processor Scripted.Form Scripted.Desk :=
      { metadata := [(("Doc", .inbound), [⟨"name", ds⟩])] }
    let form : Scripted.Form := { fields := [("name", .string "x")], filled := ["name"] }
    let w : Workspace Scripted.Form Scripted.Desk := { run := { app := {} } }
    (∃ root q' w', Chain.compile p.resolver ⟨ds, 0⟩ form .inbound .all w = ((.ok root, q'), w') ∧
      ∀ v scope s, (root.answers v scope s).map Answer.pathless =
        (root.answers v (scope.tracing true) s).map Answer.pathless) ∧
    (∃ made u, p.pipeline form ⟨"name", ds⟩ .inbound w = (.ok made, u) ∧
      ∃ result result' left u₁ u₂, p.process form .inbound u = ((result, left), u₁) ∧
        (p.tracing true).process form .inbound u = ((result', left), u₂) ∧
        Report.seen result = Report.seen result') ∧
    ∃ result result' left w', p.process form .inbound w = ((result, left), w') ∧
      (p.tracing true).process form .inbound w = ((result', left), w') ∧
      Report.seen result = Report.seen result' := by
  intro grumble pass ds p form w
  have grumbles : grumble.Does Callable.Traceless :=
    fun args => ⟨fun v scope b s s' app => Act.seen_rejected rfl app, fun v scope s => rfl⟩
  have passes : pass.Traceless := by
    refine ⟨fun fallback v scope r r' alike s s' app => Act.seen_rejected ?_ app,
      fun fallback v scope r s => rfl⟩
    cases r
    cases r'
    cases alike
    rfl
  have requested {P : Callable Scripted.Form Scripted.Desk → Prop} (h : grumble.Does P)
      (owner : Scripted.Form) : Chain.Supplied {} owner P ds := by
    intro d hd need hn
    simp only [ds, List.mem_cons, List.not_mem_nil, or_false] at hd
    rcases hd with rfl | rfl
    · cases List.mem_singleton.mp hn
      exact h
    · cases hn
  have handled : ∀ d ∈ ds, ∀ h, d.handler? = some h → h = pass := by
    intro d hd h own
    simp only [ds, List.mem_cons, List.not_mem_nil, or_false] at hd
    rcases hd with rfl | rfl
    · cases own
    · exact (Option.some.inj own).symm
  have given : Chain.Traceless p.resolver ds :=
    ⟨requested grumbles, fun d hd h own => handled d hd h own ▸ passes⟩
  have empty : w.cache.Traceless := .of_empty rfl rfl
  obtain ⟨l, w₁, resolved⟩ : ∃ l w₁,
      Resolver.resolve {} (.node { identity := .given "g" grumble }) form w = (.ok l, w₁) :=
    ⟨_, _, rfl⟩
  have walk : Chain.Compiles {} form .inbound .all 0 [] ds w
      [.fresh ("FailTo(" ++ l.name ++ ")") [.leaf l] (.recover .null (some pass))] _ w₁ :=
    .node nofun resolved (.failTo nofun rfl (.atEnd 1 _ _))
  obtain ⟨tree, compiled, processed⟩ := process_oblivious p true
  refine ⟨?_, ?_, ?_⟩
  · have built : Chain.compile p.resolver ⟨ds, 0⟩ form .inbound .all w =
        ((.ok (.fresh "Chain" [_] .pipe), _), w₁) :=
      Chain.compile_eq_ok.mpr ⟨[_], _, walk, rfl, rfl⟩
    refine ⟨_, _, w₁, built, fun v scope s => ?_⟩
    exact (tree _ _ _ _ _ _ _ _ built (requested (fun args => (grumbles args).oblivious) form)
      (.of_empty rfl) (fun d hd h own => handled d hd h own ▸ passes.oblivious) v scope s s rfl).2
  · have whole := Chain.compileAll_eq_ok.mpr ⟨[_], _, w₁, walk, rfl, rfl⟩
    obtain ⟨made, u, first⟩ : ∃ made u, p.pipeline form ⟨"name", ds⟩ .inbound w = (.ok made, u) :=
      ⟨_, _, pipeline_compiled rfl whole⟩
    have own := ((pipeline_traceless given empty first).2 made rfl).oblivious
    -- Neither setting nor unfilling a field changes which pipeline a form has.
    let like (a : Scripted.Form) : Prop :=
      pipelineKey a "name" .inbound = pipelineKey form "name" .inbound
    have closed (a : Scripted.Form) (field : String) (v : Value) (own : like a) :
        like (Record.set a field v) ∧ like (Record.unfill a field) := by
      have set_key : pipelineKey (a.set field v) "name" .inbound =
          pipelineKey a "name" .inbound := by
        simp only [Scripted.Form.set]
        split <;> rfl
      have unfill_key : pipelineKey (a.unfill field) "name" .inbound =
          pipelineKey a "name" .inbound := by
        simp only [Scripted.Form.unfill]
        split <;> rfl
      exact ⟨set_key.trans own, unfill_key.trans own⟩
    have kept := pipeline_keeps first
    have fields : p.metadata.fields (Record.typeName form) .inbound = [⟨"name", ds⟩] := rfl
    have there (a : Scripted.Form) (alike : like a) :
        ∀ f ∈ p.metadata.fields (Record.typeName form) .inbound,
          ∃ made, u.cache.pipeline? (pipelineKey a f.field .inbound) = some made ∧
            made.run.Oblivious := by
      rw [fields, List.forall_mem_singleton]
      refine ⟨made, ?_, own⟩
      rw [alike]
      exact kept
    obtain ⟨result, result', left, u₁, u₂, ran, ran', same, -⟩ :=
      compiled like form .inbound u u rfl rfl closed there rfl
    exact ⟨made, u, first, result, result', left, u₁, u₂, ran, ran', same⟩
  · obtain ⟨result, result', left, w', ran, ran', same, -⟩ :=
      processed form .inbound w (List.forall_mem_singleton.mpr given) empty
    exact ⟨result, result', left, w', ran, ran', same⟩

end Processor

end FieldPipeline
