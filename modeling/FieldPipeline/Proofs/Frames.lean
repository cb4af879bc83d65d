import FieldPipeline.Proofs.Enrichment

namespace FieldPipeline

open Outcome Resolver

variable {ρ σ : Type} [Record ρ σ] {r : Resolver ρ σ} {c : Cache ρ σ} {scope : Scope ρ}
  {site : Site ρ σ} {source : Source ρ σ} {args : List Arg} {v : Value}

/-- A site that calls the code of a source, with the arguments `args` and on the value `v`, under
the name of the source. A leaf has the same name. -/
structure Site.Calls (r : Resolver ρ σ) (c : Cache ρ σ) (site : Site ρ σ) (source : Source ρ σ)
    (args : List Arg) (v : Value) : Prop where
  stands : source.Stands r Request.Addressed c
  name : ∀ l value, site = .leaf l value → l.name = source.name
  call : site.call? = some ((source.body args).asNode source.name, v)

/-- Sites that leave the trace as they find it, given that the code does that they call. -/
inductive Site.Tidy (r : Resolver ρ σ) (c : Cache ρ σ) (scope : Scope ρ) : Site ρ σ → Prop
  | call {site : Site ρ σ} {source : Source ρ σ} {args : List Arg} {v : Value}
      (calls : site.Calls r c source args v)
      (balanced : ∀ s, (source.body args v scope s).2.trace = s.trace) : Tidy r c scope site
  | handler {fallback : Arg} {h : Handler ρ σ} {v : Value} {rejection : Rejection}
      (balanced : (Site.handler fallback h v rejection).Balanced scope) :
      Tidy r c scope (.handler fallback h v rejection)
  | refusal (node : String) (rejection : Rejection) : Tidy r c scope (.refusal node rejection)

theorem Site.Stands.calls {run : Callable ρ σ} (h : site.Stands r Request.Addressed c)
    (called : site.call? = some (run, v)) : ∃ source args, site.Calls r c source args v := by
  obtain ⟨source, args, stands, name, rfl⟩ := h.call called fun _ => id
  exact ⟨source, args, stands, name, called⟩

theorem Site.Tidy.balanced (h : site.Tidy r c scope) : site.Balanced scope := by
  cases h with
  | call calls balanced =>
    intro s
    rw [run_call calls.call]
    exact Callable.asNode_trace balanced _ s
  | handler balanced => exact balanced
  | refusal node rejection => exact fun s => rfl

omit [Record ρ σ] in
/-- The name of a call lies on top of the frames of the elements around it. -/
theorem Scope.enter_call {s t : RunState σ} {place : List Nat}
    (frames : t.trace.frames = s.trace.frames ++ scope.elementFrames place) (name : String) :
    (scope.enter name t).trace.frames = s.trace.frames ++
      if scope.tracePaths then (place.map fun i => "[" ++ toString i ++ "]") ++ [name] else [] := by
  rw [enter_frames, frames, List.append_assoc]
  unfold elementFrames
  split <;> rfl

/-- In every pipeline that is compiled after any jobs, leaves and predicates call code that is in
the cache, leaves under their own name. The pipeline runs its plan, and each answer starts where the
one before left the application. If the code that a pipeline calls and its failure handlers leave
the trace as they find it, so does the pipeline, however it ends. While paths are traced, the code
finds one frame for each element around it, outermost first, and its own name; otherwise it finds no
frames that were not there before. -/
theorem Chain.frames_balanced {p : Processor ρ σ} {start w' : Workspace ρ σ}
    (empty : start.cache = {}) (jobs : List (Job ρ σ))
    (known : ∀ job ∈ jobs, job.Known p Request.Addressed) {q q' : Queue ρ σ}
    (asked : Known Request.Addressed q.rest) {owner : ρ} {direction : Direction} {take : Take}
    {root : Node ρ σ}
    (built : compile p.resolver q owner direction take (jobs.foldl p.afterJob start) =
      ((.ok root, q'), w')) :
    (∀ site, root.MayAsk site → ∀ run v, site.call? = some (run, v) →
      ∃ source args, site.Calls p.resolver w'.cache source args v) ∧
    (∀ x scope s, root.compile x scope s = (root.plan x).run scope s ∧
      Answer.Linked s.app (root.answers x scope s) (root.compile x scope s).2.app) ∧
    ∀ scope, (∀ site, root.MayAsk site → site.Tidy p.resolver w'.cache scope) → ∀ x s,
      (root.compile x scope s).2.trace = s.trace ∧
      ∀ answer ∈ root.answers x scope s, ∀ source args v,
        answer.site.Calls p.resolver w'.cache source args v →
        answer.site.run scope answer.before = (answer.result, answer.after) ∧
        answer.result = (Act.onRejection (scope.enrich source.name) (source.body args v scope)
          (scope.enter source.name answer.before)).1 ∧
        (scope.enter source.name answer.before).trace.frames = s.trace.frames ++
          if scope.tracePaths then
            (answer.place.map fun i => "[" ++ toString i ++ "]") ++ [source.name]
          else [] := by
  have backed := Processor.jobs_backed known (.of_empty empty)
  have stands := compile_stands built asked backed.sound
  have fresh := compile_isFresh built
  refine ⟨fun site may run v called => (stands site may).calls called, ?_, ?_⟩
  · intro x scope s
    have runs : root.compile x scope s = (root.plan x).run scope s := by
      rw [Node.compile_plan fresh]
      rfl
    refine ⟨runs, ?_⟩
    rw [runs]
    exact Plan.answers_linked scope (root.plan x) [] s
  intro scope tidy x s
  have balanced (site : Site ρ σ) (may : root.MayAsk site) := (tidy site may).balanced
  refine ⟨Node.compile_trace fresh balanced x s, ?_⟩
  intro answer mem source args v calls
  have ran := Plan.answers_run mem
  refine ⟨ran, ?_, Scope.enter_call (Node.answers_frames balanced mem) source.name⟩
  rw [Site.run_call calls.call] at ran
  exact (congrArg Prod.fst ran).symm.trans (Scope.framed_fst ..)

/-- A node that always fails, and is recovered, inside each element. The second call finds no frame
of the first. -/
theorem Chain.frames_balanced_recovered :
    let grumble : Transformer Scripted.Form Scripted.Desk :=
      { name := "Grumble", apply := fun _ _ _ => throw (.rejected { template := "bad" }) }
    let ds : List (Declaration Scripted.Form Scripted.Desk) :=
      [.group (.each none), .node { identity := .given "g" grumble }, .failTo .null none]
    let scope : Scope Scripted.Form :=
      { record := {}, context := .null, direction := .inbound, tracePaths := true }
    let s : RunState Scripted.Desk := { app := {}, trace := ⟨["outer"]⟩ }
    ∃ root q' w',
      compile {} ⟨ds, 0⟩ {} .inbound .all { run := { app := {} } } = ((.ok root, q'), w') ∧
      root.compile (.array [.null, .bool true]) scope s = (.ok (.array [.null, .null]), s) ∧
      ∃ answer ∈ root.answers (.array [.null, .bool true]) scope s,
        answer.place = [1] ∧
        (scope.enter "Grumble" answer.before).trace.frames = ["outer", "[1]", "Grumble"] := by
  intro grumble ds scope s
  let request : Request Scripted.Form Scripted.Desk := { identity := .given "g" grumble }
  let i : Instance Scripted.Form Scripted.Desk := ⟨.given "g", grumble⟩
  let source : Source Scripted.Form Scripted.Desk :=
    .ofInstance (instanceKey grumble.name (.given "g")) request i
  obtain ⟨l, w₁, resolved, runs, own, there⟩ : ∃ l w₁,
      resolve {} (.node request) ({} : Scripted.Form) { run := { app := {} } } = (.ok l, w₁) ∧
      l.step.run = (source.body []).asNode source.name ∧ source.name = l.name ∧
      w₁.cache.instance? (instanceKey grumble.name (.given "g")) = some i :=
    ⟨_, _, rfl, rfl, rfl, rfl⟩
  let guarded : Node Scripted.Form Scripted.Desk :=
    .fresh ("FailTo(" ++ l.name ++ ")") [.leaf l] (.recover .null none)
  let chain : Node Scripted.Form Scripted.Desk :=
    .fresh "Chain" [.fresh "Each" [guarded] .each] .pipe
  have inner : Compiles {} ({} : Scripted.Form) .inbound .all 0 [] (ds.drop 1)
      { run := { app := {} } } [guarded] _ w₁ :=
    .node nofun resolved (.failTo nofun rfl (.atEnd 1 _ _))
  have walk : Compiles {} ({} : Scripted.Form) .inbound .all 0 [] ds
      { run := { app := {} } } [.fresh "Each" [guarded] .each] _ w₁ :=
    .active nofun rfl rfl inner rfl (.atEnd 1 _ _)
  have built : compile {} ⟨ds, 0⟩ ({} : Scripted.Form) .inbound .all { run := { app := {} } } =
      ((.ok chain, _), w₁) :=
    compile_eq_ok.mpr ⟨[_], _, walk, rfl, rfl⟩
  have calls (v : Value) : (Site.leaf l v).Calls {} w₁.cache source [] v := by
    refine ⟨.given rfl there, ?_, congrArg (fun run => some (run, v)) runs⟩
    rintro _ _ ⟨⟩
    exact own.symm
  have tidy : ∀ site, chain.MayAsk site → site.Tidy {} w₁.cache scope := by
    intro site may
    simp only [chain, guarded, Node.mayAsk_fresh, Node.mayAsk_leaf, List.mem_singleton,
      exists_eq_left] at may
    rcases may with asks | asks | asks | ⟨v, rfl⟩
    · cases asks
    · cases asks
      exact .refusal ..
    · cases asks
    · exact .call (calls v) fun s => rfl
  have asked : Known Request.Addressed ds := by
    intro d mem request wanted
    simp only [ds, List.mem_cons, List.not_mem_nil, or_false] at mem
    rcases mem with rfl | rfl | rfl
    · cases wanted
    · cases List.mem_singleton.mp wanted
      rintro as ⟨⟩
    · cases wanted
  obtain ⟨-, tied, all⟩ := frames_balanced (p := {}) rfl [] (List.forall_mem_nil _) (q := ⟨ds, 0⟩)
    asked built
  have each := (all scope tidy (.array [.null, .bool true]) s).2
  have ran : chain.compile (.array [.null, .bool true]) scope s =
      (.ok (.array [.null, .null]), s) := by
    rw [(tied _ scope s).1]
    obtain ⟨⟨number, _⟩, backing, className, method⟩ := l
    subst runs
    rfl
  obtain ⟨answer, mem, same, place⟩ : ∃ answer ∈ chain.answers (.array [.null, .bool true]) scope s,
      answer.site = .leaf l (.bool true) ∧ answer.place = [1] := by
    obtain ⟨⟨number, _⟩, backing, className, method⟩ := l
    subst runs
    exact ⟨_, .tail _ (.head _), rfl, rfl⟩
  refine ⟨chain, _, w₁, built, ran, answer, mem, place, ?_⟩
  have frames := (each answer mem source [] (.bool true) (same ▸ calls (.bool true))).2.2
  rw [place] at frames
  exact frames

end FieldPipeline
