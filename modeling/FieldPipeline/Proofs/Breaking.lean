import FieldPipeline.Proofs.Answers
import FieldPipeline.Proofs.Memo
import FieldPipeline.Proofs.Supply

namespace FieldPipeline

open Outcome

variable {ρ σ : Type}

/-- Code that runs as a node breaks with the faults that it breaks with by itself. -/
theorem Callable.asNode_hard {fault : Fault} (hard : ∀ r, fault ≠ .rejected r) (name : String)
    (body : Callable ρ σ) (v : Value) (scope : Scope ρ) (s : RunState σ) :
    (body.asNode name v scope s).1 = .error fault ↔
      (body v scope (scope.enter name s)).1 = .error fault := by
  rw [asNode, Scope.framed_fst, Act.onRejection_hard hard]

variable [Record ρ σ]

/-- A tree that compilation makes of declarations. -/
def Node.Built (root : Node ρ σ) : Prop :=
  ∃ (r : Resolver ρ σ) (q q' : Queue ρ σ) (owner : ρ) (direction : Direction) (take : Take)
    (w w' : Workspace ρ σ), Chain.compile r q owner direction take w = ((.ok root, q'), w')

theorem Node.Built.isFresh {root : Node ρ σ} (h : root.Built) : root.IsFresh := by
  obtain ⟨r, q, q', owner, direction, take, w, w', built⟩ := h
  exact Chain.compile_isFresh built

/-- A composite in such a tree has not been joined yet, and neither has anything in it. -/
theorem Node.Built.composite {root : Node ρ σ} (h : root.Built) {name : String}
    {children : List (Node ρ σ)} {strategy : Strategy ρ σ} {made : Option (Callable ρ σ)}
    (part : .composite name children strategy made ∈ root.parts) :
    made = none ∧ AreFresh children :=
  isFresh_of_mem_parts h.isFresh _ part

theorem Node.Built.compile_run {root : Node ρ σ} (h : root.Built) (v : Value) (scope : Scope ρ)
    (s : RunState σ) : root.compile v scope s = (root.plan v).run scope s := by
  rw [compile_plan h.isFresh]
  rfl

theorem Chain.compileAll_built {r : Resolver ρ σ} {ds : List (Declaration ρ σ)} {owner : ρ}
    {direction : Direction} {made : Compiled ρ σ} {w w' : Workspace ρ σ}
    (h : compileAll r ds owner direction w = (.ok made, w')) :
    ∃ root : Node ρ σ, root.Built ∧ made.run = root.compile := by
  obtain ⟨children, used, w₁, walk, rfl, rfl⟩ := compileAll_eq_ok.mp h
  have built := compile_eq_ok (q := ⟨ds, 0⟩).mpr ⟨children, used, walk, rfl, rfl⟩
  exact ⟨_, ⟨r, _, _, owner, direction, .all, w, w₁, built⟩, rfl⟩

namespace Processor

variable {p : Processor ρ σ} {context : Value} {direction : Direction}
  {fields : List (FieldDeclarations ρ σ)} {d : FieldDeclarations ρ σ} {record current : ρ}
  {made : Compiled ρ σ} {w u u' : Workspace ρ σ}

/-- A run that comes to a field ends there if handling the field ends it. -/
theorem Reaches.processFields_ended {fault : Fault} {left : ρ}
    (reached : p.Reaches context direction fields record w d current u)
    (step : p.Handles context direction d current u (.ended fault) left u') :
    p.processFields context direction fields record {} w = ((.error fault, left), u') := by
  obtain ⟨before, after, report, rfl, ran⟩ := reached
  rw [processFields_append, ran]
  exact step.processFields_cons after report

theorem Reaches.justified (reached : p.Reaches context direction fields record w d current u)
    (h : p.Justified (fun _ => True) w.cache) : p.Justified (fun _ => True) u.cache := by
  obtain ⟨before, after, report, rfl, ran⟩ := reached
  have there : p.Justified (fun _ => True)
      (p.processFields context direction before record {} w).2.cache :=
    justified_processFields before (d :: after) h fun _ _ _ _ _ => trivial
  rw [ran] at there
  exact there

/-- A pipeline is the callable of a compiled tree, also if it is taken from the cache. -/
theorem pipeline_built (h : p.Justified (fun _ => True) u.cache)
    (piped : p.pipeline current d direction u = (.ok made, u')) :
    ∃ root : Node ρ σ, root.Built ∧ made.run = root.compile := by
  have kept := justified_pipeline (l := ⟨current, d, direction⟩) h trivial piped
  obtain ⟨l, v, v', -, -, compiled, -⟩ := kept _ made (pipeline_keeps piped)
  exact Chain.compileAll_built compiled

/-- Only rejections are dealt with. A fault of another kind passes the node that raises it. As the
answer of a leaf, a condition or a handler it is the last answer of the run, and the pipeline fails
with it, wherever in the tree that was. Processing ends with it in every mode, and leaves the record
as it was when the field was come to. -/
theorem process_breaks {fault : Fault} (hard : ∀ r, fault ≠ .rejected r) :
    (∀ name (body : Callable ρ σ) v scope s, (body.asNode name v scope s).1 = .error fault ↔
      (body v scope (scope.enter name s)).1 = .error fault) ∧
    (∀ root : Node ρ σ, root.Built → ∀ v scope s, ∀ answer ∈ root.answers v scope s,
      answer.result = .error fault →
        (∃ earlier, root.answers v scope s = earlier ++ [answer]) ∧
        (root.compile v scope s).1 = .error fault ∧
        (root.compile v scope s).2.app = answer.after.app) ∧
    ∀ (p : Processor ρ σ) record direction w d current u made u',
      p.Justified (fun _ => True) w.cache →
      p.Reaches (Record.context record) direction
        (p.metadata.fields (Record.typeName record) direction) record w d current u →
      Record.isFilled current d.field = true →
      p.pipeline current d direction u = (.ok made, u') →
      (∃ root : Node ρ σ, root.Built ∧ made.run = root.compile) ∧
      ∀ root : Node ρ σ, root.Built → made.run = root.compile →
        ∀ answer ∈ root.answers ((Record.get? current d.field).getD .null)
          { record := current, context := Record.context record, direction,
            tracePaths := p.options.tracePaths } u'.run,
          answer.result = .error fault →
          ∃ u'', p.process record direction w = ((.error fault, current), u'') := by
  have breaks (root : Node ρ σ) (built : root.Built) (v : Value) (scope : Scope ρ)
      (s : RunState σ) (answer : Answer ρ σ) (mem : answer ∈ root.answers v scope s)
      (raised : answer.result = .error fault) :
      (∃ earlier, root.answers v scope s = earlier ++ [answer]) ∧
        (root.compile v scope s).1 = .error fault ∧
        (root.compile v scope s).2.app = answer.after.app := by
    obtain ⟨⟨earlier, last⟩, failed⟩ := Plan.answers_hard hard mem raised
    have linked := Plan.answers_linked scope (root.plan v) [] s
    rw [last] at linked
    rw [built.compile_run]
    exact ⟨⟨earlier, last⟩, failed, linked.last.symm⟩
  refine ⟨Callable.asNode_hard hard, breaks, ?_⟩
  intro p record direction w d current u made u' kept reached filled piped
  refine ⟨pipeline_built (reached.justified kept) piped, ?_⟩
  intro root built made_run answer mem raised
  have failed := (breaks root built _ _ _ answer mem raised).2.1
  obtain ⟨u'', ran⟩ : ∃ u'', p.runField made current d.field (Record.context record) direction u' =
      (.error fault, u'') := by
    rw [runField, made_run]
    exact ⟨_, Prod.ext failed rfl⟩
  exact ⟨u'', reached.processFields_ended (.broken filled piped ran hard)⟩

/-- A leaf that breaks inside an alternative inside a protection, while rejections would empty the
field. -/
theorem process_breaks_protected :
    let ds : List (Declaration Scripted.Form Scripted.Desk) :=
      [.group (.failNextTo .null none none), .group (.any (some 2)),
        .node { identity := .named "Boom" }, .node { identity := .named "Echo" }]
    let p : Processor Scripted.Form Scripted.Desk :=
      { resolver.fallback :=
          some fun _ _ _ => pure (some (.callable fun _ _ _ => throw (.internal "boom")))
        metadata := [(("Doc", .inbound), [⟨"name", ds⟩])]
        options := { errorMode := .collectNone, tracePaths := true } }
    let form : Scripted.Form := { fields := [("name", .string "x")], filled := ["name"] }
    ∃ u'', p.process form .inbound { run := { app := {} } } =
      ((.error (.internal "boom"), form), u'') := by
  intro ds p form
  let w : Workspace Scripted.Form Scripted.Desk := { run := { app := {} } }
  let P : Callable Scripted.Form Scripted.Desk → Prop :=
    fun body => ∀ v scope s, (body v scope s).1 = .error (.internal "boom")
  have supplied : p.resolver.Supplies form P (.node { identity := .named "Boom" }) := by
    refine ⟨nofun, nofun, ?_⟩
    rintro resolve ⟨⟩ s answer s' ⟨⟩ args v scope t
    rfl
  obtain ⟨first, w₁, found⟩ : ∃ l w₁, p.resolver.resolve
      (.node { identity := .named "Boom" }) form w = (.ok l, w₁) :=
    Resolver.resolve_callable rfl rfl rfl rfl (fun _ => rfl) w
  obtain ⟨second, w₂, found'⟩ : ∃ l w₂, p.resolver.resolve
      (.node { identity := .named "Echo" }) form w₁ = (.ok l, w₂) :=
    Resolver.resolve_callable rfl rfl rfl rfl (fun _ => rfl) w₁
  have leaves : Chain.Compiles p.resolver form .inbound (.exactly 2) 0 []
      (ds.drop 2) w [.leaf second, .leaf first] _ w₂ :=
    .node (by decide) found (.node (by decide) found' (.full 2 _ _ _))
  have any_ : Chain.Compiles p.resolver form .inbound (.exactly 1) 0 [] (ds.drop 1) w
      [.fresh "Any" [.leaf first, .leaf second] .firstSuccess] _ w₂ :=
    .active (by decide) rfl rfl leaves rfl (.full 1 _ _ _)
  have walk : Chain.Compiles p.resolver form .inbound .all 0 [] ds w [.fresh "FailNextTo"
      [.fresh "Any" [.leaf first, .leaf second] .firstSuccess] (.recover .null none)] _ w₂ :=
    .active nofun rfl rfl any_ rfl (.atEnd 1 _ _)
  have compiled := Chain.compileAll_eq_ok.mpr ⟨[_], _, w₂, walk, rfl, rfl⟩
  have built : Node.Built (.fresh "Chain" [.fresh "FailNextTo"
      [.fresh "Any" [.leaf first, .leaf second] .firstSuccess] (.recover .null none)] .pipe) :=
    ⟨p.resolver, ⟨ds, 0⟩, _, form, .inbound, .all, w, w₂,
      Chain.compile_eq_ok.mpr ⟨[_], _, walk, rfl, rfl⟩⟩
  have runs := Resolver.keeps_resolve (u := .supply (fun _ => True) P) supplied fun _ _ => trivial
  obtain ⟨name, body, runs, breaks⟩ :=
    (runs.after (Cache.Holds.of_empty rfl)).2 first (congrArg Prod.fst found)
  have hard : ∀ r, Fault.internal "boom" ≠ .rejected r := nofun
  have fails (v scope s) : (first.step.run v scope s).1 = .error (.internal "boom") := by
    rw [runs]
    exact (Callable.asNode_hard hard name body v scope s).mpr (breaks v scope _)
  have asked (v : Value) (scope : Scope Scripted.Form) (s : RunState Scripted.Desk) :
      (⟨.leaf first v, [], s, (first.step.run v scope s).1, (first.step.run v scope s).2⟩ :
        Answer Scripted.Form Scripted.Desk) ∈
      (Node.fresh "Chain" [.fresh "FailNextTo"
        [.fresh "Any" [.leaf first, .leaf second] .firstSuccess] (.recover .null none)]
        .pipe).answers v scope s := by
    simp only [Node.answers, Node.fresh, Node.plan, Node.planAll, Node.plans, Plan.recover,
      Plan.firstSuccess, Plan.firstOf, List.isEmpty_cons]
    refine Plan.mem_answers_andThen.mpr (.inl (Plan.mem_answers_orElse.mpr (.inl ?_)))
    refine Plan.mem_answers_andThen.mpr (.inl (Plan.mem_answers_orElse.mpr (.inl ?_)))
    exact List.mem_singleton_self _
  have ended := (process_breaks hard).2.2 p form .inbound w ⟨"name", ds⟩ form w _ _
    (.of_empty rfl) ⟨[], [], {}, rfl, rfl⟩ rfl (pipeline_compiled rfl compiled)
  exact ended.2 _ built rfl _ (asked _ _ _) (fails _ _ _)

end Processor

end FieldPipeline
