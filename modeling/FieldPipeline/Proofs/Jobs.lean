import FieldPipeline.Proofs.Memo
import FieldPipeline.Proofs.Trail

namespace FieldPipeline

open Outcome Resolver

variable {ρ σ : Type}

/-- What an application does with a processor, a resolver and a compiler that share a cache. -/
inductive Job (ρ σ : Type) where
  | call (c : Call ρ σ)
  | resolve (d : Declaration ρ σ) (owner : ρ)
  | compile (ds : List (Declaration ρ σ)) (owner : ρ) (direction : Direction)

/-- The cache is cleared, or a key of it. -/
def Job.Clears : Job ρ σ → Prop
  | call .clear | call (.clearKey _) => True
  | _ => False

namespace Cache

theorem instance?_absent {c : Cache ρ σ} {key : String} (absent : c.contains key = false) :
    c.instance? key = none := by
  rw [contains, Table.has, Option.isSome_eq_false_iff, Option.isNone_iff_eq_none] at absent
  rw [instance?, entry, absent]
  rfl

theorem step?_absent {c : Cache ρ σ} {key : String} (absent : c.contains key = false)
    (argsKey : String) : c.step? key argsKey = none := by
  rw [contains, Table.has, Option.isSome_eq_false_iff, Option.isNone_iff_eq_none] at absent
  rw [step?, entry, absent]
  rfl

theorem contains_of_instance? {c : Cache ρ σ} {key : String} {i : Instance ρ σ}
    (there : c.instance? key = some i) : c.contains key = true := by
  cases present : c.contains key with
  | true => rfl
  | false => cases (instance?_absent present).symm.trans there

@[simp] theorem drop_fst (c : Cache ρ σ) (key : String) : (c.drop key).1 = c.contains key := by
  rw [drop]
  split
  · next present => exact present.symm
  · next absent => exact (Bool.eq_false_of_not_eq_true absent).symm

/-- The key that is dropped has no entry any more, and the other entries stay. -/
theorem entry_drop (c : Cache ρ σ) {key : String} (there : c.contains key = true) (k : String) :
    (c.drop key).2.entry k = if k = key then {} else c.entry k := by
  rw [drop, if_pos there]
  cases c.instance? key with
  | none =>
    simp only [entry, Table.get?_erase]
    split <;> rfl
  | some i =>
    simp only [entry, forgetBooted, Table.get?_erase]
    split <;> rfl

theorem drop_absent {c : Cache ρ σ} {key : String} (absent : c.contains key = false) :
    c.drop key = (false, c) := by
  rw [drop, if_neg (by simp [absent])]

@[simp] theorem instance?_drop (c : Cache ρ σ) (key k : String) :
    (c.drop key).2.instance? k = if k = key then none else c.instance? k := by
  cases there : c.contains key with
  | true =>
    rw [instance?, c.entry_drop there]
    split <;> rfl
  | false =>
    rw [drop_absent there]
    split
    · next own =>
      rw [own]
      exact instance?_absent there
    · rfl

@[simp] theorem step?_drop (c : Cache ρ σ) (key k argsKey : String) :
    (c.drop key).2.step? k argsKey = if k = key then none else c.step? k argsKey := by
  cases there : c.contains key with
  | true =>
    rw [step?, c.entry_drop there]
    split <;> rfl
  | false =>
    rw [drop_absent there]
    split
    · next own =>
      rw [own]
      exact step?_absent there argsKey
    · rfl

theorem instance?_drop_eq_some {c : Cache ρ σ} {key k : String} {i : Instance ρ σ} :
    (c.drop key).2.instance? k = some i ↔ k ≠ key ∧ c.instance? k = some i := by
  rw [instance?_drop]
  split
  · next own => exact ⟨nofun, fun h => absurd own h.1⟩
  · next other => exact (and_iff_right other).symm

theorem step?_drop_eq_some {c : Cache ρ σ} {key k argsKey : String} {s : Compiled ρ σ} :
    (c.drop key).2.step? k argsKey = some s ↔ k ≠ key ∧ c.step? k argsKey = some s := by
  rw [step?_drop]
  split
  · next own => exact ⟨nofun, fun h => absurd own h.1⟩
  · next other => exact (and_iff_right other).symm

/-- The mark of the instance that the entry had is gone, and the other marks stay. -/
theorem isBooted_drop (c : Cache ρ σ) (key : String) (id : InstanceId) :
    (c.drop key).2.isBooted id = true ↔
      c.isBooted id = true ∧ ∀ i, c.instance? key = some i → i.id ≠ id := by
  cases there : c.contains key with
  | true =>
    rw [drop, if_pos there]
    cases c.instance? key with
    | none => simp [isBooted]
    | some i => simp [isBooted, forgetBooted, @eq_comm _ id i.id]
  | false =>
    rw [drop_absent there, instance?_absent there]
    simp

theorem pipelines_drop {c : Cache ρ σ} {key : String} (there : c.contains key = true) :
    (c.drop key).2.pipelines = [] := by
  rw [drop, if_pos there]

end Cache

namespace Processor

variable [Record ρ σ]

/-- The workspace after a job. -/
def afterJob (p : Processor ρ σ) (w : Workspace ρ σ) : Job ρ σ → Workspace ρ σ
  | .call c => p.afterCall w c
  | .resolve d owner => (p.resolver.resolve d owner w).2
  | .compile ds owner direction => (Chain.compileAll p.resolver ds owner direction w).2

/-- What may be resolved in the course of a job. -/
inductive Needs (p : Processor ρ σ) : Job ρ σ → Declaration ρ σ → Prop
  | resolve (d : Declaration ρ σ) (owner : ρ) : Needs p (.resolve d owner) d
  | compile {ds : List (Declaration ρ σ)} {owner : ρ} {direction : Direction}
      {d need : Declaration ρ σ} (mem : d ∈ ds) (asked : need ∈ d.requests) :
      Needs p (.compile ds owner direction) need
  | pipeline {l : Lookup ρ σ} {d need : Declaration ρ σ} (mem : d ∈ l.field.declarations)
      (asked : need ∈ d.requests) : Needs p (.call (.pipeline l)) need
  | process {record : ρ} {direction : Direction} {f : FieldDeclarations ρ σ}
      {d need : Declaration ρ σ}
      (field : f ∈ p.metadata.fields (Record.typeName record) direction)
      (mem : d ∈ f.declarations) (asked : need ∈ d.requests) :
      Needs p (.call (.process record direction)) need

variable {p : Processor ρ σ} {w w' : Workspace ρ σ} {direction : Direction}

section Fields

variable {R : Workspace ρ σ → Workspace ρ σ → Prop} (refl : ∀ w, R w w)
  (trans : ∀ {w w' w''}, R w w' → R w' w'' → R w w'') (ran : ∀ w s, R w { w with run := s })

include refl trans ran

theorem Handles.across {context : Value} {f : FieldDeclarations ρ σ} {record left : ρ}
    {verdict : Verdict} (step : p.Handles context direction f record w verdict left w')
    (piped : ∀ w, R w (p.pipeline record f direction w).2) : R w w' := by
  have ended {made : Compiled ρ σ} {result : Except Fault Value} {w₁ w₂ : Workspace ρ σ}
      (built : p.pipeline record f direction w = (.ok made, w₁))
      (run : p.runField made record f.field context direction w₁ = (result, w₂)) : R w w₂ := by
    have first := piped w
    rw [built] at first
    rw [← show _ = w₂ from congrArg Prod.snd run]
    exact trans first (ran w₁ _)
  cases step with
  | absent => exact refl w
  | unbuilt filled built =>
    have first := piped w
    rw [built] at first
    exact first
  | processed filled built run | collected filled built run | refused filled built run
  | broken filled built run => exact ended built run

/-- What holds across every lookup of a pipeline holds across a run over fields. -/
theorem processFields_across (context : Value) (direction : Direction)
    {fields : List (FieldDeclarations ρ σ)}
    (piped : ∀ f ∈ fields, ∀ record w, R w (p.pipeline record f direction w).2) (record : ρ)
    (report : Report) (w : Workspace ρ σ) :
    R w (p.processFields context direction fields record report w).2 := by
  induction fields generalizing record report w with
  | nil => exact refl w
  | cons f rest ih =>
    obtain ⟨first, others⟩ := List.forall_mem_cons.mp piped
    obtain ⟨verdict, left, w', step⟩ := p.exists_handles context direction f record w
    have here := step.across refl trans ran (first record)
    rw [step.processFields_cons]
    cases verdict.enter f.field report with
    | error fault => exact here
    | ok report' => exact trans here (ih others left report' w')

end Fields

theorem leavesTrail_pipeline {P : Visit ρ σ → Prop} {f : FieldDeclarations ρ σ} (record : ρ)
    (wanted : ∀ d ∈ f.declarations, RequestsMeet record P d) :
    p.resolver.LeavesTrail P (p.pipeline record f direction) := by
  refine ⟨fun w => ?_⟩
  cases there : w.cache.pipeline? (pipelineKey record f.field direction) with
  | some made =>
    rw [pipeline_of_some there]
    exact ⟨[], .refl _ w, List.forall_mem_nil P⟩
  | none =>
    obtain ⟨visits, trail, known⟩ := (Chain.leavesTrail_compileAll direction wanted).trail w
    rw [pipeline_of_none there]
    rcases compiled : Chain.compileAll p.resolver f.declarations record direction w with
      ⟨fault | made, w₁⟩
    · rw [compiled] at trail
      exact ⟨visits, trail, known⟩
    · rw [compiled] at trail
      exact ⟨visits, trail.still (w₁.quiet_keepPipeline _ made), known⟩

theorem leavesTrail_processFields {P : Visit ρ σ → Prop} {fields : List (FieldDeclarations ρ σ)}
    (context : Value) (direction : Direction) (record : ρ) (report : Report)
    (wanted : ∀ f ∈ fields, ∀ current, ∀ d ∈ f.declarations, RequestsMeet current P d) :
    p.resolver.LeavesTrail P (p.processFields context direction fields record report) := by
  let R (w w' : Workspace ρ σ) : Prop :=
    ∃ visits, Trail p.resolver w visits w' ∧ ∀ visit ∈ visits, P visit
  have trans {w w' w'' : Workspace ρ σ} (first : R w w') (next : R w' w'') : R w w'' := by
    obtain ⟨visits, trail, known⟩ := first
    obtain ⟨visits', trail', known'⟩ := next
    exact ⟨_, trail.append trail', List.forall_mem_append.mpr ⟨known, known'⟩⟩
  refine ⟨processFields_across (R := R) (fun w => ⟨[], .refl _ w, List.forall_mem_nil _⟩) trans
    (fun w s => ⟨[], .of_cache rfl (Nat.le_refl _), List.forall_mem_nil _⟩) context direction ?_
    record report⟩
  intro f field current w
  exact (leavesTrail_pipeline current (wanted f field current)).trail w

theorem Reaches.trail {context : Value} {fields : List (FieldDeclarations ρ σ)}
    {d : FieldDeclarations ρ σ} {record current : ρ}
    (reached : p.Reaches context direction fields record w d current w') :
    ∃ visits, Trail p.resolver w visits w' := by
  obtain ⟨before, after, report, -, ran⟩ := reached
  have led : p.resolver.LeavesTrail (fun _ => True)
      (p.processFields context direction before record {}) :=
    leavesTrail_processFields context direction record {} fun _ _ _ _ _ _ _ _ => trivial
  obtain ⟨visits, trail, -⟩ := led.trail w
  rw [ran] at trail
  exact ⟨visits, trail⟩

/-- A job that does not clear anything resolves what it needs, and nothing else. -/
theorem exists_trail {job : Job ρ σ} (keeps : ¬ job.Clears) (w : Workspace ρ σ) :
    ∃ visits, Trail p.resolver w visits (p.afterJob w job) ∧
      ∀ visit ∈ visits, p.Needs job visit.declaration := by
  cases job with
  | resolve d owner =>
    have led : p.resolver.LeavesTrail (fun visit => p.Needs (.resolve d owner) visit.declaration)
        (p.resolver.resolve d owner) := by
      refine .resolve fun visit owned declared => ?_
      rw [declared]
      exact .resolve d owner
    exact led.trail w
  | compile ds owner direction =>
    have wanted : ∀ d ∈ ds, RequestsMeet owner
        (fun visit => p.Needs (.compile ds owner direction) visit.declaration) d :=
      fun d mem visit owned asked => .compile mem asked
    exact (Chain.leavesTrail_compileAll direction wanted).trail w
  | call c =>
    cases c with
    | clear => exact absurd trivial keeps
    | clearKey key => exact absurd trivial keeps
    | other change =>
      exact ⟨[], .quiet ⟨rfl, rfl, rfl, Nat.le_refl _⟩, List.forall_mem_nil _⟩
    | pipeline l =>
      have wanted : ∀ d ∈ l.field.declarations, RequestsMeet l.record
          (fun visit => p.Needs (.call (.pipeline l)) visit.declaration) d :=
        fun d mem visit owned asked => .pipeline mem asked
      exact (leavesTrail_pipeline l.record wanted).trail w
    | process record direction =>
      have wanted : ∀ f ∈ p.metadata.fields (Record.typeName record) direction, ∀ current,
          ∀ d ∈ f.declarations, RequestsMeet current
            (fun visit => p.Needs (.call (.process record direction)) visit.declaration) d :=
        fun f field current d mem visit owned asked => .process field mem asked
      exact (leavesTrail_processFields _ _ _ _ wanted).trail w

/-- What is kept by trails of what the jobs need, by dropped keys and by cleared caches holds after
the jobs. -/
theorem jobs_keep_needed {I : Workspace ρ σ → Prop} {jobs : List (Job ρ σ)}
    (trail : ∀ job ∈ jobs, ∀ {w visits w'}, Trail p.resolver w visits w' →
      (∀ visit ∈ visits, p.Needs job visit.declaration) → I w → I w')
    (drop : ∀ w key, I w → I { w with cache := (w.cache.drop key).2 })
    (clear : ∀ w, I w → I { w with cache := w.cache.clear }) (h : I w) :
    I (jobs.foldl p.afterJob w) := by
  induction jobs generalizing w with
  | nil => exact h
  | cons job rest ih =>
    obtain ⟨first, others⟩ := List.forall_mem_cons.mp trail
    refine ih others ?_
    by_cases keeps : job.Clears
    · cases job with
      | resolve | compile => exact keeps.elim
      | call c =>
        cases c with
        | clear => exact clear w h
        | clearKey key => exact drop w key h
        | pipeline | process | other => exact keeps.elim
    · obtain ⟨visits, led, needed⟩ := p.exists_trail keeps w
      exact first led needed h

/-- What trails, dropped keys and cleared caches keep holds after any jobs. -/
theorem jobs_keep {I : Workspace ρ σ → Prop}
    (trail : ∀ {w visits w'}, Trail p.resolver w visits w' → I w → I w')
    (drop : ∀ w key, I w → I { w with cache := (w.cache.drop key).2 })
    (clear : ∀ w, I w → I { w with cache := w.cache.clear }) (jobs : List (Job ρ σ)) (h : I w) :
    I (jobs.foldl p.afterJob w) :=
  jobs_keep_needed (fun _ _ {_ _ _} led _ => trail led) drop clear h

/-- Jobs that clear nothing lose nothing from the cache. -/
theorem jobs_grow {jobs : List (Job ρ σ)} (keeps : ∀ job ∈ jobs, ¬ job.Clears)
    (w : Workspace ρ σ) : w.cache.Grows (jobs.foldl p.afterJob w).cache := by
  induction jobs generalizing w with
  | nil => exact .refl _
  | cons job rest ih =>
    obtain ⟨first, others⟩ := List.forall_mem_cons.mp keeps
    obtain ⟨visits, led, -⟩ := p.exists_trail first w
    exact led.grows.trans (ih others _)

end Processor

/-- The numbers in a workspace were issued, those of its marks too, and in an entry for a type there
is a constructed instance. -/
structure Workspace.Orderly (w : Workspace ρ σ) : Prop where
  numbered : w.Numbered
  marked : ∀ n, w.cache.isBooted (.made n) = true → n < w.issued
  typed : ∀ name args i, w.cache.instance? (typeKey name args) = some i → ∃ n, i.id = .made n

namespace Workspace.Orderly

variable {w w' : Workspace ρ σ}

section Steps

variable [Record ρ σ] {r : Resolver ρ σ}

theorem trail {visits : List (Visit ρ σ)} (h : w.Orderly) (led : Trail r w visits w') :
    w'.Orderly := by
  induction led with
  | @quiet w w' still =>
    refine ⟨still.numbered h.numbered, fun n booted => ?_, fun name args i found => ?_⟩
    · rw [Cache.isBooted, still.booted] at booted
      exact (h.marked n booted).trans_le still.issued
    · rw [Cache.instance?_congr still.entries] at found
      exact h.typed name args i found
  | @visit visit w w' ran course =>
    have numbered := course.numbered h.numbered
    refine ⟨numbered, fun n booted => ?_, fun name args i found => ?_⟩
    · simp only [Cache.isBooted, decide_eq_true_eq, course.booted, List.mem_append,
        Option.mem_toList] at booted
      obtain new | before := booted
      · obtain ⟨-, key, i, reached, made⟩ := visit.booted_eq_some new
        exact numbered.instances (course.stored reached) made
      · exact (h.marked n (decide_eq_true before)).trans_le course.issued
    · obtain there | ⟨request, constructed, u, -, offers⟩ := course.instance?_cases found
      · exact h.typed name args i there
      · generalize place : typeKey name args = key at offers
        cases offers with
        | given => exact (typeKey_ne_instanceKey _ _ _ _ place).elim
        | cached identity type there => exact h.typed _ _ i there
        | constructed => exact ⟨_, rfl⟩
        | answered => exact ⟨_, rfl⟩
        | kept => exact (typeKey_ne_fallbackKey _ _ _ _ place).elim
  | append first next ih ih' => exact ih' (ih h)

end Steps

theorem empty (fresh : w.cache = {}) : w.Orderly := by
  refine ⟨.of_empty (congrArg Cache.entries fresh), fun n booted => ?_, fun name args i found => ?_⟩
  · rw [fresh] at booted
    cases booted
  · rw [fresh] at found
    cases found

theorem drop (h : w.Orderly) (key : String) :
    ({ w with cache := (w.cache.drop key).2 } : Workspace ρ σ).Orderly where
  numbered := by
    constructor
    · intro k i n found made
      exact h.numbered.instances (Cache.instance?_drop_eq_some.mp found).2 made
    · intro k k' i i' n found found' made made'
      exact h.numbered.instance_key (Cache.instance?_drop_eq_some.mp found).2
        (Cache.instance?_drop_eq_some.mp found').2 made made'
    · intro k argsKey s found
      exact h.numbered.steps (Cache.step?_drop_eq_some.mp found).2
    · intro k argsKey s k' argsKey' s' found found' same
      exact h.numbered.step_key (Cache.step?_drop_eq_some.mp found).2
        (Cache.step?_drop_eq_some.mp found').2 same
  marked n booted := h.marked n ((Cache.isBooted_drop ..).mp booted).1
  typed name args i found := h.typed name args i (Cache.instance?_drop_eq_some.mp found).2

/-- However a workspace came about, it is orderly. -/
theorem jobs [Record ρ σ] {p : Processor ρ σ} (h : w.Orderly) (jobs : List (Job ρ σ)) :
    (jobs.foldl p.afterJob w).Orderly :=
  p.jobs_keep (fun led held => held.trail led) (fun _ key held => held.drop key)
    (fun _ _ => .empty rfl) jobs h

end Workspace.Orderly

end FieldPipeline
