import FieldPipeline.Proofs.Jobs

namespace FieldPipeline

open Outcome Resolver

variable {ρ σ : Type} [Record ρ σ] {r : Resolver ρ σ} {w w' : Workspace ρ σ} {visit : Visit ρ σ}
  {visits : List (Visit ρ σ)}

/-- A resolution that succeeds without a boot of its own does not boot at all. -/
theorem Resolver.Course.boot_of_ok {l : Leaf ρ σ} (h : Course r w visit w')
    (ok : visit.result = .ok l) (unbooted : visit.booted = none) : visit.boot = none := by
  cases h with
  | @backed _ _ _ _ _ _ outcome _ _ _ _ offers boots fine steps =>
    cases outcome with
    | none => rfl
    | some outcome =>
      obtain rfl : outcome = .ok () := fine
      cases unbooted
  | unbooted => cases ok
  | bare => rfl
  | failed => cases ok

/-- Resolutions that succeed and leave the cache as it was neither construct nor boot anything. -/
theorem Resolver.Trail.idle (h : Trail r w visits w') (cache : w'.cache = w.cache)
    (fine : ∀ visit ∈ visits, ∃ l, visit.result = .ok l) :
    ∀ visit ∈ visits, visit.constructed = none ∧ visit.boot = none := by
  have count := h.instantiations
  rw [cache, Nat.left_eq_add, List.length_eq_zero_iff, List.filterMap_eq_nil_iff] at count
  have marks := h.booted
  rw [cache, List.self_eq_append_left, List.reverse_eq_nil_iff, List.filterMap_eq_nil_iff] at marks
  intro visit mem
  obtain ⟨l, ok⟩ := fine visit mem
  obtain ⟨before, after, u, u', -, -, course, -⟩ := h.at_visit mem
  exact ⟨count visit mem, course.boot_of_ok ok (marks visit mem)⟩

/-- What was compiled compiles again after any jobs that clear nothing, whether or not they succeed.
The second time every resolution succeeds, nothing is constructed, no dependency is filled and
nothing is booted, the cache stays as it was, and the callable is the same one. -/
theorem Chain.compileAll_repeats {p : Processor ρ σ} {ds : List (Declaration ρ σ)} {owner : ρ}
    {direction : Direction} {made : Compiled ρ σ} (steady : p.resolver.SteadyFor owner owner)
    (compiled : Chain.compileAll p.resolver ds owner direction w = (.ok made, w'))
    (jobs : List (Job ρ σ)) (keeps : ∀ job ∈ jobs, ¬ job.Clears) :
    ∃ again v', Chain.compileAll p.resolver ds owner direction (jobs.foldl p.afterJob w') =
        (.ok again, v') ∧
      again.run = made.run ∧
      v'.cache = (jobs.foldl p.afterJob w').cache ∧
      p.resolver.Asks (jobs.foldl p.afterJob w').run v'.run ∧
      ∃ visits, Trail p.resolver (jobs.foldl p.afterJob w') visits v' ∧ ∀ visit ∈ visits,
        (∃ l, visit.result = .ok l) ∧ visit.constructed = none ∧ visit.boot = none := by
  obtain ⟨again, v', ran, same, idle⟩ :=
    Chain.compileAll_again steady (.refl direction owner) compiled (p.jobs_grow keeps w')
  obtain ⟨children, used, v₁, walk, -, rfl⟩ := Chain.compileAll_eq_ok.mp ran
  obtain ⟨visits, trail, fine, -⟩ := walk.trail
  exact ⟨again, _, ran, same, idle.cache, idle.asks, visits,
    trail.still ⟨rfl, rfl, rfl, Nat.le_succ _⟩,
    fun visit mem => ⟨fine visit mem, trail.idle idle.cache fine visit mem⟩⟩

/-- A type that is compiled again after a failure, and after its use with other arguments. -/
theorem Chain.compileAll_repeats_protected :
    let node : Transformer Scripted.Form Scripted.Desk :=
      { name := "Plain", apply := fun v _ _ => pure v }
    let p : Processor Scripted.Form Scripted.Desk :=
      { resolver.registry := some (Registry.add [] "Plain" fun _ => pure node) }
    let start : Workspace Scripted.Form Scripted.Desk := { run := { app := {} } }
    let ds : List (Declaration Scripted.Form Scripted.Desk) :=
      [.group (.failNextTo .null none none), .node { identity := .named "Plain" }]
    let jobs : List (Job Scripted.Form Scripted.Desk) :=
      [.resolve (.node { identity := .named "Nowhere" }) {},
        .compile [.node { identity := .named "Plain", callArgs := [.null] }] {} .outbound]
    ∃ made w' again v', Chain.compileAll p.resolver ds {} .inbound start = (.ok made, w') ∧
      Chain.compileAll p.resolver ds {} .inbound (jobs.foldl p.afterJob w') = (.ok again, v') ∧
      again.run = made.run ∧ v'.cache.listing = (jobs.foldl p.afterJob w').cache.listing := by
  intro node p start ds jobs
  obtain ⟨l, w₁, found⟩ : ∃ l w₁, p.resolver.resolve (.node { identity := .named "Plain" }) {}
      start = (.ok l, w₁) := ⟨_, _, rfl⟩
  have inside : Chain.Compiles p.resolver {} .inbound (.exactly 1) 0 []
      [.node { identity := .named "Plain" }] start [.leaf l] _ w₁ :=
    .node (by decide) found (.full 1 _ _ _)
  have walk : Chain.Compiles p.resolver {} .inbound .all 0 [] ds start
      [.fresh "FailNextTo" [.leaf l] (.recover .null none)] _ w₁ :=
    .active nofun rfl rfl inside rfl (.atEnd 1 _ _)
  have compiled := Chain.compileAll_eq_ok.mpr ⟨[_], _, w₁, walk, rfl, rfl⟩
  have keeps : ∀ job ∈ jobs, ¬ job.Clears := by simp [jobs, Job.Clears]
  obtain ⟨again, v', ran, same, cache, -⟩ :=
    Chain.compileAll_repeats (p := p) nofun compiled jobs keeps
  exact ⟨_, _, again, v', compiled, ran, same, congrArg Cache.listing cache⟩

end FieldPipeline
