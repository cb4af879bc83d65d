import FieldPipeline.Proofs.Jobs

namespace FieldPipeline

open Outcome Resolver

variable {ρ σ : Type}

/-- An entry has the instance `id`. -/
def Cache.HeldAt (c : Cache ρ σ) (id : InstanceId) (key : String) : Prop :=
  ∃ i, c.instance? key = some i ∧ i.id = id

variable [Record ρ σ]

/-- A marked instance is not booted along a trail. -/
theorem Resolver.Trail.unbooted {r : Resolver ρ σ} {w w' : Workspace ρ σ} {id : InstanceId}
    {visits : List (Visit ρ σ)} (h : Trail r w visits w') (marked : w.cache.isBooted id = true) :
    ∀ visit ∈ visits, visit.booted ≠ some id ∧
      ∀ key i, visit.reached = some (key, i) → i.id = id → visit.boot = none := by
  intro visit mem
  obtain ⟨before, after, u, u', earlier, -, course, -⟩ := h.at_visit mem
  have there := earlier.grows.boots marked
  refine ⟨fun again => course.booted_new again (of_decide_eq_true there), ?_⟩
  rintro key i reached rfl
  obtain ⟨t, t', same, boots, -⟩ := course.boots reached
  rw [Cache.isBooted, ← same, ← Cache.isBooted] at there
  exact boots.none_iff.mpr there

namespace Processor

variable {p : Processor ρ σ} {w : Workspace ρ σ} {id : InstanceId}

/-- A job that does not clear everything leaves the mark of an instance that is held afterwards, if
no two entries have the instance when the key of one is cleared. -/
theorem afterJob_marked {job : Job ρ σ} (partial_ : job ≠ .call .clear)
    (marked : w.cache.isBooted id = true) (held : ∃ key, (p.afterJob w job).cache.HeldAt id key)
    (alone : ∀ key, job = .call (.clearKey key) → w.cache.HeldAt id key →
      ∀ key', w.cache.HeldAt id key' → key' = key) :
    (p.afterJob w job).cache.isBooted id = true := by
  by_cases keeps : job.Clears
  · cases job with
    | resolve | compile => exact keeps.elim
    | call c =>
      cases c with
      | clear => exact absurd rfl partial_
      | clearKey key =>
        refine (Cache.isBooted_drop ..).mpr ⟨marked, fun i there same => ?_⟩
        obtain ⟨key', j, left, same'⟩ := held
        change (w.cache.drop key).2.instance? key' = some j at left
        obtain ⟨other, found⟩ := Cache.instance?_drop_eq_some.mp left
        exact other (alone key rfl ⟨i, there, same⟩ key' ⟨j, found, same'⟩)
      | pipeline | process | other => exact keeps.elim
  · obtain ⟨visits, led, -⟩ := p.exists_trail keeps w
    exact led.grows.boots marked

/-- An instance that was booted stays marked, and is not booted again, for as long as an entry has
it and not everything is cleared. A ready-made instance must be in no other entry when the key of
one is cleared; for a constructed instance that is always so. -/
theorem clearKey_keeps_marks {start : Workspace ρ σ} (fresh : start.cache = {})
    (before after : List (Job ρ σ)) {visit : Visit ρ σ}
    (resolved : p.afterJob (before.foldl p.afterJob start)
      (.resolve visit.declaration visit.owner) = w)
    (course : Course p.resolver (before.foldl p.afterJob start) visit w)
    (booted : visit.booted = some id) (partial_ : .call .clear ∉ after)
    (held : ∀ done rest, after = done ++ rest →
      ∃ key, (done.foldl p.afterJob w).cache.HeldAt id key)
    (alone : ∀ label, id = .given label → ∀ done key rest,
      after = done ++ .call (.clearKey key) :: rest →
      (done.foldl p.afterJob w).cache.HeldAt id key →
      ∀ key', (done.foldl p.afterJob w).cache.HeldAt id key' → key' = key) :
    (∀ done rest, after = done ++ rest → (done.foldl p.afterJob w).cache.isBooted id = true) ∧
    ∀ done job rest visits, after = done ++ job :: rest →
      Trail p.resolver (done.foldl p.afterJob w) visits
        (p.afterJob (done.foldl p.afterJob w) job) →
      ∀ again ∈ visits, again.booted ≠ some id ∧
        ∀ key i, again.reached = some (key, i) → i.id = id → again.boot = none := by
  have orderly : w.Orderly := by
    rw [← resolved]
    exact ((Workspace.Orderly.empty fresh).jobs before).jobs (p := p)
      [.resolve visit.declaration visit.owner]
  have marked (done rest : List (Job ρ σ)) (split : after = done ++ rest) :
      (done.foldl p.afterJob w).cache.isBooted id = true := by
    induction done using List.reverseRecOn generalizing rest with
    | nil =>
      refine decide_eq_true ?_
      rw [List.foldl_nil, course.booted, booted]
      exact List.mem_cons_self
    | append_singleton done job ih =>
      have here := held (done ++ [job]) rest split
      rw [List.append_assoc, List.singleton_append] at split
      rw [List.foldl_concat] at here ⊢
      refine afterJob_marked ?_ (ih _ split) here ?_
      · rintro rfl
        exact partial_ (by simp [split])
      rintro key rfl first key' second
      cases identity : id with
      | given label => exact alone label identity done key rest split first key' second
      | made n =>
        -- The number of a constructed instance is in one entry only.
        obtain ⟨i, there, same⟩ := first
        obtain ⟨i', there', same'⟩ := second
        exact (orderly.jobs done).numbered.instance_key there' there (same'.trans identity)
          (same.trans identity)
  exact ⟨marked, fun done job rest visits split trail =>
    trail.unbooted (marked done (job :: rest) split)⟩

/-- The key of another name is cleared, and the name that was resolved is resolved again. -/
theorem clearKey_keeps_marks_apart :
    let node : Transformer Scripted.Form Scripted.Desk :=
      { name := "Kept", apply := fun v _ _ => pure v }
    let p : Processor Scripted.Form Scripted.Desk :=
      { resolver.fallback := some fun name _ _ => pure (some (.kept name node)) }
    let start : Workspace Scripted.Form Scripted.Desk := { run := { app := {} } }
    let jobs : List (Job Scripted.Form Scripted.Desk) :=
      [.resolve (.node { identity := .named "B" }) {}, .call (.clearKey (fallbackKey "B" none)),
        .resolve (.node { identity := .named "A" }) {}]
    let w := p.afterJob start (.resolve (.node { identity := .named "A" }) {})
    (jobs.foldl p.afterJob w).cache.isBooted (.given "A") = true := by
  intro node p start jobs w
  let entry (n : Nat) (name : String) : CacheEntry Scripted.Form Scripted.Desk :=
    { backing := some ⟨.given name, node⟩
      steps := [("[]", ⟨n, Callable.asNode name fun v scope => node.apply v [] scope⟩)] }
  let w₁ : Workspace Scripted.Form Scripted.Desk :=
    { cache := { entries := [("fallback:A|-", entry 0 "A")], booted := [.given "A"] }
      run := { app := {} }, issued := 1 }
  let w₂ : Workspace Scripted.Form Scripted.Desk :=
    { cache := { entries := [("fallback:A|-", entry 0 "A"), ("fallback:B|-", entry 1 "B")]
                 booted := [.given "B", .given "A"] }
      run := { app := {} }, issued := 2 }
  have first : w = w₁ := rfl
  have second : p.afterJob w₁ (.resolve (.node { identity := .named "B" }) {}) = w₂ := rfl
  have third : p.afterJob w₂ (.call (.clearKey (fallbackKey "B" none))) = { w₁ with issued := 2 } :=
    rfl
  have fourth : p.afterJob { w₁ with issued := 2 }
      (.resolve (.node { identity := .named "A" }) {}) = { w₁ with issued := 2 } := rfl
  obtain ⟨visit, u, declared, owned, course, ran⟩ :=
    p.resolver.exists_course (.node { identity := .named "A" }) {} start
  obtain rfl : w₁ = u := congrArg Prod.snd ran
  have booted : visit.booted = some (.given "A") :=
    Option.toList_eq_singleton_iff.mp (by simpa [w₁, start] using course.booted.symm)
  have resolved : p.afterJob ([].foldl p.afterJob start)
      (.resolve visit.declaration visit.owner) = w₁ := by
    rw [declared, owned]
    rfl
  have held : ∀ done ∈ jobs.inits,
      (done.foldl p.afterJob w₁).cache.HeldAt (.given "A") "fallback:A|-" := by
    simp only [jobs, List.inits, List.map_cons, List.map_nil, List.forall_mem_cons, List.foldl_nil,
      List.foldl_cons, second, third, fourth]
    exact ⟨⟨_, rfl, rfl⟩, ⟨_, rfl, rfl⟩, ⟨_, rfl, rfl⟩, ⟨_, rfl, rfl⟩, List.forall_mem_nil _⟩
  rw [first]
  refine (clearKey_keeps_marks rfl [] jobs resolved course booted (by simp [jobs]) ?_ ?_).1
    jobs [] (List.append_nil _).symm
  · intro done rest split
    exact ⟨_, held done ((List.mem_inits ..).mpr ⟨rest, split.symm⟩)⟩
  -- The key that is cleared is that of the other name, which has another node.
  · rintro label - done key rest split ⟨i, there, same⟩
    rcases done with _ | ⟨one, _ | ⟨two, _ | ⟨three, _ | ⟨four, done⟩⟩⟩⟩ <;>
      simp [jobs] at split
    obtain ⟨rfl, rfl, rfl⟩ := split
    rw [List.foldl_cons, List.foldl_nil, second] at there
    cases there
    exact absurd same (by decide)

/-- The last resort hands back one node for two names. When the key of one of them is cleared, the
node loses its mark and is booted again, although the entry of the other has it all the time. -/
theorem clearKey_forgets_shared :
    let node : Transformer Scripted.Form Scripted.Desk :=
      { name := "Shared", apply := fun v _ _ => pure v }
    let p : Processor Scripted.Form Scripted.Desk :=
      { resolver.fallback := some fun _ _ _ => pure (some (.kept "s" node)) }
    let start : Workspace Scripted.Form Scripted.Desk := { run := { app := {} } }
    let a : Declaration Scripted.Form Scripted.Desk := .node { identity := .named "A" }
    let b : Declaration Scripted.Form Scripted.Desk := .node { identity := .named "B" }
    let after : List (Job Scripted.Form Scripted.Desk) :=
      [.resolve b {}, .call (.clearKey (fallbackKey "A" none))]
    let w := p.afterJob start (.resolve a {})
    ∃ first again, Course p.resolver start first w ∧ first.booted = some (.given "s") ∧
      (∀ done rest, after = done ++ rest →
        ∃ key, (done.foldl p.afterJob w).cache.HeldAt (.given "s") key) ∧
      (after.foldl p.afterJob w).cache.isBooted (.given "s") = false ∧
      Course p.resolver (after.foldl p.afterJob w) again
        (p.afterJob (after.foldl p.afterJob w) (.resolve b {})) ∧
      again.booted = some (.given "s") := by
  intro node p start a b after w
  let entry (n : Nat) (name : String) : CacheEntry Scripted.Form Scripted.Desk :=
    { backing := some ⟨.given "s", node⟩
      steps := [("[]", ⟨n, Callable.asNode name fun v scope => node.apply v [] scope⟩)] }
  let w₁ : Workspace Scripted.Form Scripted.Desk :=
    { cache := { entries := [("fallback:A|-", entry 0 "A")], booted := [.given "s"] }
      run := { app := {} }, issued := 1 }
  let w₂ : Workspace Scripted.Form Scripted.Desk :=
    { cache := { entries := [("fallback:A|-", entry 0 "A"), ("fallback:B|-", entry 1 "B")]
                 booted := [.given "s"] }
      run := { app := {} }, issued := 2 }
  let w₃ : Workspace Scripted.Form Scripted.Desk :=
    { cache := { entries := [("fallback:B|-", entry 1 "B")] }, run := { app := {} }, issued := 2 }
  have one : w = w₁ := rfl
  have two : p.afterJob w₁ (.resolve b {}) = w₂ := rfl
  have three : p.afterJob w₂ (.call (.clearKey (fallbackKey "A" none))) = w₃ := rfl
  have held : ∀ done ∈ after.inits,
      ∃ key, (done.foldl p.afterJob w₁).cache.HeldAt (.given "s") key := by
    simp only [after, List.inits, List.map_cons, List.map_nil, List.forall_mem_cons, List.foldl_nil,
      List.foldl_cons, two, three]
    exact ⟨⟨"fallback:A|-", _, rfl, rfl⟩, ⟨"fallback:A|-", _, rfl, rfl⟩,
      ⟨"fallback:B|-", _, rfl, rfl⟩, List.forall_mem_nil _⟩
  have last : after.foldl p.afterJob w₁ = w₃ := by
    rw [List.foldl_cons, two, List.foldl_cons, three, List.foldl_nil]
  rw [one, last]
  obtain ⟨first, u, -, -, course, ran⟩ := p.resolver.exists_course a {} start
  obtain ⟨again, u', -, -, course', ran'⟩ := p.resolver.exists_course b {} w₃
  obtain rfl : p.afterJob start (.resolve a {}) = u := congrArg Prod.snd ran
  obtain rfl : p.afterJob w₃ (.resolve b {}) = u' := congrArg Prod.snd ran'
  have marked : (p.afterJob w₃ (.resolve b {})).cache.booted = [.given "s"] := rfl
  have marked' : (p.afterJob start (.resolve a {})).cache.booted = [.given "s"] := rfl
  refine ⟨first, again, course, ?_, fun done rest split => ?_, rfl, course', ?_⟩
  · exact Option.toList_eq_singleton_iff.mp (by simpa [start, marked'] using course.booted.symm)
  · exact held done ((List.mem_inits ..).mpr ⟨rest, split.symm⟩)
  · exact Option.toList_eq_singleton_iff.mp (by simpa [w₃, marked] using course'.booted.symm)

end Processor

end FieldPipeline
