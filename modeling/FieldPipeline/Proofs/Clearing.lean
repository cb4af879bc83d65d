import FieldPipeline.Proofs.Backing

namespace FieldPipeline

open Outcome Resolver

variable {ρ σ : Type}

/-- The number `n` was issued, and no entry has the instance with it. -/
structure Workspace.Gone (n : Nat) (w : Workspace ρ σ) : Prop where
  issued : n < w.issued
  absent : ∀ key i, w.cache.instance? key = some i → i.id ≠ .made n

variable [Record ρ σ] {r : Resolver ρ σ} {p : Processor ρ σ} {w w' start : Workspace ρ σ} {n : Nat}

namespace Resolver

variable {visit : Visit ρ σ} {visits : List (Visit ρ σ)}

theorem Offers.not_gone {owner : ρ} {request : Request ρ σ} {key : String} {i : Instance ρ σ}
    {constructed : Option (String × String)} (h : Offers r owner request w key i constructed w')
    (gone : w.Gone n) : i.id ≠ .made n := by
  cases h with
  | given | kept => nofun
  | cached identity type there => exact gone.absent _ _ there
  | constructed | answered =>
    rintro ⟨⟩
    exact gone.issued.false

theorem Trail.gone (h : Trail r w visits w') (gone : w.Gone n) : w'.Gone n := by
  induction h with
  | quiet still =>
    refine ⟨gone.issued.trans_le still.issued, fun key i found => ?_⟩
    rw [Cache.instance?_congr still.entries] at found
    exact gone.absent key i found
  | visit ran course =>
    refine ⟨gone.issued.trans_le course.issued, fun key i found => ?_⟩
    obtain there | ⟨request, constructed, u, -, offers⟩ := course.instance?_cases found
    · exact gone.absent key i there
    · exact offers.not_gone gone
  | append first next ih ih' => exact ih' (ih gone)

/-- No resolution comes to an instance that is gone. -/
theorem Trail.avoids (h : Trail r w visits w') (gone : w.Gone n) (mem : visit ∈ visits)
    {key : String} {i : Instance ρ σ} (reached : visit.reached = some (key, i)) :
    i.id ≠ .made n := by
  obtain ⟨before, after, u, u', earlier, ran, course, -⟩ := h.at_visit mem
  exact ((Trail.visit ran course).gone (earlier.gone gone)).absent key i (course.stored reached)

theorem Course.offered {request : Request ρ σ} {key : String} {i : Instance ρ σ}
    {constructed : Option (String × String)} {u : Workspace ρ σ} (h : Course r w visit w')
    (declared : visit.declaration = .node request)
    (offers : Offers r visit.owner request w key i constructed u) :
    visit.constructed = constructed ∧ visit.reached = some (key, (u.store key i).1) := by
  cases h with
  | backed className offers' | unbooted offers' =>
    cases declared
    obtain ⟨rfl, rfl, rfl, rfl⟩ := offers'.unique offers
    exact ⟨rfl, rfl⟩
  | bare nothing =>
    cases declared
    exact absurd offers (nothing _ _ _ _)
  | failed nothing => exact absurd offers (nothing _ declared _ _ _ _)

/-- An instance that appears in an entry for a type was constructed on the way, with a new
number. -/
theorem Trail.constructs {name : String} {args : Option (List Arg)} {j : Instance ρ σ}
    (h : Trail r w visits w') (new : w.cache.instance? (typeKey name args) = none)
    (found : w'.cache.instance? (typeKey name args) = some j) :
    (∃ m, j.id = .made m ∧ w.issued ≤ m) ∧ ∃ visit ∈ visits, ∃ type,
      visit.constructed = some type ∧ visit.reached = some (typeKey name args, j) := by
  induction h with
  | quiet still =>
    rw [Cache.instance?_congr still.entries, new] at found
    cases found
  | @visit visit w w' ran course =>
    obtain there | ⟨request, constructed, u, declared, offers⟩ := course.instance?_cases found
    · cases new.symm.trans there
    · obtain ⟨same, reached⟩ := course.offered declared offers
      have stored := found.symm.trans (course.stored reached)
      rw [← Option.some.inj stored] at reached
      generalize place : typeKey name args = key at offers
      cases offers with
      | given => exact (typeKey_ne_instanceKey _ _ _ _ place).elim
      | cached identity type there =>
        rw [place] at new
        cases new.symm.trans there
      | constructed =>
        exact ⟨⟨_, rfl, Nat.le_refl _⟩, visit, List.mem_singleton_self _, _, same, place ▸ reached⟩
      | answered | kept => exact (typeKey_ne_fallbackKey _ _ _ _ place).elim
  | @append before after w u w' first next ih ih' =>
    cases there : u.cache.instance? (typeKey name args) with
    | none =>
      obtain ⟨⟨m, made, late⟩, visit, mem, constructed⟩ := ih' there found
      exact ⟨⟨m, made, first.issued.trans late⟩, visit, List.mem_append_right _ mem, constructed⟩
    | some i =>
      obtain rfl : i = j := Option.some.inj ((next.grows.instances there).symm.trans found)
      obtain ⟨number, visit, mem, constructed⟩ := ih new there
      exact ⟨number, visit, List.mem_append_left _ mem, constructed⟩

/-- A leaf has a new instance for an entry, which was constructed and booted on the way. -/
def Renewed (w : Workspace ρ σ) (visits : List (Visit ρ σ)) (w' : Workspace ρ σ) (key : String)
    (l : Leaf ρ σ) : Prop :=
  ∃ j m, l.backing = some j ∧ w'.cache.instance? key = some j ∧ j.id = .made m ∧ w.issued ≤ m ∧
    (∃ first ∈ visits, ∃ type, first.constructed = some type ∧ first.reached = some (key, j)) ∧
    ∃ booting ∈ visits, booting.booted = some j.id

theorem Trail.renewed {name : String} {args : Option (List Arg)} {l : Leaf ρ σ}
    {j : Instance ρ σ} (h : Trail r w visits w') (orderly : w.Orderly)
    (new : w.cache.instance? (typeKey name args) = none) (mem : visit ∈ visits)
    (yielded : visit.result = .ok l) (backing : l.backing = some j)
    (found : w'.cache.instance? (typeKey name args) = some j) :
    Renewed w visits w' (typeKey name args) l := by
  obtain ⟨⟨m, made, late⟩, constructed⟩ := h.constructs new found
  obtain ⟨before, after, u, u', -, -, course, later⟩ := h.at_visit mem
  have marked := later.grows.boots (course.leaf_marked yielded backing)
  rw [Cache.isBooted, h.booted, decide_eq_true_iff, List.mem_append, List.mem_reverse,
    List.mem_filterMap] at marked
  refine ⟨j, m, backing, found, made, late, constructed, marked.resolve_right fun old => ?_⟩
  exact (orderly.marked m (decide_eq_true (made ▸ old))).not_ge late

/-- What is resolved for a type whose entry is gone has a new instance. -/
theorem Trail.renews {name : String} {args : Option (List Arg)} {request : Request ρ σ}
    {l : Leaf ρ σ} (h : Trail r w visits w') (orderly : w.Orderly)
    (new : w.cache.instance? (typeKey name args) = none) (mem : visit ∈ visits)
    (declared : visit.declaration = .node request)
    (keyed : HasInstanceKey r request (typeKey name args))
    (yielded : visit.result = .ok l) : Renewed w visits w' (typeKey name args) l := by
  obtain ⟨before, after, u, u', -, -, course, later⟩ := h.at_visit mem
  obtain ⟨j, reached, own⟩ := course.reached_key declared keyed (.inr ⟨l, yielded⟩)
  exact h.renewed orderly new mem yielded (own l yielded)
    (later.grows.instances (course.stored reached))

end Resolver

/-- A callable that runs the code of a source in a cache, and not that of the instance `id`. -/
def Callable.Spares (r : Resolver ρ σ) (c : Cache ρ σ) (id : InstanceId) (run : Callable ρ σ) :
    Prop :=
  ∃ (source : Source ρ σ) (args : List Arg), source.Stands r (fun _ => True) c ∧
    (∀ i, source.backing = some i → i.id ≠ id) ∧ run = (source.body args).asNode source.name

/-- A site that has nothing to do with the instance `id`. -/
def Site.Spares (r : Resolver ρ σ) (c : Cache ρ σ) (id : InstanceId) : Site ρ σ → Prop
  | leaf l _ => (∀ i, l.backing = some i → i.id ≠ id) ∧ l.step.run.Spares r c id
  | predicate run _ => run.Spares r c id
  | handler .. | refusal .. => True

theorem Site.Stands.spares {site : Site ρ σ} (h : site.Stands r (fun _ => True) w.cache)
    (gone : w.Gone n) : site.Spares r w.cache (.made n) := by
  have spared {source : Source ρ σ} (stands : source.Stands r (fun _ => True) w.cache)
      (i : Instance ρ σ) (backing : source.backing = some i) : i.id ≠ .made n :=
    gone.absent _ i (stands.held backing)
  have run {key : String} {run : Callable ρ σ} (h : run.StandsAt r (fun _ => True) w.cache key) :
      run.Spares r w.cache (.made n) := by
    obtain ⟨source, args, stands, -, same⟩ := h
    exact ⟨source, args, stands, spared stands, same⟩
  cases site with
  | leaf l v =>
    obtain ⟨source, stands, -, backing, step⟩ := h
    exact ⟨fun i own => spared stands i (backing.symm.trans own), run step⟩
  | predicate body v =>
    obtain ⟨key, step⟩ := h
    exact run step
  | handler | refusal => trivial

namespace Processor

theorem gone_jobs (h : w.Gone n) (jobs : List (Job ρ σ)) : (jobs.foldl p.afterJob w).Gone n := by
  refine p.jobs_keep (fun led gone => led.gone gone) (fun w key gone => ⟨gone.issued, ?_⟩)
    (fun w gone => ⟨gone.issued, nofun⟩) jobs h
  intro k i found
  exact gone.absent k i (Cache.instance?_drop_eq_some.mp found).2

end Processor

/-- The entry `key` is cleared, or everything is. -/
def Job.Drops (job : Job ρ σ) (key : String) : Prop :=
  job = .call .clear ∨ job = .call (.clearKey key)

section Drops

variable {job : Job ρ σ} {key : String}

theorem Job.Drops.absent (h : job.Drops key) : (p.afterJob w job).cache.instance? key = none := by
  obtain rfl | rfl := h
  · rfl
  · change (w.cache.drop key).2.instance? key = none
    simp

theorem Job.Drops.gone {i : Instance ρ σ} (h : job.Drops key) (orderly : w.Orderly)
    (there : w.cache.instance? key = some i) (made : i.id = .made n) :
    (p.afterJob w job).Gone n := by
  have issued := orderly.numbered.instances there made
  obtain rfl | rfl := h
  · exact ⟨issued, nofun⟩
  · refine ⟨issued, fun k j found same => ?_⟩
    obtain ⟨other, before⟩ := Cache.instance?_drop_eq_some.mp found
    exact other (orderly.numbered.instance_key before there same made)

end Drops

namespace Processor

/-- A run over the fields of a record comes to a pipeline. -/
def ReachesPipeline (p : Processor ρ σ) (record : ρ) (direction : Direction) (v w : Workspace ρ σ)
    (made : Compiled ρ σ) (w' : Workspace ρ σ) : Prop :=
  ∃ d current, p.Reaches (Record.context record) direction
      (p.metadata.fields (Record.typeName record) direction) record v d current w ∧
    p.pipeline current d direction w = (.ok made, w')

/-- Clearing a key without an entry does nothing. -/
theorem clearKey_absent {key : String} (absent : (w.cache.drop key).1 = false) :
    p.afterJob w (.call (.clearKey key)) = w := by
  rw [Cache.drop_fst] at absent
  rw [afterJob, afterCall, Cache.drop_absent absent]

/-- What had the entry of a type when that was cleared is in no entry, whatever is done
afterwards. -/
theorem cleared_gone {u : Workspace ρ σ} {job : Job ρ σ} {name : String}
    {args : Option (List Arg)} {i : Instance ρ σ} (orderly : u.Orderly)
    (cleared : job.Drops (typeKey name args)) (after : List (Job ρ σ))
    (held : u.cache.instance? (typeKey name args) = some i) :
    ∃ n, i.id = .made n ∧ (after.foldl p.afterJob (p.afterJob u job)).Gone n := by
  obtain ⟨n, made⟩ := orderly.typed name args i held
  exact ⟨n, made, gone_jobs (cleared.gone orderly held made) after⟩

/-- A pipeline has nothing to do with instances that were gone before, and what it has in the entry
of a type that was empty is new. -/
theorem ReachesPipeline.renewed {v : Workspace ρ σ} {record : ρ} {direction : Direction}
    {made : Compiled ρ σ} (h : p.ReachesPipeline record direction v w made w')
    (backed : v.cache.Backed p.resolver fun _ => True) (orderly : v.Orderly) (name : String)
    (args : Option (List Arg)) :
    ∃ (root : Node ρ σ) (visits : List (Visit ρ σ)), root.Built ∧ made.run = root.compile ∧
      Trail p.resolver w visits w' ∧
      (∀ n, v.Gone n → ∀ site, root.MayAsk site → site.Spares p.resolver w'.cache (.made n)) ∧
      (w.cache.instance? (typeKey name args) = none → ∀ l value j, root.MayAsk (.leaf l value) →
        l.backing = some j → w'.cache.instance? (typeKey name args) = some j →
        Renewed w visits w' (typeKey name args) l) := by
  obtain ⟨d, current, reached, piped⟩ := h
  obtain ⟨earlier, before⟩ := reached.trail
  obtain ⟨root, visits, built, same, stands, trail, found⟩ :=
    pipeline_stands (K := fun _ => True) (reached.backed (fun _ _ _ _ _ _ => trivial) backed)
      (fun _ _ _ _ => trivial) piped
  refine ⟨root, visits, built, same, trail, ?_, ?_⟩
  · intro n gone site asked
    exact (stands site asked).spares (trail.gone (before.gone gone))
  · intro new l value j asked backing held
    obtain rfl | found := found
    · cases new.symm.trans held
    · obtain ⟨visit, mem, yielded⟩ := found _ asked
      exact trail.renewed (orderly.trail before) new mem yielded backing held

/-- What a job resolves for a type whose entry is gone is new. -/
theorem afterJob_renews {v : Workspace ρ σ} {later : Job ρ σ} (orderly : v.Orderly)
    (keeps : ¬ later.Clears) {name : String} {args : Option (List Arg)}
    (new : v.cache.instance? (typeKey name args) = none) :
    ∃ visits, Trail p.resolver v visits (p.afterJob v later) ∧
      (∀ visit ∈ visits, p.Needs later visit.declaration) ∧
      (p.afterJob v later).cache.instantiations =
        v.cache.instantiations + (visits.filterMap Visit.constructed).length ∧
      ∀ visit ∈ visits, ∀ request l, visit.declaration = .node request →
        HasInstanceKey p.resolver request (typeKey name args) → visit.result = .ok l →
        Renewed v visits (p.afterJob v later) (typeKey name args) l := by
  obtain ⟨visits, trail, needed⟩ := p.exists_trail keeps v
  exact ⟨visits, trail, needed, trail.instantiations, fun visit mem request l declared keyed ok =>
    trail.renews orderly new mem declared keyed ok⟩

/-- However the processor was used before and is used afterwards, an instance whose key was cleared
is in no entry any more and no resolution comes to it: no pipeline that a run over a record comes to
has a node with it or code of it. What is next resolved for its type and arguments has a new
instance, which was constructed, counted and booted. Clearing a key without an entry does
nothing. -/
theorem cleared_never_runs {u v : Workspace ρ σ} (fresh : start.cache = {})
    {before after : List (Job ρ σ)} {job : Job ρ σ} {name : String} {args : Option (List Arg)}
    (there : before.foldl p.afterJob start = u) (cleared : job.Drops (typeKey name args))
    (now : after.foldl p.afterJob (p.afterJob u job) = v) :
    (∀ i, u.cache.instance? (typeKey name args) = some i →
      (u.cache.drop (typeKey name args)).1 = true ∧ (∃ n, i.id = .made n) ∧
      (∀ key j, v.cache.instance? key = some j → j.id ≠ i.id) ∧
      ∀ later visits, Trail p.resolver v visits (p.afterJob v later) →
        ∀ visit ∈ visits, ∀ key j, visit.reached = some (key, j) → j.id ≠ i.id) ∧
    (p.afterJob u job).cache.instance? (typeKey name args) = none ∧
    (∀ record direction w made w', p.ReachesPipeline record direction v w made w' →
      ∃ (root : Node ρ σ) (visits : List (Visit ρ σ)), root.Built ∧ made.run = root.compile ∧
        Trail p.resolver w visits w' ∧
        w'.cache.instantiations =
          w.cache.instantiations + (visits.filterMap Visit.constructed).length ∧
        (∀ i, u.cache.instance? (typeKey name args) = some i →
          ∀ site, root.MayAsk site → site.Spares p.resolver w'.cache i.id) ∧
        (w.cache.instance? (typeKey name args) = none → ∀ l value j, root.MayAsk (.leaf l value) →
          l.backing = some j → w'.cache.instance? (typeKey name args) = some j →
          Renewed w visits w' (typeKey name args) l)) ∧
    (v.cache.instance? (typeKey name args) = none → ∀ later, ¬ later.Clears →
      ∃ visits, Trail p.resolver v visits (p.afterJob v later) ∧
        (∀ visit ∈ visits, p.Needs later visit.declaration) ∧
        (p.afterJob v later).cache.instantiations =
          v.cache.instantiations + (visits.filterMap Visit.constructed).length ∧
        ∀ visit ∈ visits, ∀ request l, visit.declaration = .node request →
          HasInstanceKey p.resolver request (typeKey name args) → visit.result = .ok l →
          Renewed v visits (p.afterJob v later) (typeKey name args) l) ∧
    ∀ (w : Workspace ρ σ) key, (w.cache.drop key).1 = false →
      p.afterJob w (.call (.clearKey key)) = w := by
  have orderly : u.Orderly := there ▸ (Workspace.Orderly.empty fresh).jobs before
  have ordered : v.Orderly := now ▸ orderly.jobs (p := p) (job :: after)
  have backed : v.cache.Backed p.resolver (fun _ => True) := by
    have whole : ((before ++ job :: after).foldl p.afterJob start).cache.Backed p.resolver
        (fun _ => True) := jobs_backed (fun _ _ _ _ => trivial) (.of_empty fresh)
    rwa [List.foldl_append, there, List.foldl_cons, now] at whole
  have gone (i : Instance ρ σ) (held : u.cache.instance? (typeKey name args) = some i) :
      ∃ n, i.id = .made n ∧ v.Gone n := now ▸ cleared_gone orderly cleared after held
  refine ⟨?held, cleared.absent, ?pipeline, ?renewed, fun w key => clearKey_absent⟩
  case held =>
    intro i held
    obtain ⟨n, made, away⟩ := gone i held
    rw [made]
    refine ⟨(Cache.drop_fst ..).trans (Cache.contains_of_instance? held), ⟨n, rfl⟩, away.absent, ?_⟩
    intro later visits trail visit mem key j
    exact trail.avoids away mem
  case pipeline =>
    intro record direction w made w' reached
    obtain ⟨root, visits, built, same, trail, spares, renewed⟩ :=
      reached.renewed backed ordered name args
    refine ⟨root, visits, built, same, trail, trail.instantiations, ?_, renewed⟩
    intro i held
    obtain ⟨n, own, away⟩ := gone i held
    rw [own]
    exact spares n away
  case renewed => exact fun new later keeps => afterJob_renews ordered keeps new

/-- Nodes of a type answer with how many there were before them. A record is processed twice, the
second time with the memoized pipeline; then the key of the type is cleared, and the record is
processed with a new node. -/
theorem cleared_never_runs_counted :
    let node (n : Nat) : Transformer Scripted.Form Scripted.Desk :=
      { name := "Plain", apply := fun _ _ _ => pure (.number (.int n)) }
    let construct : Constructor Scripted.Form Scripted.Desk := fun _ s =>
      (.ok (node s.app.nodes), { s with app := { s.app with nodes := s.app.nodes + 1 } })
    let p : Processor Scripted.Form Scripted.Desk :=
      { resolver.registry := some (Registry.add [] "Plain" construct)
        metadata := [(("Doc", .inbound), [⟨"n", [.node { identity := .named "Plain" }]⟩])] }
    let form : Scripted.Form := { fields := [("n", .null)], filled := ["n"] }
    let holds (n : Nat) : Except Fault Report × Scripted.Form :=
      (.ok { processed := ["n"] }, form.set "n" (.number (.int n)))
    let process : Job Scripted.Form Scripted.Desk := .call (.process form .inbound)
    let clear : Job Scripted.Form Scripted.Desk := .call (.clearKey (typeKey "Plain" none))
    let start : Workspace Scripted.Form Scripted.Desk := { run := { app := {} } }
    let u := p.afterJob start process
    let v := p.afterJob (p.afterJob u clear) process
    (p.process form .inbound start).1 = holds 0 ∧ p.process form .inbound u = (holds 0, u) ∧
    (p.process form .inbound (p.afterJob u clear)).1 = holds 1 ∧
    p.process form .inbound v = (holds 1, v) ∧
    ∃ i j, u.cache.instance? (typeKey "Plain" none) = some i ∧
      v.cache.instance? (typeKey "Plain" none) = some j ∧ v.cache.instantiations = 2 ∧
      j.id ≠ i.id ∧ ∃ made, p.ReachesPipeline form .inbound v v made v ∧ ∃ root : Node _ _,
        made.run = root.compile ∧
        ∀ site, root.MayAsk site → site.Spares p.resolver v.cache i.id := by
  intro node construct p form holds process clear start u v
  let request : Request Scripted.Form Scripted.Desk := { identity := .named "Plain" }
  let field : FieldDeclarations Scripted.Form Scripted.Desk := ⟨"n", [.node request]⟩
  let key := pipelineKey form "n" .inbound
  -- The entry and the pipeline of the `n`th node, which has the number `m`.
  let step (m n : Nat) : Compiled Scripted.Form Scripted.Desk :=
    ⟨m + 1, Callable.asNode "Plain" fun v scope => (node n).apply v [] scope⟩
  let entry (m n : Nat) : CacheEntry Scripted.Form Scripted.Desk :=
    { backing := some ⟨.made m, node n⟩, steps := [("[]", step m n)] }
  let leaf (m n : Nat) : Leaf Scripted.Form Scripted.Desk :=
    { step := step m n, backing := some ⟨.made m, node n⟩, className := "Plain" }
  let chain (m n : Nat) : Compiled Scripted.Form Scripted.Desk :=
    ⟨m + 2, (Node.fresh "Chain" [.leaf (leaf m n)] .pipe).compile⟩
  let made (m n : Nat) : Workspace Scripted.Form Scripted.Desk :=
    { cache := { entries := [("type:Plain|-", entry m n)], pipelines := [(key, chain m n)]
                 booted := [.made m], instantiations := n + 1 }
      run := { app := { nodes := n + 1 } }, issued := m + 3 }
  let bare (m n : Nat) : Workspace Scripted.Form Scripted.Desk :=
    { cache := { instantiations := n }, run := { app := { nodes := n } }, issued := m }
  have piped (m n : Nat) : p.pipeline form field .inbound (bare m n) =
      (.ok (chain m n), made m n) := by
    have resolved : p.resolver.resolve (.node request) form (bare m n) =
        (.ok (leaf m n), { cache := { entries := [("type:Plain|-", entry m n)]
                                      booted := [.made m], instantiations := n + 1 }
                           run := { app := { nodes := n + 1 } }, issued := m + 2 }) := rfl
    have walk : Chain.Compiles p.resolver form .inbound .all 0 [] [.node request] (bare m n)
        [.leaf (leaf m n)] _ _ :=
      .node nofun resolved (.atEnd 1 _ _)
    exact pipeline_compiled (f := field) rfl
      (Chain.compileAll_eq_ok.mpr ⟨[_], _, _, walk, rfl, rfl⟩)
  have again (m n : Nat) : p.pipeline form field .inbound (made m n) =
      (.ok (chain m n), made m n) :=
    pipeline_of_some (if_pos rfl)
  have runs {m n : Nat} {w : Workspace Scripted.Form Scripted.Desk}
      (found : p.pipeline form field .inbound w = (.ok (chain m n), made m n)) :
      p.process form .inbound w = (holds n, made m n) := by
    have handled : p.Handles .null .inbound field form w (.processed (.number (.int n)))
        (Record.set form "n" (.number (.int n))) (made m n) :=
      .processed rfl found rfl
    exact handled.processFields_cons [] {}
  have first : u = made 0 0 := congrArg Prod.snd (runs (piped 0 0))
  have cleared : p.afterJob u clear = bare 3 1 := by
    rw [first]
    rfl
  have second : v = made 3 1 := by
    change p.afterJob (p.afterJob u clear) process = _
    rw [cleared]
    exact congrArg Prod.snd (runs (piped 3 1))
  have held : u.cache.instance? (typeKey "Plain" none) = some ⟨.made 0, node 0⟩ := by
    rw [first]
    rfl
  have renewed : v.cache.instance? (typeKey "Plain" none) = some ⟨.made 3, node 1⟩ := by
    rw [second]
    rfl
  have fresh : start.cache = {} := rfl
  have there : [process].foldl p.afterJob start = u := rfl
  have dropped : clear.Drops (typeKey "Plain" none) := .inr rfl
  have now : [process].foldl p.afterJob (p.afterJob u clear) = v := rfl
  have never := cleared_never_runs fresh there dropped now
  have comes : p.ReachesPipeline form .inbound v v (chain 3 1) v := by
    refine ⟨field, form, ⟨[], [], {}, rfl, rfl⟩, ?_⟩
    rw [second]
    exact again 3 1
  obtain ⟨root, -, -, same, -, -, spares, -⟩ := never.2.2.1 form .inbound v _ v comes
  refine ⟨congrArg Prod.fst (runs (piped 0 0)), ?_, ?_, ?_, _, _, held, renewed, ?_,
    (never.1 _ held).2.2.1 _ _ renewed, _, comes, root, same, spares _ held⟩
  · rw [first]
    exact runs (again 0 0)
  · rw [cleared]
    exact congrArg Prod.fst (runs (piped 3 1))
  · rw [second]
    exact runs (again 3 1)
  · rw [second]

end Processor

end FieldPipeline
