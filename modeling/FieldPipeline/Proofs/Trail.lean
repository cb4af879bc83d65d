import FieldPipeline.Proofs.Booting
import FieldPipeline.Proofs.Plan

namespace FieldPipeline

open Outcome

variable {ρ σ ε α β : Type}

/-- Entries, boot marks and the counter stay as they are. Numbers may be issued. -/
structure Workspace.Quiet (w w' : Workspace ρ σ) : Prop where
  entries : w'.cache.entries = w.cache.entries
  booted : w'.cache.booted = w.cache.booted
  instantiations : w'.cache.instantiations = w.cache.instantiations
  issued : w.issued ≤ w'.issued

theorem Workspace.Quiet.refl (w : Workspace ρ σ) : w.Quiet w :=
  ⟨rfl, rfl, rfl, Nat.le_refl _⟩

theorem Cache.instance?_congr {c c' : Cache ρ σ} (entries : c'.entries = c.entries)
    (key : String) : c'.instance? key = c.instance? key := by
  rw [instance?, entry, entries]
  rfl

theorem Cache.step?_congr {c c' : Cache ρ σ} (entries : c'.entries = c.entries)
    (key argsKey : String) : c'.step? key argsKey = c.step? key argsKey := by
  rw [step?, entry, entries]
  rfl

theorem Workspace.Quiet.grows {w w' : Workspace ρ σ} (h : w.Quiet w') :
    w.cache.Grows w'.cache where
  instances found := by rw [Cache.instance?_congr h.entries, found]
  steps found := by rw [Cache.step?_congr h.entries, found]
  boots marked := by rw [Cache.isBooted, h.booted, ← Cache.isBooted, marked]

theorem Workspace.Quiet.numbered {w w' : Workspace ρ σ} (h : w.Quiet w') (held : w.Numbered) :
    w'.Numbered := by
  have more := held.issue w'.cache h.entries w'.run (w'.issued - w.issued)
  rwa [Nat.add_sub_cancel' h.issued] at more

theorem Workspace.quiet_keepPipeline (w : Workspace ρ σ) (key : String) (made : Compiled ρ σ) :
    w.Quiet { w with cache := (w.cache.keepPipeline key made).2 } :=
  ⟨rfl, rfl, rfl, Nat.le_refl _⟩

namespace Resolver

variable [Record ρ σ] {r : Resolver ρ σ} {owner : ρ} {w w' : Workspace ρ σ} {visit : Visit ρ σ}
  {visits : List (Visit ρ σ)}

/-- Resolutions one after the other, with whatever is quiet between them. -/
inductive Trail (r : Resolver ρ σ) :
    Workspace ρ σ → List (Visit ρ σ) → Workspace ρ σ → Prop
  | quiet {w w' : Workspace ρ σ} (still : w.Quiet w') : Trail r w [] w'
  | visit {visit : Visit ρ σ} {w w' : Workspace ρ σ}
      (ran : r.resolve visit.declaration visit.owner w = (visit.result, w'))
      (course : Course r w visit w') : Trail r w [visit] w'
  | append {before after : List (Visit ρ σ)} {w w' w'' : Workspace ρ σ}
      (first : Trail r w before w') (next : Trail r w' after w'') :
      Trail r w (before ++ after) w''

theorem Course.issued (h : Course r w visit w') : w.issued ≤ w'.issued := by
  have offered {request : Request ρ σ} {key : String} {i : Instance ρ σ} {owner : ρ}
      {constructed : Option (String × String)} {u : Workspace ρ σ}
      (offers : Offers r owner request w key i constructed u) : w.issued ≤ u.issued := by
    cases offers with
    | constructed | answered => exact Nat.le_succ _
    | given | cached | kept => exact Nat.le_refl _
  have booted {i : Instance ρ σ} {owner : ρ} {outcome : Option (Except Fault Unit)}
      {u u' : Workspace ρ σ} (boots : Boots i owner u outcome u') : u'.issued = u.issued := by
    cases boots <;> rfl
  have stepped {key argsKey : String} {s : Compiled ρ σ} {u u' : Workspace ρ σ}
      (steps : Steps key argsKey u s u') : u.issued ≤ u'.issued := by
    cases steps with
    | cached => exact Nat.le_refl _
    | compiled => exact Nat.le_succ _
  cases h with
  | backed className offers boots fine steps =>
    exact (offered offers).trans ((booted boots).ge.trans (stepped steps))
  | unbooted offers boots => exact (offered offers).trans (booted boots).ge
  | @bare _ _ _ _ _ _ state _ nothing unknown steps =>
    exact stepped (u := { w with run := state }) steps
  | failed => exact Nat.le_refl _

namespace Trail

theorem of_cache (cache : w'.cache = w.cache) (issued : w.issued ≤ w'.issued) :
    Trail r w [] w' :=
  .quiet ⟨by rw [cache], by rw [cache], by rw [cache], issued⟩

theorem refl (r : Resolver ρ σ) (w : Workspace ρ σ) : Trail r w [] w :=
  .quiet (.refl w)

theorem still {w'' : Workspace ρ σ} (h : Trail r w visits w') (later : w'.Quiet w'') :
    Trail r w visits w'' := by
  have whole := h.append (.quiet later)
  rwa [List.append_nil] at whole

theorem grows (h : Trail r w visits w') : w.cache.Grows w'.cache := by
  induction h with
  | quiet still => exact still.grows
  | visit ran course => exact ((r.lossless_resolve ..).after ran).grows
  | append first next ih ih' => exact ih.trans ih'

theorem numbered (h : Trail r w visits w') (held : w.Numbered) : w'.Numbered := by
  induction h with
  | quiet still => exact still.numbered held
  | visit ran course => exact course.numbered held
  | append first next ih ih' => exact ih' (ih held)

theorem issued (h : Trail r w visits w') : w.issued ≤ w'.issued := by
  induction h with
  | quiet still => exact still.issued
  | visit ran course => exact course.issued
  | append first next ih ih' => exact ih.trans ih'

/-- The counter counts the constructions. -/
theorem instantiations (h : Trail r w visits w') : w'.cache.instantiations =
    w.cache.instantiations + (visits.filterMap Visit.constructed).length := by
  induction h with
  | quiet still => exact still.instantiations
  | @visit visit w w' ran course =>
    rw [course.instantiations]
    cases constructed : visit.constructed <;> simp [constructed]
  | append first next ih ih' =>
    rw [ih', ih, List.filterMap_append, List.length_append, Nat.add_assoc]

/-- The marks are the boots that went well, the last one first. -/
theorem booted (h : Trail r w visits w') :
    w'.cache.booted = (visits.filterMap Visit.booted).reverse ++ w.cache.booted := by
  induction h with
  | quiet still => exact still.booted
  | @visit visit w w' ran course =>
    rw [course.booted]
    cases booted : visit.booted <;> simp [booted]
  | append first next ih ih' =>
    rw [ih', ih, List.filterMap_append, List.reverse_append, List.append_assoc]

/-- A trail is cut at each of its resolutions. -/
theorem at_visit (h : Trail r w visits w') (mem : visit ∈ visits) :
    ∃ before after u u', Trail r w before u ∧
      r.resolve visit.declaration visit.owner u = (visit.result, u') ∧ Course r u visit u' ∧
      Trail r u' after w' := by
  induction h with
  | quiet still => cases mem
  | visit ran course =>
    obtain rfl := List.mem_singleton.mp mem
    exact ⟨[], [], _, _, .refl r _, ran, course, .refl r _⟩
  | append first next ih ih' =>
    rcases List.mem_append.mp mem with mem | mem
    · obtain ⟨before, after, u, u', earlier, ran, course, later⟩ := ih mem
      exact ⟨before, _, u, u', earlier, ran, course, later.append next⟩
    · obtain ⟨before, after, u, u', earlier, ran, course, later⟩ := ih' mem
      exact ⟨_, after, u, u', first.append earlier, ran, course, later⟩

/-- A resolution that succeeds. -/
theorem of_ok {d : Declaration ρ σ} {l : Leaf ρ σ} (ran : r.resolve d owner w = (.ok l, w')) :
    ∃ visit, Trail r w [visit] w' ∧ visit.result = .ok l := by
  obtain ⟨visit, u, declared, owned, course, found⟩ := r.exists_course d owner w
  obtain ⟨same, rfl⟩ := Prod.mk.inj (ran.symm.trans found)
  refine ⟨visit, .visit ?_ course, same.symm⟩
  rw [declared, owned, found]

end Trail

/-- A step that leaves a trail of resolutions with the property `P`, however it ends. -/
structure LeavesTrail (r : Resolver ρ σ) (P : Visit ρ σ → Prop)
    (step : Workspace ρ σ → α × Workspace ρ σ) : Prop where
  trail : ∀ w, ∃ visits, Trail r w visits (step w).2 ∧ ∀ visit ∈ visits, P visit

/-- What a declaration asks for has the property `P`, if it is resolved for `owner`. -/
def RequestsMeet (owner : ρ) (P : Visit ρ σ → Prop) (d : Declaration ρ σ) : Prop :=
  ∀ visit : Visit ρ σ, visit.owner = owner → visit.declaration ∈ d.requests → P visit

namespace LeavesTrail

variable {P : Visit ρ σ → Prop}

theorem of_quiet {step : Workspace ρ σ → α × Workspace ρ σ}
    (still : ∀ w : Workspace ρ σ, w.Quiet (step w).2) :
    LeavesTrail r P step :=
  ⟨fun w => ⟨[], .quiet (still w), List.forall_mem_nil P⟩⟩

theorem pure (a : α) : LeavesTrail r P (Pure.pure a : ExceptT ε (StateM (Workspace ρ σ)) α) :=
  of_quiet fun w => .refl w

theorem throw (e : ε) : LeavesTrail r P (throw e : ExceptT ε (StateM (Workspace ρ σ)) α) :=
  of_quiet fun w => .refl w

theorem bind {x : ExceptT ε (StateM (Workspace ρ σ)) α}
    {f : α → ExceptT ε (StateM (Workspace ρ σ)) β} (hx : LeavesTrail r P x)
    (hf : ∀ a, LeavesTrail r P (f a)) : LeavesTrail r P (x >>= f) := by
  refine ⟨fun w => ?_⟩
  obtain ⟨visits, first, known⟩ := hx.trail w
  rw [bind_run]
  rcases ran : x w with ⟨fault | a, w₁⟩
  · rw [ran] at first
    exact ⟨visits, first, known⟩
  · rw [ran] at first
    obtain ⟨visits', next, known'⟩ := (hf a).trail w₁
    exact ⟨_, first.append next, List.forall_mem_append.mpr ⟨known, known'⟩⟩

theorem resolve {d : Declaration ρ σ}
    (wanted : ∀ visit : Visit ρ σ, visit.owner = owner → visit.declaration = d → P visit) :
    LeavesTrail r P (r.resolve d owner) := by
  refine ⟨fun w => ?_⟩
  obtain ⟨visit, w', declared, owned, course, ran⟩ := r.exists_course d owner w
  refine ⟨[visit], .visit ?_ ?_, List.forall_mem_singleton.mpr (wanted visit owned declared)⟩
  · rw [declared, owned, ran]
  · rw [ran]
    exact course

end LeavesTrail

end Resolver

/-- A site that a resolution yielded, if sites like it are resolved. -/
def Site.Found (visits : List (Visit ρ σ)) : Site ρ σ → Prop
  | leaf l _ => ∃ visit ∈ visits, visit.result = .ok l
  | predicate run _ => ∃ visit ∈ visits, ∃ l : Leaf ρ σ, visit.result = .ok l ∧ l.step.run = run
  | handler .. | refusal .. => True

/-- A tree made of what resolutions yielded. -/
def Node.Found (visits : List (Visit ρ σ)) (node : Node ρ σ) : Prop :=
  ∀ site, node.MayAsk site → site.Found visits

theorem Node.Found.mono {visits visits' : List (Visit ρ σ)} {node : Node ρ σ}
    (h : node.Found visits) (more : visits ⊆ visits') : node.Found visits' := by
  intro site asked
  have found := h site asked
  cases site with
  | leaf | predicate =>
    obtain ⟨visit, mem, yielded⟩ := found
    exact ⟨visit, more mem, yielded⟩
  | handler | refusal => trivial

theorem Node.found_fresh {name : String} {children : List (Node ρ σ)} {strategy : Strategy ρ σ}
    {visits : List (Visit ρ σ)} (inner : ∀ child ∈ children, child.Found visits)
    (own : ∀ run negate otherwise, strategy = .conditional run negate otherwise →
      ∃ visit ∈ visits, ∃ l : Leaf ρ σ, visit.result = .ok l ∧ l.step.run = run) :
    (Node.fresh name children strategy).Found visits := by
  intro site asked
  rcases Node.mayAsk_fresh.mp asked with asks | ⟨child, mem, asked⟩
  · cases asks with
    | predicate v => exact own _ _ _ rfl
    | _ => trivial
  · exact inner child mem site asked

namespace Chain

variable {r : Resolver ρ σ} {owner : ρ}

section Compile

variable [Record ρ σ] {P : Visit ρ σ → Prop}

theorem leavesTrail_located {b : Build ρ σ α} (h : r.LeavesTrail P b) (position : Nat) :
    r.LeavesTrail P (located position b) :=
  ⟨h.trail⟩

theorem leavesTrail_refuse (position : Nat) (defect : Option Misconfiguration) :
    r.LeavesTrail P (refuse position defect : Compiling ρ σ Unit) := by
  cases defect with
  | none => exact .pure ()
  | some m => exact leavesTrail_located (.throw _) position

theorem leavesTrail_recoverLast (fallback : Arg) (handler : Option (Handler ρ σ))
    (done : List (Node ρ σ)) : r.LeavesTrail P (recoverLast fallback handler done) := by
  cases done with
  | nil => exact .throw _
  | cons last before => exact .pure _

theorem leavesTrail_consume {D : Declaration ρ σ → Prop} {take : Take} {label : String}
    {bound : Nat}
    {visit : α → Declaration ρ σ → Nat → (rest : List (Declaration ρ σ)) → rest.length < bound →
      Compiling ρ σ (α × Bool × Nat)}
    (visited : ∀ made d position rest short, (∀ e ∈ d :: rest, D e) →
      r.LeavesTrail P (visit made d position rest short)) {k : Nat}
    {taken position : Nat} {found : List String} {made : α} {ds : List (Declaration ρ σ)}
    (hk : ds.length < k) (fits : ds.length ≤ bound) (wanted : ∀ d ∈ ds, D d) :
    r.LeavesTrail P (consume take label bound visit taken found made position ds fits) := by
  induction k generalizing taken found made position ds with
  | zero => exact absurd hk (Nat.not_lt_zero _)
  | succ k ih =>
    by_cases full : take = .exactly taken
    · rw [consume_full fits full]
      exact .pure _
    cases ds with
    | nil =>
      cases take with
      | all =>
        rw [consume_atEnd]
        exact .pure _
      | exactly expected =>
        rw [consume_short fits (by simpa using full)]
        exact .throw _
    | cons d rest =>
      rw [consume_cons fits full]
      refine .bind (visited _ _ _ _ _ wanted) fun seen => .bind (ih ?_ _ fun e he => ?_) fun tail =>
        .pure _
      · simp only [List.length_cons] at hk
        rw [List.length_drop]
        omega
      · exact wanted e (List.mem_cons_of_mem _ (List.mem_of_mem_drop he))

theorem leavesTrail_join {g : Grouping ρ σ} (wanted : Resolver.RequestsMeet owner P (.group g))
    (children : List (Node ρ σ)) : r.LeavesTrail P (join r owner g children) := by
  cases g with
  | when condition negate count otherwise =>
    refine .bind (.resolve fun visit owned declared => ?_) fun predicate => .pure _
    exact wanted visit owned (List.mem_singleton.mpr declared)
  | collect shape => cases shape <;> exact .pure _
  | _ => exact .pure _

mutual

theorem leavesTrail_compileChildren (direction : Direction) (take : Take) (label : String)
    (position : Nat) {ds : List (Declaration ρ σ)}
    (wanted : ∀ d ∈ ds, Resolver.RequestsMeet owner P d) :
    r.LeavesTrail P (compileChildren r owner direction take label position ds) := by
  rw [compileChildren]
  refine .bind (leavesTrail_consume ?_ (Nat.lt_succ_self _) _ wanted) fun out => .pure _
  intro done d position rest short wanted
  rw [List.forall_mem_cons] at wanted
  cases d with
  | failTo fallback handler =>
    refine .bind (leavesTrail_refuse ..) fun _ => .bind ?_ fun nodes => .pure _
    exact leavesTrail_located (leavesTrail_recoverLast fallback handler done) _
  | group g =>
    exact .bind (leavesTrail_compileGroup direction position wanted.1 wanted.2) fun out => .pure _
  | node request =>
    refine .bind (leavesTrail_located (.resolve fun visit owned declared => ?_) _) fun l => .pure _
    exact wanted.1 visit owned (List.mem_singleton.mpr declared)
termination_by (ds.length, 0)

theorem leavesTrail_compileGroup (direction : Direction) {g : Grouping ρ σ} (position : Nat)
    {ds : List (Declaration ρ σ)} (own : Resolver.RequestsMeet owner P (.group g))
    (wanted : ∀ d ∈ ds, Resolver.RequestsMeet owner P d) :
    r.LeavesTrail P (compileGroup r owner direction g position ds) := by
  rw [compileGroup]
  split
  · exact .bind (.of_quiet fun w => .refl w) fun _ => .pure _
  · refine .bind (leavesTrail_refuse ..) fun _ => ?_
    refine .bind (leavesTrail_compileChildren direction g.take g.name position wanted) fun out => ?_
    exact .bind (leavesTrail_located (leavesTrail_join own out.1) _) fun node => .pure _
termination_by (ds.length, 1)

end

theorem compile_snd (r : Resolver ρ σ) (q : Queue ρ σ) (owner : ρ) (direction : Direction)
    (take : Take) (w : Workspace ρ σ) : (compile r q owner direction take w).2 =
      (compileChildren r owner direction take "chain" q.position q.rest w).2 := by
  rw [compile, state_bind_run, ExceptT.run]
  rcases compileChildren r owner direction take "chain" q.position q.rest w with ⟨_ | _, t⟩ <;> rfl

/-- However compilation ends, it has resolved what its declarations ask for, and nothing else. -/
theorem leavesTrail_compileAll {ds : List (Declaration ρ σ)} (direction : Direction)
    (wanted : ∀ d ∈ ds, Resolver.RequestsMeet owner P d) :
    r.LeavesTrail P (compileAll r ds owner direction) := by
  refine .bind ⟨fun w => ?_⟩ fun out => .bind (.of_quiet fun w => .refl w) fun node =>
    .bind (.of_quiet fun w => ⟨rfl, rfl, rfl, Nat.le_succ _⟩) fun n => .pure _
  have walked := (leavesTrail_compileChildren (r := r) direction .all "chain" 0 wanted).trail w
  have ran : (compile r ⟨ds, 0⟩ owner direction .all w).2 =
      (compileChildren r owner direction .all "chain" 0 ds w).2 :=
    compile_snd r ⟨ds, 0⟩ owner direction .all w
  rw [← ran] at walked
  exact walked

/-- A group is joined as it is, or its condition is resolved for it. -/
theorem join_cases {g : Grouping ρ σ} {children : List (Node ρ σ)} {node : Node ρ σ}
    {w w' : Workspace ρ σ} (h : join r owner g children w = (.ok node, w')) :
    (∃ name strategy, node = .fresh name children strategy ∧
      (∀ run negate otherwise, strategy ≠ .conditional run negate otherwise) ∧ w' = w) ∨
    ∃ condition negate count otherwise l, g = .when condition negate count otherwise ∧
      r.resolve condition owner w = (.ok l, w') ∧
      node = .fresh ("When(" ++ l.name ++ ")") children
        (.conditional l.step.run negate (otherwise.map Arg.toValue)) := by
  cases g with
  | when condition negate count otherwise =>
    obtain ⟨l, u, ran, e⟩ := bind_eq_ok.mp h
    cases e
    exact .inr ⟨condition, negate, count, otherwise, l, rfl, ran, rfl⟩
  | collect shape =>
    cases shape <;>
    · cases h
      exact .inl ⟨_, _, rfl, nofun, rfl⟩
  | _ =>
    cases h
    exact .inl ⟨_, _, rfl, nofun, rfl⟩

/-- What a successful walk resolves, all of which succeeds, is what it puts into the tree. -/
theorem Compiles.trail {direction : Direction} {take : Take} {taken used : Nat}
    {ds : List (Declaration ρ σ)} {done done' : List (Node ρ σ)} {w w' : Workspace ρ σ}
    (h : Compiles r owner direction take taken done ds w done' used w') :
    ∃ visits, r.Trail w visits w' ∧ (∀ visit ∈ visits, ∃ l, visit.result = .ok l) ∧
      ∀ earlier, (∀ node ∈ done, node.Found earlier) →
        ∀ node ∈ done', node.Found (earlier ++ visits) := by
  have more {nodes : List (Node ρ σ)} {earlier : List (Visit ρ σ)}
      (known : ∀ node ∈ nodes, node.Found earlier) (visits : List (Visit ρ σ)) :
      ∀ node ∈ nodes, node.Found (earlier ++ visits) :=
    fun node mem => (known node mem).mono (List.subset_append_left ..)
  induction h with
  | full n done ds w => exact ⟨[], .refl r w, List.forall_mem_nil _, fun _ known => more known []⟩
  | atEnd taken done w => exact ⟨[], .refl r w, List.forall_mem_nil _, fun _ known => more known []⟩
  | node open_ ran after ih =>
    obtain ⟨visit, one, yielded⟩ := Resolver.Trail.of_ok ran
    obtain ⟨visits, trail, fine, found⟩ := ih
    refine ⟨visit :: visits, one.append trail, List.forall_mem_cons.mpr ⟨⟨_, yielded⟩, fine⟩, ?_⟩
    intro earlier known
    rw [List.append_cons]
    refine found _ (List.forall_mem_cons.mpr ⟨?_, more known _⟩)
    intro site asked
    obtain ⟨v, rfl⟩ := Node.mayAsk_leaf.mp asked
    exact ⟨visit, List.mem_append_right _ (List.mem_singleton_self _), yielded⟩
  | failTo open_ handled after ih =>
    obtain ⟨visits, trail, fine, found⟩ := ih
    refine ⟨visits, trail, fine, fun earlier known => found earlier ?_⟩
    obtain ⟨last, others⟩ := List.forall_mem_cons.mp known
    exact List.forall_mem_cons.mpr
      ⟨Node.found_fresh (List.forall_mem_singleton.mpr last) nofun, others⟩
  | inactive open_ switched body after ih =>
    obtain ⟨visits, trail, fine, found⟩ := ih
    refine ⟨visits, trail, fine, fun earlier known => found earlier ?_⟩
    exact List.forall_mem_cons.mpr ⟨Node.found_fresh (List.forall_mem_nil _) nofun, known⟩
  | active open_ switched opened body joined after ihb iha =>
    obtain ⟨inside, first, fine, inner⟩ := ihb
    obtain ⟨visits, next, fine', found⟩ := iha
    obtain ⟨name, strategy, rfl, bare, rfl⟩ |
        ⟨condition, negate, count, otherwise, l, rfl, ran, rfl⟩ := join_cases joined
    · refine ⟨_, first.append next, List.forall_mem_append.mpr ⟨fine, fine'⟩, ?_⟩
      intro earlier known
      rw [← List.append_assoc]
      refine found _ (List.forall_mem_cons.mpr ⟨?_, more known _⟩)
      exact Node.found_fresh
        (fun node mem => (inner [] (List.forall_mem_nil _) node (List.mem_reverse.mp mem)).mono
          (List.subset_append_right ..))
        fun _ _ _ e => absurd e (bare _ _ _)
    · obtain ⟨visit, one, yielded⟩ := Resolver.Trail.of_ok ran
      refine ⟨_, (first.append one).append next, List.forall_mem_append.mpr
        ⟨List.forall_mem_append.mpr ⟨fine, List.forall_mem_singleton.mpr ⟨l, yielded⟩⟩, fine'⟩, ?_⟩
      intro earlier known
      rw [← List.append_assoc, ← List.append_assoc]
      refine found _ (List.forall_mem_cons.mpr ⟨Node.found_fresh ?_ ?_, ?_⟩)
      · intro node mem
        refine (inner [] (List.forall_mem_nil _) node (List.mem_reverse.mp mem)).mono ?_
        exact fun visit mem => List.mem_append_left _ (List.mem_append_right _ mem)
      · rintro _ _ _ ⟨⟩
        exact ⟨visit, List.mem_append_right _ (List.mem_singleton_self _), l, yielded, rfl⟩
      · exact more (more known _) _

end Compile

end Chain

end FieldPipeline
