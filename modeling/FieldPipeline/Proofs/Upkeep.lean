import FieldPipeline.Proofs.Walk

namespace FieldPipeline

open Outcome

variable {ρ σ ε α β : Type}

/-- Whatever its arguments are, a transformer is code with the property `P`. -/
def Transformer.Does (P : Callable ρ σ → Prop) (t : Transformer ρ σ) : Prop :=
  ∀ args, P fun v scope => t.apply v args scope

def Fallback.Does (P : Callable ρ σ → Prop) : Fallback ρ σ → Prop
  | node t | kept _ t => t.Does P
  | callable run => ∀ args, P fun v scope => run v args scope

/-- The condition of a conditional group, if this is one, has the property `P`. -/
def Strategy.Does (P : Callable ρ σ → Prop) : Strategy ρ σ → Prop
  | conditional predicate .. => P predicate
  | _ => True

/-- The leaf that a declaration asks for, or the condition of a group. -/
def Declaration.requests : Declaration ρ σ → List (Declaration ρ σ)
  | node request => [.node request]
  | group (.when condition ..) => [condition]
  | _ => []

namespace Resolver

variable [Record ρ σ]

/-- What a name may stand for has the property `P`: a node of a registered type, a record method,
and what the last resort hands back. -/
structure SuppliesName (r : Resolver ρ σ) (owner : ρ) (P : Callable ρ σ → Prop) (name : String)
    (request : Request ρ σ) : Prop where
  registered : ∀ registry, r.registry = some registry → ∀ requires build,
    Table.get? name registry = some (.buildable requires build) →
    ∀ s t s', build (request.constructorArgs.getD []) s = (.ok t, s') → t.Does P
  method : ∀ arity, Record.arity? owner (methodName name) = some arity →
    ∀ args, P (callMethod (methodName name) arity args)
  fallback : ∀ resolve, r.fallback = some resolve → ∀ s answer s',
    resolve name request owner s = (some answer, s') → answer.Does P

/-- What a declaration may resolve to has the property `P`. -/
def Supplies (r : Resolver ρ σ) (owner : ρ) (P : Callable ρ σ → Prop) : Declaration ρ σ → Prop
  | .node request =>
    match request.identity with
    | .given _ t => t.Does P
    | .named name => r.SuppliesName owner P name request
  | _ => True

/-- The keys of the cache entries that a declaration may resolve to. -/
def keysOf (owner : ρ) : Declaration ρ σ → List String
  | .node request =>
    match request.identity with
    | .given label t => [instanceKey t.name (.given label)]
    | .named name =>
      [typeKey name request.constructorArgs,
        methodKey (Record.typeName owner) (methodName name),
        fallbackKey name request.constructorArgs]
  | _ => []

end Resolver

/-- An invariant of the cache, with the properties of what goes into the cache and comes out of
it. -/
structure Upkeep (ρ σ : Type) where
  holds : Cache ρ σ → Prop
  /-- The entries that are concerned. -/
  uses : String → Prop
  code : Callable ρ σ → Prop
  /-- Code that runs as a node. -/
  step : Callable ρ σ → Prop
  tree : Node ρ σ → Prop
  instances : ∀ {c key i}, holds c → uses key → c.instance? key = some i → i.node.Does code
  steps : ∀ {c key argsKey s}, holds c → uses key → c.step? key argsKey = some s → step s.run
  keepInstance : ∀ {c key i}, holds c → uses key → i.node.Does code →
    holds (c.keepInstance key i).2
  keepStep : ∀ {c key argsKey s}, holds c → uses key → step s.run →
    holds (c.keepStep key argsKey s).2
  noteBooted : ∀ {c id}, holds c → holds (c.noteBooted id)
  countInstantiation : ∀ {c}, holds c → holds c.countInstantiation
  asNode : ∀ {name body}, code body → step (body.asNode name)
  leaf : ∀ {l}, step l.step.run → tree (.leaf l)
  fresh : ∀ {name children strategy}, (∀ child ∈ children, tree child) → strategy.Does step →
    tree (.fresh name children strategy)

/-- A step that keeps an invariant, however it ends, and whose values satisfy `Q`. -/
structure Upkeep.Keeps (u : Upkeep ρ σ) (Q : α → Prop)
    (step : ExceptT ε (StateM (Workspace ρ σ)) α) : Prop where
  after : ∀ {w}, u.holds w.cache →
    u.holds (step w).2.cache ∧ ∀ a, (step w).1 = .ok a → Q a

namespace Upkeep.Keeps

variable {u : Upkeep ρ σ} {Q : α → Prop} {R : β → Prop}

theorem bind {x : ExceptT ε (StateM (Workspace ρ σ)) α}
    {f : α → ExceptT ε (StateM (Workspace ρ σ)) β} (hx : u.Keeps Q x)
    (hf : ∀ a, Q a → u.Keeps R (f a)) : u.Keeps R (x >>= f) := by
  refine ⟨fun {w} held => ?_⟩
  obtain ⟨held₁, value⟩ := hx.after held
  rw [bind_run]
  rcases ran : x w with ⟨fault | a, w₁⟩
  · rw [ran] at held₁
    exact ⟨held₁, nofun⟩
  · rw [ran] at held₁ value
    exact (hf a (value a rfl)).after held₁

theorem pure {a : α} (h : Q a) :
    u.Keeps Q (Pure.pure a : ExceptT ε (StateM (Workspace ρ σ)) α) := by
  refine ⟨fun held => ⟨held, ?_⟩⟩
  rintro _ ⟨⟩
  exact h

theorem throw (e : ε) :
    u.Keeps Q (throw e : ExceptT ε (StateM (Workspace ρ σ)) α) :=
  ⟨fun held => ⟨held, nofun⟩⟩

theorem misconfigured (m : Misconfiguration) :
    u.Keeps Q (Build.misconfigured m : Build ρ σ α) :=
  throw _

theorem ofAct {body : Act σ α} (h : ∀ s a, (body s).1 = .ok a → Q a) :
    u.Keeps Q (Build.ofAct body : Build ρ σ α) :=
  ⟨fun {w} held => ⟨held, h w.run⟩⟩

theorem act (body : Act σ α) : u.Keeps (fun _ => True) (Build.ofAct body : Build ρ σ α) :=
  ofAct fun _ _ _ => trivial

theorem cache : u.Keeps u.holds (Build.cache : Build ρ σ (Cache ρ σ)) := by
  refine ⟨fun held => ⟨held, ?_⟩⟩
  rintro _ ⟨⟩
  exact held

theorem issue : u.Keeps (fun _ => True) (Build.issue : Build ρ σ Nat) :=
  ⟨fun held => ⟨held, fun _ _ => trivial⟩⟩

theorem onCache {change : Cache ρ σ → α × Cache ρ σ}
    (h : ∀ c, u.holds c → u.holds (change c).2 ∧ Q (change c).1) :
    u.Keeps Q (Build.onCache change) := by
  refine ⟨fun {w} held => ⟨(h w.cache held).1, ?_⟩⟩
  rintro _ ⟨⟩
  exact (h w.cache held).2

end Upkeep.Keeps

/-- What was found, under a key that is concerned, is supplied code. -/
def Resolution.Does [Record ρ σ] (u : Upkeep ρ σ) : Resolution ρ σ → Prop
  | node key backing _ => u.uses key ∧ backing.node.Does u.code
  | method key name arity _ => u.uses key ∧ ∀ args, u.code (Resolver.callMethod name arity args)
  | raw key run _ => u.uses key ∧ ∀ args, u.code fun v scope => run v args scope
  | unresolved => True

namespace Resolver

variable {u : Upkeep ρ σ}

theorem keeps_ensureBooted (id : InstanceId) (boot : Act σ Unit) :
    u.Keeps (fun _ => True) (ensureBooted id boot : Build ρ σ Bool) := by
  refine .bind .cache fun c _ => ?_
  split
  · exact .pure trivial
  · refine .bind (.act boot) fun _ _ => ?_
    exact .bind (.onCache fun c held => ⟨u.noteBooted held, trivial⟩) fun _ (_ : True) =>
      .pure trivial

theorem keeps_boot (i : Instance ρ σ) (owner : ρ) : u.Keeps (fun _ => True) (boot i owner) :=
  .bind (keeps_ensureBooted _ _) fun _ _ => .pure trivial

theorem keeps_keep {key : String} (used : u.uses key) {i : Instance ρ σ}
    (hi : i.node.Does u.code) (owner : ρ) :
    u.Keeps (·.node.Does u.code) (keep key i owner) := by
  refine .bind (.onCache fun c held => ⟨u.keepInstance held used hi, ?_⟩) fun kept hk =>
    .bind (keeps_boot kept owner) fun _ _ => .pure hk
  change ((c.instance? key).getD i).node.Does u.code
  cases there : c.instance? key with
  | none => exact hi
  | some j => exact u.instances held used there

theorem keeps_step {key : String} (used : u.uses key) {run : Callable ρ σ} (h : u.code run)
    (args : List Arg) (name : String) :
    u.Keeps (fun s => u.step s.run) (step key args name run) := by
  refine .bind .cache fun c held => ?_
  split
  · next s there => exact .pure (u.steps held used there)
  · refine .bind .issue fun n _ => .onCache fun c held => ⟨u.keepStep held used (u.asNode h), ?_⟩
    change u.step ((c.step? key (Arg.key args)).getD ⟨n, run.asNode name⟩).run
    cases there : c.step? key (Arg.key args) with
    | none => exact u.asNode h
    | some s => exact u.steps held used there

theorem keeps_populate (r : Resolver ρ σ) (typeName : String) (node : Transformer ρ σ)
    (slots : List DependencySlot) :
    u.Keeps (fun _ => True) (r.populate typeName node slots) := by
  induction slots with
  | nil => exact .pure trivial
  | cons slot rest ih =>
    unfold populate
    split
    · exact .misconfigured _
    · exact .misconfigured _
    · split
      · exact .misconfigured _
      · exact .bind (.act _) fun _ _ => ih

section Instantiate

variable {registry : Registry ρ σ} {name : String} {args : Option (List Arg)}
  (supplied : ∀ requires build, Table.get? name registry = some (.buildable requires build) →
    ∀ s t s', build (args.getD []) s = (.ok t, s') → t.Does u.code)

include supplied

theorem keeps_construct :
    u.Keeps (·.Does u.code) (Build.ofAct (registry.instantiate name args) : Build ρ σ _) := by
  refine .ofAct fun s t made => ?_
  unfold Registry.instantiate at made
  cases there : Table.get? name registry with
  | none =>
    rw [there] at made
    cases made
  | some type =>
    rw [there] at made
    cases type with
    | foreign => cases made
    | buildable requires build =>
      unfold Registry.construct at made
      dsimp only at made
      rcases built : build (args.getD []) s with ⟨cause | node, s₁⟩
      · rw [built] at made
        cases made
      · rw [built] at made
        cases made
        exact supplied requires build there s t s₁ built

theorem keeps_instantiate (r : Resolver ρ σ) :
    u.Keeps (·.node.Does u.code) (r.instantiate registry name args) := by
  refine .bind (keeps_construct supplied) fun node made => .bind (keeps_populate ..) fun _ _ => ?_
  exact .bind (.onCache fun c held => ⟨u.countInstantiation held, trivial⟩) fun _ (_ : True) =>
    .bind .issue fun _ _ => .pure made

end Instantiate

variable [Record ρ σ] {r : Resolver ρ σ} {owner : ρ}

section Name

variable {name : String} {request : Request ρ σ}
  (supplied : r.SuppliesName owner u.code name request)

include supplied

theorem keeps_findType (used : u.uses (typeKey name request.constructorArgs)) :
    u.Keeps (fun found => ∀ one, found = some one → one.Does u)
      (r.findType name request owner) := by
  unfold findType
  split
  · exact .pure nofun
  next registry known =>
  split
  · exact .pure nofun
  split
  · exact .misconfigured _
  refine .bind .cache fun c held => ?_
  split
  · next i there =>
    refine .bind (keeps_boot _ _) fun _ _ => .pure ?_
    rintro one ⟨⟩
    exact ⟨used, u.instances held used there⟩
  split
  · exact .misconfigured _
  · refine .bind (keeps_instantiate (supplied.registered registry known) r) fun i hi => ?_
    refine .bind (keeps_keep used hi owner) fun kept hk => .pure ?_
    rintro one ⟨⟩
    exact ⟨used, hk⟩

theorem keeps_askFallback (used : u.uses (fallbackKey name request.constructorArgs)) :
    u.Keeps (fun found => ∀ one, found = some one → one.Does u)
      (r.askFallback name request owner) := by
  unfold askFallback
  split
  · exact .pure nofun
  next resolve given =>
  have asked : u.Keeps (fun answer => ∀ one, answer = some one → one.Does u.code)
      (Build.ofAct (liftM (resolve name request owner)) : Build ρ σ _) := by
    refine .ofAct fun s answer ran one he => ?_
    cases he
    exact supplied.fallback resolve given s one _ (Prod.ext (Except.ok.inj ran) rfl)
  refine .bind asked fun answer ha => ?_
  split
  · exact .pure nofun
  · next t =>
    refine .bind .issue fun n _ => ?_
    refine .bind (keeps_keep (i := ⟨.made n, t⟩) used (ha _ rfl) owner) fun kept hk => .pure ?_
    rintro one ⟨⟩
    exact ⟨used, hk⟩
  · next label t =>
    refine .bind (keeps_keep (i := ⟨.given label, t⟩) used (ha _ rfl) owner) fun kept hk =>
      .pure ?_
    rintro one ⟨⟩
    exact ⟨used, hk⟩
  · next run =>
    refine .pure ?_
    rintro one ⟨⟩
    exact ⟨used, ha _ rfl⟩

end Name

section Declared

variable {d : Declaration ρ σ} (supplied : r.Supplies owner u.code d)
  (used : ∀ key ∈ keysOf owner d, u.uses key)

include supplied used

theorem keeps_locate : u.Keeps (·.Does u) (r.locate d owner) := by
  unfold locate
  split
  · exact .misconfigured _
  · exact .misconfigured _
  split
  · next label node identity =>
    simp only [Supplies, identity] at supplied
    simp only [keysOf, identity, List.forall_mem_singleton] at used
    exact .bind (keeps_keep used supplied owner) fun kept hk => .pure ⟨used, hk⟩
  · next name identity =>
    simp only [Supplies, identity] at supplied
    simp only [keysOf, identity, List.forall_mem_cons] at used
    obtain ⟨type, method, last, -⟩ := used
    refine .bind (keeps_findType supplied type) fun found hf => ?_
    split
    · exact .pure (hf _ rfl)
    split
    · next found =>
      refine .pure ?_
      unfold findMethod at found
      obtain ⟨arity, there, rfl⟩ := Option.map_eq_some_iff.mp found
      exact ⟨method, supplied.method arity there⟩
    refine .bind (keeps_askFallback supplied last) fun found hf => ?_
    split
    · exact .pure (hf _ rfl)
    · exact .pure trivial

omit supplied used in
theorem keeps_leaf {found : Resolution ρ σ} (h : found.Does u) (name : String)
    (args : List Arg) (owner : ρ) :
    u.Keeps (fun l => u.step l.step.run) (r.leaf found name args owner) := by
  cases found with
  | unresolved => exact .misconfigured _
  | node key i className => exact .bind (keeps_step h.1 (h.2 args) ..) fun s hs => .pure hs
  | method key method arity className =>
    exact .bind (keeps_step h.1 (h.2 args) ..) fun s hs => .pure hs
  | raw key run className => exact .bind (keeps_step h.1 (h.2 args) ..) fun s hs => .pure hs

/-- A declaration resolves to supplied code that runs as a node. -/
theorem keeps_resolve : u.Keeps (fun l => u.step l.step.run) (r.resolve d owner) :=
  .bind (keeps_locate supplied used) fun _ hf => keeps_leaf hf _ _ owner

end Declared

end Resolver

namespace Chain

variable {u : Upkeep ρ σ}

theorem keeps_located {Q : α → Prop} {b : Build ρ σ α} (h : u.Keeps Q b) (position : Nat) :
    u.Keeps Q (located position b) := by
  refine ⟨fun {w} held => ?_⟩
  obtain ⟨held', value⟩ := h.after held
  refine ⟨held', fun a ran => value a ?_⟩
  exact congrArg Prod.fst (located_eq_ok.mp (Prod.ext ran rfl : located position b w = (.ok a, _)))

theorem keeps_refuse (position : Nat) (defect : Option Misconfiguration) :
    u.Keeps (fun _ => True) (refuse position defect : Compiling ρ σ Unit) := by
  cases defect with
  | none => exact .pure trivial
  | some m => exact keeps_located (.misconfigured m) position

theorem keeps_recoverLast (fallback : Arg) (handler : Option (Handler ρ σ))
    {done : List (Node ρ σ)} (h : ∀ node ∈ done, u.tree node) :
    u.Keeps (fun done => ∀ node ∈ done, u.tree node) (recoverLast fallback handler done) := by
  cases done with
  | nil => exact .misconfigured _
  | cons last before =>
    rw [List.forall_mem_cons] at h
    have inner := List.forall_mem_singleton.mpr h.1
    exact .pure (List.forall_mem_cons.mpr ⟨u.fresh inner trivial, h.2⟩)

theorem keeps_consume {P : Declaration ρ σ → Prop} {Q : α → Prop} {take : Take} {label : String}
    {bound : Nat}
    {visit : α → Declaration ρ σ → Nat → (rest : List (Declaration ρ σ)) → rest.length < bound →
      Compiling ρ σ (α × Bool × Nat)}
    (hv : ∀ made d position rest short, Q made → (∀ e ∈ d :: rest, P e) →
      u.Keeps (fun seen => Q seen.1) (visit made d position rest short)) {k : Nat}
    {taken position : Nat} {found : List String} {made : α} {ds : List (Declaration ρ σ)}
    (hk : ds.length < k) (fits : ds.length ≤ bound) (hm : Q made) (hp : ∀ d ∈ ds, P d) :
    u.Keeps (fun out => Q out.1)
      (consume take label bound visit taken found made position ds fits) := by
  induction k generalizing taken found made position ds with
  | zero => exact absurd hk (Nat.not_lt_zero _)
  | succ k ih =>
    by_cases full : take = .exactly taken
    · rw [consume_full fits full]
      exact .pure hm
    cases ds with
    | nil =>
      cases take with
      | all =>
        rw [consume_atEnd]
        exact .pure hm
      | exactly expected =>
        rw [consume_short fits (by simpa using full)]
        exact .throw _
    | cons d rest =>
      rw [consume_cons fits full]
      refine .bind (hv _ _ _ _ _ hm hp) fun seen hs => ?_
      refine .bind (ih ?_ _ hs fun e he => ?_) fun tail ht => .pure ht
      · simp only [List.length_cons] at hk
        rw [List.length_drop]
        omega
      · exact hp e (List.mem_cons_of_mem _ (List.mem_of_mem_drop he))

variable [Record ρ σ] {r : Resolver ρ σ} {owner : ρ}

/-- What a declaration refers to is supplied, under keys that are concerned. -/
def Refers (u : Upkeep ρ σ) (r : Resolver ρ σ) (owner : ρ) (d : Declaration ρ σ) : Prop :=
  ∀ need ∈ d.requests, r.Supplies owner u.code need ∧ ∀ key ∈ Resolver.keysOf owner need, u.uses key

theorem keeps_join {g : Grouping ρ σ} (supplied : Refers u r owner (.group g))
    {children : List (Node ρ σ)} (inner : ∀ child ∈ children, u.tree child) :
    u.Keeps u.tree (join r owner g children) := by
  cases g with
  | when condition negate count otherwise =>
    obtain ⟨own, used⟩ := supplied condition List.mem_cons_self
    exact .bind (Resolver.keeps_resolve own used) fun predicate hp => .pure (u.fresh inner hp)
  | collect shape => cases shape <;> exact .pure (u.fresh inner trivial)
  | _ => exact .pure (u.fresh inner trivial)

mutual

theorem keeps_compileChildren (direction : Direction) (take : Take) (label : String)
    (position : Nat) {ds : List (Declaration ρ σ)} (supplied : ∀ d ∈ ds, Refers u r owner d) :
    u.Keeps (fun out => ∀ node ∈ out.1, u.tree node)
      (compileChildren r owner direction take label position ds) := by
  rw [compileChildren]
  refine .bind (keeps_consume (Q := fun done => ∀ node ∈ done, u.tree node) ?_
    (Nat.lt_succ_self _) _ nofun supplied) fun out made => .pure ?_
  · intro done d position rest short before supplied
    rw [List.forall_mem_cons] at supplied
    cases d with
    | failTo fallback handler =>
      refine .bind (keeps_refuse ..) fun _ _ => .bind ?_ fun nodes made => .pure made
      exact keeps_located (keeps_recoverLast fallback handler before) _
    | group g =>
      refine .bind (keeps_compileGroup direction position supplied.1 supplied.2) ?_
      exact fun ⟨node, used⟩ made => .pure (List.forall_mem_cons.mpr ⟨made, before⟩)
    | node request =>
      obtain ⟨own, used⟩ := supplied.1 _ List.mem_cons_self
      refine .bind (keeps_located (Resolver.keeps_resolve own used) _) fun l hl => .pure ?_
      exact List.forall_mem_cons.mpr ⟨u.leaf hl, before⟩
  · exact fun node hn => made node (List.mem_reverse.mp hn)
termination_by (ds.length, 0)

theorem keeps_compileGroup (direction : Direction) {g : Grouping ρ σ} (position : Nat)
    {ds : List (Declaration ρ σ)} (own : Refers u r owner (.group g))
    (supplied : ∀ d ∈ ds, Refers u r owner d) :
    u.Keeps (fun out => u.tree out.1) (compileGroup r owner direction g position ds) := by
  rw [compileGroup]
  split
  · refine .bind (Q := fun _ => True) ⟨fun held => ⟨held, fun _ _ => trivial⟩⟩ fun _ _ => ?_
    exact .pure (u.fresh nofun trivial)
  · refine .bind (keeps_refuse ..) fun _ _ => ?_
    refine .bind (keeps_compileChildren direction g.take g.name position supplied) ?_
    intro ⟨children, used⟩ made
    exact .bind (keeps_located (keeps_join own made) _) fun node hn => .pure hn
termination_by (ds.length, 1)

end

/-- Compilation keeps an invariant, and makes a tree of what was supplied. -/
theorem keeps_compile {q : Queue ρ σ} (supplied : ∀ d ∈ q.rest, Refers u r owner d)
    (direction : Direction) (take : Take) {w : Workspace ρ σ} (held : u.holds w.cache) :
    u.holds (compile r q owner direction take w).2.cache ∧
      ∀ root, (compile r q owner direction take w).1.1 = .ok root → u.tree root := by
  obtain ⟨held', made⟩ := (keeps_compileChildren (r := r) direction take "chain" q.position
    supplied).after held
  rw [compile, state_bind_run, ExceptT.run]
  rcases ran : compileChildren r owner direction take "chain" q.position q.rest w with
    ⟨halt | ⟨children, used⟩, t⟩
  · rw [ran] at held'
    refine ⟨held', ?_⟩
    rintro root ⟨⟩
  · rw [ran] at held' made
    refine ⟨held', ?_⟩
    rintro root ⟨⟩
    exact u.fresh (made _ rfl) trivial

theorem keeps_compileAll {ds : List (Declaration ρ σ)} (supplied : ∀ d ∈ ds, Refers u r owner d)
    (direction : Direction) : u.Keeps (fun _ => True) (compileAll r ds owner direction) := by
  refine ⟨fun {w} held => ?_⟩
  have held' := (keeps_compile (q := ⟨ds, 0⟩) supplied direction .all held).1
  have first : (compile r ⟨ds, 0⟩ owner direction .all : Build ρ σ _) w =
      (.ok (compile r ⟨ds, 0⟩ owner direction .all w).1,
        (compile r ⟨ds, 0⟩ owner direction .all w).2) := rfl
  rw [compileAll, bind_of_ok first]
  rcases ran : compile r ⟨ds, 0⟩ owner direction .all w with ⟨⟨_ | root, q⟩, t⟩ <;>
  · rw [ran] at held'
    exact ⟨held', fun _ _ => trivial⟩

end Chain

end FieldPipeline
