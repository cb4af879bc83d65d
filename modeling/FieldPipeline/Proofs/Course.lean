import FieldPipeline.Proofs.Recall
import Mathlib.Data.List.Induction

namespace FieldPipeline

open Outcome

variable {ρ σ : Type}

/-- Stores an instance under a key, unless there is one, and yields the one that is there then. -/
def Workspace.store (w : Workspace ρ σ) (key : String) (i : Instance ρ σ) :
    Instance ρ σ × Workspace ρ σ :=
  ((w.cache.keepInstance key i).1, { w with cache := (w.cache.keepInstance key i).2 })

theorem Workspace.store_of_some {w : Workspace ρ σ} {key : String} {kept : Instance ρ σ}
    (there : w.cache.instance? key = some kept) (i : Instance ρ σ) : w.store key i = (kept, w) := by
  rw [store, Cache.keepInstance_of_some there]

@[simp] theorem Workspace.instance?_store (w : Workspace ρ σ) (key k : String) (i : Instance ρ σ) :
    (w.store key i).2.cache.instance? k =
      if k = key then some (w.store key i).1 else w.cache.instance? k :=
  w.cache.instance?_keepInstance key k i

/-- One resolution, seen from outside. -/
structure Visit (ρ σ : Type) where
  declaration : Declaration ρ σ
  owner : ρ
  /-- The entry that it came to and the instance in it, if that entry is for one. -/
  reached : Option (String × Instance ρ σ)
  /-- The name and the arguments' key of the type of which it constructed an instance. -/
  constructed : Option (String × String)
  /-- What booting the instance came to, if it was booted now. -/
  boot : Option (Except Fault Unit)
  result : Except Fault (Leaf ρ σ)

/-- What is read off a list of visits, when there is one more. -/
theorem filterMap_append_singleton {α β : Type} (f : α → Option β) (l : List α) (a : α) :
    (l ++ [a]).filterMap f = l.filterMap f ++ (f a).toList := by
  rw [List.filterMap_append]
  cases h : f a <;> simp [h]

namespace Resolver

/-- An instance that has been booted is not booted again. One that has not is booted, and marked if
that succeeds. -/
inductive Boots (i : Instance ρ σ) (owner : ρ) (w : Workspace ρ σ) :
    Option (Except Fault Unit) → Workspace ρ σ → Prop
  | before (booted : w.cache.isBooted i.id = true) : Boots i owner w none w
  | succeeded {s : RunState σ} (new : w.cache.isBooted i.id = false)
      (ran : i.node.boot owner w.run = (.ok (), s)) :
      Boots i owner w (some (.ok ())) { w with run := s, cache := w.cache.noteBooted i.id }
  | failed {fault : Fault} {s : RunState σ} (new : w.cache.isBooted i.id = false)
      (ran : i.node.boot owner w.run = (.error fault, s)) :
      Boots i owner w (some (.error fault)) { w with run := s }

theorem boot_new {i : Instance ρ σ} {owner : ρ} {w : Workspace ρ σ}
    (new : w.cache.isBooted i.id = false) :
    boot i owner w =
      match i.node.boot owner w.run with
      | (.ok (), s) => (.ok (), { w with run := s, cache := w.cache.noteBooted i.id })
      | (.error fault, s) => (.error fault, { w with run := s }) := by
  change (ensureBooted i.id (i.node.boot owner) >>= fun _ => pure ()) w = _
  rw [bind_run, ensureBooted, bind_of_ok (Build.cache_run w), if_neg (by simp [new]), bind_run,
    Build.ofAct]
  rcases i.node.boot owner w.run with ⟨fault | ⟨⟩, s⟩ <;> rfl

theorem exists_boots (i : Instance ρ σ) (owner : ρ) (w : Workspace ρ σ) :
    ∃ outcome w', Boots i owner w outcome w' ∧ boot i owner w = (outcome.getD (.ok ()), w') := by
  cases new : w.cache.isBooted i.id with
  | true => exact ⟨none, w, .before new, boot_again new owner⟩
  | false =>
    rw [boot_new new]
    rcases ran : i.node.boot owner w.run with ⟨fault | ⟨⟩, s⟩
    · exact ⟨_, _, .failed new ran, rfl⟩
    · exact ⟨_, _, .succeeded new ran, rfl⟩

theorem keep_of_boots {key : String} {i : Instance ρ σ} {owner : ρ} {w w' : Workspace ρ σ}
    {outcome : Except Fault Unit}
    (booted : boot (w.store key i).1 owner (w.store key i).2 = (outcome, w')) :
    keep key i owner w = (outcome.map fun _ => (w.store key i).1, w') := by
  have stored : (Build.onCache (·.keepInstance key i) : Build ρ σ _) w =
      (.ok (w.store key i).1, (w.store key i).2) := rfl
  rw [keep, bind_of_ok stored, bind_run, booted]
  cases outcome <;> rfl

/-- The step of an entry for one set of call arguments is there, or is compiled with a new
number. -/
inductive Steps (key argsKey : String) (w : Workspace ρ σ) : Compiled ρ σ → Workspace ρ σ → Prop
  | cached {s : Compiled ρ σ} (there : w.cache.step? key argsKey = some s) :
      Steps key argsKey w s w
  | compiled (run : Callable ρ σ) (new : w.cache.step? key argsKey = none) :
      Steps key argsKey w ⟨w.issued, run⟩ { w with
        issued := w.issued + 1, cache := (w.cache.keepStep key argsKey ⟨w.issued, run⟩).2 }

/-- A step that is not there yet is compiled and kept. -/
theorem step_new {key : String} {args : List Arg} {w : Workspace ρ σ}
    (new : w.cache.step? key (Arg.key args) = none) (name : String) (run : Callable ρ σ) :
    step key args name run w = (.ok ⟨w.issued, run.asNode name⟩, { w with
      issued := w.issued + 1
      cache := (w.cache.keepStep key (Arg.key args) ⟨w.issued, run.asNode name⟩).2 }) := by
  have first : (w.cache.keepStep key (Arg.key args) ⟨w.issued, run.asNode name⟩).1 =
      ⟨w.issued, run.asNode name⟩ := by
    simp [new]
  refine bind_eq_ok.mpr ⟨w.cache, w, rfl, ?_⟩
  rw [new]
  refine bind_eq_ok.mpr ⟨w.issued, { w with issued := w.issued + 1 }, rfl, ?_⟩
  exact Prod.ext (congrArg Except.ok first) rfl

theorem exists_steps (key : String) (args : List Arg) (name : String) (run : Callable ρ σ)
    (w : Workspace ρ σ) :
    ∃ s w', Steps key (Arg.key args) w s w' ∧ step key args name run w = (.ok s, w') := by
  cases there : w.cache.step? key (Arg.key args) with
  | some s => exact ⟨s, w, .cached there, step_again there name run⟩
  | none => exact ⟨_, _, .compiled (run.asNode name) there, step_new there name run⟩

/-- What is registered under a name. -/
def info? (r : Resolver ρ σ) (name : String) : Option Registry.TypeInfo :=
  r.registry.bind (·.info? name)

/-- A name of a registered node type. -/
def IsType (r : Resolver ρ σ) (name : String) : Prop :=
  ∃ info, r.info? name = some info ∧ info.isNode = true

/-- Construction of a node, with its dependencies. -/
def prepare (r : Resolver ρ σ) (registry : Registry ρ σ) (name : String)
    (args : Option (List Arg)) : Build ρ σ (Transformer ρ σ) := do
  let node ← Build.ofAct (registry.instantiate name args)
  r.populate name node node.slots
  return node

/-- Construction changes the state of running nodes and nothing else. -/
theorem populate_frame (r : Resolver ρ σ) (name : String) (node : Transformer ρ σ)
    (slots : List DependencySlot) (w : Workspace ρ σ) :
    ∃ result s, r.populate name node slots w = (result, { w with run := s }) := by
  induction slots generalizing w with
  | nil => exact ⟨_, w.run, rfl⟩
  | cons slot rest ih =>
    rw [populate.eq_def]
    dsimp only
    cases slot.service with
    | none => exact ⟨_, w.run, rfl⟩
    | some service =>
      cases r.services with
      | none => exact ⟨_, w.run, rfl⟩
      | some locate =>
        dsimp only
        cases locate service with
        | none => exact ⟨_, w.run, rfl⟩
        | some s =>
          dsimp only
          rw [bind_run, Build.ofAct]
          rcases node.fill slot.name s w.run with ⟨fault | ⟨⟩, t⟩
          · exact ⟨_, t, rfl⟩
          · exact ih { w with run := t }

theorem prepare_frame (r : Resolver ρ σ) (registry : Registry ρ σ) (name : String)
    (args : Option (List Arg)) (w : Workspace ρ σ) :
    ∃ result s, r.prepare registry name args w = (result, { w with run := s }) := by
  rw [prepare, bind_run, Build.ofAct]
  rcases registry.instantiate name args w.run with ⟨fault | node, t⟩
  · exact ⟨_, t, rfl⟩
  obtain ⟨result, s, filled⟩ := r.populate_frame name node node.slots { w with run := t }
  dsimp only
  rw [bind_run, filled]
  cases result with
  | error fault => exact ⟨_, s, rfl⟩
  | ok => exact ⟨_, s, rfl⟩

theorem instantiate_of_prepare {r : Resolver ρ σ} {registry : Registry ρ σ} {name : String}
    {args : Option (List Arg)} {w : Workspace ρ σ} {result : Except Fault (Transformer ρ σ)}
    {s : RunState σ} (made : r.prepare registry name args w = (result, { w with run := s })) :
    r.instantiate registry name args w =
      match result with
      | .ok node => (.ok ⟨.made w.issued, node⟩,
          { cache := w.cache.countInstantiation, run := s, issued := w.issued + 1 })
      | .error fault => (.error fault, { w with run := s }) := by
  rw [prepare, bind_run] at made
  rw [instantiate, bind_run]
  rcases e : (Build.ofAct (registry.instantiate name args) : Build ρ σ _) w with ⟨fault | node, t⟩
  · rw [e] at made
    cases made
    rfl
  rw [e] at made
  dsimp only at made ⊢
  rw [bind_run] at made ⊢
  rcases e' : r.populate name node node.slots t with ⟨fault | ⟨⟩, t'⟩
  · rw [e'] at made
    cases made
    rfl
  · rw [e'] at made
    cases made
    rfl

variable {r : Resolver ρ σ} {owner : ρ} {request : Request ρ σ} {w : Workspace ρ σ}

theorem findType_unknown {name : String} (unknown : r.info? name = none) :
    r.findType name request owner w = (.ok none, w) := by
  unfold findType
  cases registered : r.registry with
  | none => rfl
  | some registry =>
    rw [info?, registered, Option.bind_some] at unknown
    simp only [unknown]
    rfl

section Registered

variable {registry : Registry ρ σ} {name : String} {info : Registry.TypeInfo}
  (registered : r.registry = some registry) (known : registry.info? name = some info)

include registered known

theorem findType_foreign (foreign_ : info.isNode = false) :
    r.findType name request owner w = (.error (.configuration (.notANode name)), w) := by
  unfold findType
  simp only [registered, known, foreign_]
  rfl

theorem findType_cached (isNode : info.isNode = true) {i : Instance ρ σ}
    (there : w.cache.instance? (typeKey name request.constructorArgs) = some i) :
    r.findType name request owner w = ((boot i owner w).1.map fun _ =>
      some (.node (typeKey name request.constructorArgs) i name), (boot i owner w).2) := by
  unfold findType
  simp only [registered, known, isNode, Bool.not_true, Bool.false_eq_true, if_false]
  rw [bind_of_ok (Build.cache_run w)]
  simp only [there]
  rw [bind_run]
  rcases boot i owner w with ⟨fault | ⟨⟩, w'⟩ <;> rfl

theorem findType_undeclared (isNode : info.isNode = true)
    (new : w.cache.instance? (typeKey name request.constructorArgs) = none)
    (missing : (request.constructorArgs.isNone && info.requiresArguments) = true) :
    r.findType name request owner w = (.error (.configuration (.argumentsMissing name)), w) := by
  unfold findType
  simp only [registered, known, isNode, Bool.not_true, Bool.false_eq_true, if_false]
  rw [bind_of_ok (Build.cache_run w)]
  simp only [new, missing, if_true]
  rfl

theorem findType_new (isNode : info.isNode = true)
    (new : w.cache.instance? (typeKey name request.constructorArgs) = none)
    (declared : (request.constructorArgs.isNone && info.requiresArguments) = false) :
    r.findType name request owner w =
      match r.instantiate registry name request.constructorArgs w with
      | (.ok i, w₁) =>
        ((keep (typeKey name request.constructorArgs) i owner w₁).1.map fun kept =>
            some (.node (typeKey name request.constructorArgs) kept name),
          (keep (typeKey name request.constructorArgs) i owner w₁).2)
      | (.error fault, w₁) => (.error fault, w₁) := by
  unfold findType
  simp only [registered, known, isNode, Bool.not_true, Bool.false_eq_true, if_false]
  rw [bind_of_ok (Build.cache_run w)]
  simp only [new, declared, Bool.false_eq_true, if_false]
  rw [bind_run]
  rcases r.instantiate registry name request.constructorArgs w with ⟨fault | i, w₁⟩
  · rfl
  dsimp only
  rw [bind_run]
  rcases keep (typeKey name request.constructorArgs) i owner w₁ with ⟨fault | kept, w₂⟩ <;> rfl

end Registered

/-- What the last resort hands back is kept if it is a node. -/
theorem askFallback_heard {name : String} {resolve : FallbackResolver ρ σ}
    {answer : Option (Fallback ρ σ)} {s : RunState σ} (last : r.fallback = some resolve)
    (asked : resolve name request owner w.run = (answer, s)) :
    r.askFallback name request owner w =
      let key := fallbackKey name request.constructorArgs
      let node (kept : Except Fault (Instance ρ σ)) : Except Fault (Option (Resolution ρ σ)) :=
        kept.map fun i => some (.node key i name)
      match answer with
      | none => (.ok none, { w with run := s })
      | some (.node t) =>
        (keep key ⟨.made w.issued, t⟩ owner { w with run := s, issued := w.issued + 1 }).map node id
      | some (.kept label t) => (keep key ⟨.given label, t⟩ owner { w with run := s }).map node id
      | some (.callable run) => (.ok (some (.raw key run name)), { w with run := s }) := by
  have heard : (Build.ofAct (liftM (resolve name request owner)) : Build ρ σ _) w =
      (.ok answer, { w with run := s }) := by
    change (Except.ok (resolve name request owner w.run).1,
      { w with run := (resolve name request owner w.run).2 }) = _
    rw [asked]
  unfold askFallback
  simp only [last]
  rw [bind_of_ok heard]
  cases answer with
  | none => rfl
  | some answer =>
    cases answer with
    | node t =>
      dsimp only
      rw [bind_of_ok (Build.issue_run _), bind_run]
      rcases keep (fallbackKey name request.constructorArgs) ⟨.made w.issued, t⟩ owner
        { w with run := s, issued := w.issued + 1 } with ⟨fault | kept, w'⟩ <;> rfl
    | kept label t =>
      dsimp only
      rw [bind_run]
      rcases keep (fallbackKey name request.constructorArgs) ⟨.given label, t⟩ owner
        { w with run := s } with ⟨fault | kept, w'⟩ <;> rfl
    | callable run => rfl

variable [Record ρ σ]

/-- An instance is on offer for a request: under which key, which instance, of which type it was
constructed if it was, and in which workspace. It goes into the cache unless the key has one. -/
inductive Offers (r : Resolver ρ σ) (owner : ρ) (request : Request ρ σ) (w : Workspace ρ σ) :
    String → Instance ρ σ → Option (String × String) → Workspace ρ σ → Prop
  | given {label : String} {t : Transformer ρ σ} (identity : request.identity = .given label t) :
      Offers r owner request w (instanceKey t.name (.given label)) ⟨.given label, t⟩ none w
  | cached {name : String} {i : Instance ρ σ} (identity : request.identity = .named name)
      (type : r.IsType name)
      (there : w.cache.instance? (typeKey name request.constructorArgs) = some i) :
      Offers r owner request w (typeKey name request.constructorArgs) i none w
  | constructed {name : String} {registry : Registry ρ σ} {info : Registry.TypeInfo}
      {t : Transformer ρ σ} {s : RunState σ} (identity : request.identity = .named name)
      (registered : r.registry = some registry) (known : registry.info? name = some info)
      (isNode : info.isNode = true)
      (new : w.cache.instance? (typeKey name request.constructorArgs) = none)
      (declared : (request.constructorArgs.isNone && info.requiresArguments) = false)
      (made : r.prepare registry name request.constructorArgs w = (.ok t, { w with run := s })) :
      Offers r owner request w (typeKey name request.constructorArgs) ⟨.made w.issued, t⟩
        (some (name, constructorKey request.constructorArgs))
        { cache := w.cache.countInstantiation, run := s, issued := w.issued + 1 }
  | answered {name : String} {resolve : FallbackResolver ρ σ} {t : Transformer ρ σ}
      {s : RunState σ} (identity : request.identity = .named name) (unknown : r.info? name = none)
      (free : Record.arity? owner (methodName name) = none) (last : r.fallback = some resolve)
      (answer : resolve name request owner w.run = (some (.node t), s)) :
      Offers r owner request w (fallbackKey name request.constructorArgs) ⟨.made w.issued, t⟩ none
        { w with run := s, issued := w.issued + 1 }
  | kept {name label : String} {resolve : FallbackResolver ρ σ} {t : Transformer ρ σ}
      {s : RunState σ} (identity : request.identity = .named name) (unknown : r.info? name = none)
      (free : Record.arity? owner (methodName name) = none) (last : r.fallback = some resolve)
      (answer : resolve name request owner w.run = (some (.kept label t), s)) :
      Offers r owner request w (fallbackKey name request.constructorArgs) ⟨.given label, t⟩ none
        { w with run := s }

/-- What one resolution does, from one workspace to another: which instance is on offer, whether it
is booted now and how that ends, and what the cache has afterwards. -/
inductive Course (r : Resolver ρ σ) (w : Workspace ρ σ) : Visit ρ σ → Workspace ρ σ → Prop
  | backed {owner : ρ} {request : Request ρ σ} {key : String} {i : Instance ρ σ}
      (className : String) {constructed : Option (String × String)}
      {outcome : Option (Except Fault Unit)}
      {s : Compiled ρ σ} {w₁ w₂ w₃ : Workspace ρ σ}
      (offers : Offers r owner request w key i constructed w₁)
      (boots : Boots (w₁.store key i).1 owner (w₁.store key i).2 outcome w₂)
      (fine : outcome.getD (.ok ()) = .ok ())
      (steps : Steps key (Arg.key request.callArgs) w₂ s w₃) :
      Course r w
        { declaration := .node request, owner, constructed, boot := outcome
          reached := some (key, (w₁.store key i).1)
          result := .ok { step := s, backing := some (w₁.store key i).1, className } } w₃
  | unbooted {owner : ρ} {request : Request ρ σ} {key : String} {i : Instance ρ σ}
      {constructed : Option (String × String)} {fault : Fault} {w₁ w₂ : Workspace ρ σ}
      (offers : Offers r owner request w key i constructed w₁)
      (boots : Boots (w₁.store key i).1 owner (w₁.store key i).2 (some (.error fault)) w₂) :
      Course r w
        { declaration := .node request, owner, constructed, boot := some (.error fault)
          reached := some (key, (w₁.store key i).1), result := .error fault } w₂
  | bare {owner : ρ} {request : Request ρ σ} {key className : String} {method : Option String}
      {s : Compiled ρ σ} {state : RunState σ} {w₁ : Workspace ρ σ}
      (nothing : ∀ key i constructed w₁, ¬ Offers r owner request w key i constructed w₁)
      (unknown : ∀ name, request.identity = .named name → r.info? name = none)
      (steps : Steps key (Arg.key request.callArgs) { w with run := state } s w₁) :
      Course r w
        { declaration := .node request, owner, constructed := none, boot := none, reached := none
          result := .ok { step := s, className, method } } w₁
  | failed {owner : ρ} {declaration : Declaration ρ σ} {fault : Fault} {state : RunState σ}
      (nothing : ∀ request, declaration = .node request →
        ∀ key i constructed w₁, ¬ Offers r owner request w key i constructed w₁) :
      Course r w
        { declaration, owner, constructed := none, boot := none, reached := none
          result := .error fault } { w with run := state }

section Named

variable {name : String} (identity : request.identity = .named name)

include identity

/-- A registered type is located, or its fault is the fault of the whole. -/
theorem locate_type {result : Except Fault (Resolution ρ σ)} {w' : Workspace ρ σ}
    (found : r.findType name request owner w = (result.map some, w')) :
    r.locate (.node request) owner w = (result, w') := by
  unfold locate
  simp only [identity]
  rw [bind_run, found]
  cases result <;> rfl

variable (unknown : r.info? name = none)

include unknown

theorem locate_method {arity : Arity}
    (method : Record.arity? owner (methodName name) = some arity) :
    r.locate (.node request) owner w =
      (.ok (.method (methodKey (Record.typeName owner) (methodName name)) (methodName name) arity
        (Record.typeName owner)), w) := by
  unfold locate
  simp only [identity]
  rw [bind_of_ok (findType_unknown unknown)]
  simp only [findMethod, method, Option.map_some]
  rfl

variable (free : Record.arity? owner (methodName name) = none)

include free

theorem locate_last {result : Except Fault (Option (Resolution ρ σ))} {w' : Workspace ρ σ}
    (asked : r.askFallback name request owner w = (result, w')) :
    r.locate (.node request) owner w = (result.map (·.getD .unresolved), w') := by
  unfold locate
  simp only [identity]
  rw [bind_of_ok (findType_unknown unknown)]
  simp only [findMethod, free, Option.map_none]
  rw [bind_run, asked]
  rcases result with fault | found
  · rfl
  · cases found <;> rfl

end Named

omit [Record ρ σ] in
/-- The name under which a node runs that was found for a request. -/
def className (request : Request ρ σ) (i : Instance ρ σ) : String :=
  match request.identity with
  | .given .. => i.node.name
  | .named name => name

omit [Record ρ σ] in
theorem className_named {name : String} (identity : request.identity = .named name)
    (i : Instance ρ σ) : className request i = name := by
  rw [className, identity]

/-- What is on offer is located, if it boots. -/
theorem locate_offers {key : String} {i : Instance ρ σ} {constructed : Option (String × String)}
    {w₁ w₂ : Workspace ρ σ} {outcome : Except Fault Unit}
    (offers : Offers r owner request w key i constructed w₁)
    (booted : boot (w₁.store key i).1 owner (w₁.store key i).2 = (outcome, w₂)) :
    r.locate (.node request) owner w = (outcome.map fun _ =>
      .node key (w₁.store key i).1 (className request (w₁.store key i).1), w₂) := by
  have kept := keep_of_boots booted
  cases offers with
  | @given label t identity =>
    rw [className, identity]
    unfold locate
    simp only [identity]
    rw [bind_run, kept]
    cases outcome <;> rfl
  | @cached name i identity type there =>
    obtain ⟨info, type, isNode⟩ := type
    obtain ⟨registry, registered, known⟩ := Option.bind_eq_some_iff.mp type
    rw [Workspace.store_of_some there] at booted ⊢
    rw [className_named identity]
    refine locate_type identity ?_
    rw [findType_cached registered known isNode there, booted]
    cases outcome <;> rfl
  | @constructed name registry info t s identity registered known isNode new declared made =>
    rw [className_named identity]
    refine locate_type identity ?_
    rw [findType_new registered known isNode new declared, instantiate_of_prepare made]
    dsimp only
    rw [kept]
    cases outcome <;> rfl
  | @answered name resolve t s identity unknown free last answer =>
    rw [className_named identity]
    have heard := askFallback_heard last answer
    dsimp only at heard
    rw [kept] at heard
    rw [locate_last identity unknown free heard]
    cases outcome <;> rfl
  | @kept name label resolve t s identity unknown free last answer =>
    rw [className_named identity]
    have heard := askFallback_heard last answer
    dsimp only at heard
    rw [kept] at heard
    rw [locate_last identity unknown free heard]
    cases outcome <;> rfl

/-- What is found for a name where no instance is on offer: a method of the record, a callable of
the last resort, or nothing. -/
inductive Bare (r : Resolver ρ σ) (owner : ρ) (request : Request ρ σ) (s : RunState σ) :
    Resolution ρ σ → Prop
  | method {name : String} {arity : Arity} (identity : request.identity = .named name)
      (there : Record.arity? owner (methodName name) = some arity) :
      Bare r owner request s (.method (methodKey (Record.typeName owner) (methodName name))
        (methodName name) arity (Record.typeName owner))
  | raw {name : String} {resolve : FallbackResolver ρ σ} {s' : RunState σ}
      {run : Value → List Arg → Scope ρ → Act σ Value} (identity : request.identity = .named name)
      (last : r.fallback = some resolve)
      (answer : resolve name request owner s = (some (.callable run), s')) :
      Bare r owner request s (.raw (fallbackKey name request.constructorArgs) run name)
  | unresolved : Bare r owner request s .unresolved

/-- Where nothing is on offer, resolution comes to no entry for an instance, and stores nothing.
What it finds does not go by the name of a type. -/
theorem locate_nothing
    (nothing : ∀ key i constructed w₁, ¬ Offers r owner request w key i constructed w₁) :
    (∃ fault s, r.locate (.node request) owner w = (.error fault, { w with run := s })) ∨
      ∃ found s, r.locate (.node request) owner w = (.ok found, { w with run := s }) ∧
        Bare r owner request w.run found ∧
        ∀ name, request.identity = .named name → r.info? name = none := by
  cases identity : request.identity with
  | given label t => exact absurd (.given identity) (nothing _ _ _ _)
  | named name =>
    cases known : r.info? name with
    | some info =>
      left
      obtain ⟨registry, registered, found⟩ := Option.bind_eq_some_iff.mp known
      cases isNode : info.isNode with
      | false =>
        exact ⟨_, w.run, locate_type identity (findType_foreign registered found isNode)⟩
      | true =>
        cases there : w.cache.instance? (typeKey name request.constructorArgs) with
        | some i => exact absurd (.cached identity ⟨info, known, isNode⟩ there) (nothing _ _ _ _)
        | none =>
          cases declared : request.constructorArgs.isNone && info.requiresArguments with
          | true =>
            exact ⟨_, w.run, locate_type identity
              (findType_undeclared registered found isNode there declared)⟩
          | false =>
            obtain ⟨result, s, made⟩ :=
              r.prepare_frame registry name request.constructorArgs w
            cases result with
            | ok t =>
              exact absurd (.constructed identity registered found isNode there declared made)
                (nothing _ _ _ _)
            | error fault =>
              refine ⟨fault, s, locate_type identity ?_⟩
              rw [findType_new registered found isNode there declared, instantiate_of_prepare made]
              rfl
    | none =>
      right
      have unknown (other : String) (same : (.named name : Identity ρ σ) = .named other) :
          r.info? other = none := by
        cases same
        exact known
      cases method : Record.arity? owner (methodName name) with
      | some arity =>
        exact ⟨_, w.run, locate_method identity known method, .method identity method, unknown⟩
      | none =>
        cases last : r.fallback with
        | none =>
          have nobody : r.askFallback name request owner w = (.ok none, w) := by
            simp only [askFallback, last]
            rfl
          exact ⟨_, w.run, locate_last identity known method nobody, .unresolved, unknown⟩
        | some resolve =>
          rcases asked : resolve name request owner w.run with ⟨answer, s⟩
          have heard := askFallback_heard last asked
          cases answer with
          | none => exact ⟨_, s, locate_last identity known method heard, .unresolved, unknown⟩
          | some answer =>
            cases answer with
            | node t =>
              exact absurd (.answered identity known method last asked) (nothing _ _ _ _)
            | kept label t =>
              exact absurd (.kept identity known method last asked) (nothing _ _ _ _)
            | callable run =>
              exact ⟨_, s, locate_last identity known method heard, .raw identity last asked,
                unknown⟩

theorem Bare.leaf {state : RunState σ} {found : Resolution ρ σ}
    (h : Bare r owner request state found) (name : String) (args : List Arg)
    (w : Workspace ρ σ) :
    (∃ fault, r.leaf found name args owner w = (.error fault, w)) ∨
      ∃ key s w₁ className method, Steps key (Arg.key args) w s w₁ ∧
        r.leaf found name args owner w = (.ok { step := s, className, method }, w₁) := by
  cases h with
  | unresolved => exact .inl ⟨_, rfl⟩
  | @method name arity identity there =>
    obtain ⟨s, w₁, steps, stepped⟩ := exists_steps _ args
      (Record.typeName owner ++ "::" ++ methodName name) (callMethod (methodName name) arity args) w
    exact .inr ⟨_, s, w₁, _, some _, steps, bind_of_ok stepped _⟩
  | @raw name resolve s' run identity last answer =>
    obtain ⟨s, w₁, steps, stepped⟩ :=
      exists_steps _ args name (fun v scope => run v args scope) w
    exact .inr ⟨_, s, w₁, _, none, steps, bind_of_ok stepped _⟩

/-- Every resolution has a course. -/
theorem exists_course (r : Resolver ρ σ) (d : Declaration ρ σ) (owner : ρ) (w : Workspace ρ σ) :
    ∃ visit w', visit.declaration = d ∧ visit.owner = owner ∧ Course r w visit w' ∧
      r.resolve d owner w = (visit.result, w') := by
  cases d with
  | failTo fallback handler => exact ⟨_, _, rfl, rfl, .failed nofun, rfl⟩
  | group g => exact ⟨_, _, rfl, rfl, .failed nofun, rfl⟩
  | node request =>
    by_cases offered : ∃ key i constructed w₁, Offers r owner request w key i constructed w₁
    · obtain ⟨key, i, constructed, w₁, offers⟩ := offered
      obtain ⟨outcome, w₂, boots, ran⟩ :=
        exists_boots (w₁.store key i).1 owner (w₁.store key i).2
      have located := locate_offers offers ran
      cases fine : outcome.getD (.ok ()) with
      | error fault =>
        obtain rfl : outcome = some (.error fault) := by
          cases outcome with
          | none => cases fine
          | some outcome => exact congrArg some fine
        refine ⟨_, w₂, rfl, rfl, .unbooted offers boots, ?_⟩
        rw [resolve, bind_run, located]
        rfl
      | ok =>
        rw [fine] at located
        obtain ⟨s, w₃, steps, stepped⟩ := exists_steps key request.callArgs
          (className request (w₁.store key i).1)
          (fun v scope => (w₁.store key i).1.node.apply v request.callArgs scope) w₂
        have resolved : r.resolve (.node request) owner w =
            (.ok { step := s, backing := some (w₁.store key i).1,
                   className := className request (w₁.store key i).1 }, w₃) := by
          rw [resolve, bind_of_ok located]
          exact bind_of_ok stepped _
        exact ⟨_, w₃, rfl, rfl, .backed _ offers boots fine steps, resolved⟩
    · simp only [not_exists] at offered
      have nothing (other) (same : Declaration.node request = .node other) :
          ∀ key i constructed w₁, ¬ Offers r owner other w key i constructed w₁ := by
        cases same
        exact offered
      rcases locate_nothing offered with
        ⟨fault, t, located⟩ | ⟨found, t, located, bare, unknown⟩
      · have failed : r.resolve (.node request) owner w = (.error fault, { w with run := t }) := by
          simp [resolve, located]
        exact ⟨_, _, rfl, rfl, .failed nothing, failed⟩
      · have resolved : r.resolve (.node request) owner w =
            r.leaf found request.identity.name request.callArgs owner { w with run := t } := by
          rw [resolve, bind_of_ok located]
          rfl
        rcases bare.leaf request.identity.name request.callArgs
          { w with run := t } with ⟨fault, refused⟩ | ⟨key, s, w₁, className, method, steps, made⟩
        · exact ⟨_, _, rfl, rfl, .failed nothing, resolved.trans refused⟩
        · exact ⟨_, _, rfl, rfl, .bare offered unknown steps, resolved.trans made⟩

section Unique

variable {key key' : String} {i i' : Instance ρ σ} {u u' : Workspace ρ σ}
  {constructed constructed' : Option (String × String)}

omit [Record ρ σ] in
theorem Boots.unique {outcome outcome' : Option (Except Fault Unit)} (h : Boots i owner w outcome u)
    (h' : Boots i owner w outcome' u') : outcome = outcome' := by
  cases h with
  | before booted =>
    cases h' with
    | before => rfl
    | succeeded new | failed new => cases booted.symm.trans new
  | succeeded new ran =>
    cases h' with
    | before booted => cases booted.symm.trans new
    | succeeded => rfl
    | failed _ ran' => cases ran.symm.trans ran'
  | failed new ran =>
    cases h' with
    | before booted => cases booted.symm.trans new
    | succeeded _ ran' => cases ran.symm.trans ran'
    | failed _ ran' =>
      cases ran.symm.trans ran'
      rfl

/-- One instance at most is on offer. -/
theorem Offers.unique (h : Offers r owner request w key i constructed u)
    (h' : Offers r owner request w key' i' constructed' u') :
    key = key' ∧ i = i' ∧ constructed = constructed' ∧ u = u' := by
  have typed {name : String} {registry : Registry ρ σ} {info : Registry.TypeInfo}
      (registered : r.registry = some registry) (known : registry.info? name = some info) :
      r.info? name = some info := by
    rw [info?, registered]
    exact known
  -- A name is not both one of a type and unknown.
  have apart {name name' : String} (identity : request.identity = .named name)
      (identity' : request.identity = .named name') (unknown : r.info? name = none)
      (type : r.IsType name') : False := by
    cases identity.symm.trans identity'
    obtain ⟨info, known, -⟩ := type
    cases known.symm.trans unknown
  cases h with
  | given identity =>
    cases h' with
    | given identity' =>
      cases identity.symm.trans identity'
      exact ⟨rfl, rfl, rfl, rfl⟩
    | cached identity' | constructed identity' | answered identity' | kept identity' =>
      cases identity.symm.trans identity'
  | cached identity type there =>
    cases h' with
    | given identity' => cases identity.symm.trans identity'
    | cached identity' _ there' =>
      cases identity.symm.trans identity'
      cases there.symm.trans there'
      exact ⟨rfl, rfl, rfl, rfl⟩
    | constructed identity' _ _ _ new =>
      cases identity.symm.trans identity'
      cases there.symm.trans new
    | answered identity' unknown | kept identity' unknown =>
      exact (apart identity' identity unknown type).elim
  | constructed identity registered known isNode new declared made =>
    cases h' with
    | given identity' => cases identity.symm.trans identity'
    | cached identity' _ there =>
      cases identity.symm.trans identity'
      cases there.symm.trans new
    | constructed identity' registered' _ _ _ _ made' =>
      cases identity.symm.trans identity'
      cases registered.symm.trans registered'
      cases made.symm.trans made'
      exact ⟨rfl, rfl, rfl, rfl⟩
    | answered identity' unknown | kept identity' unknown =>
      exact (apart identity' identity unknown ⟨_, typed registered known, isNode⟩).elim
  | answered identity unknown free last answer =>
    cases h' with
    | given identity' => cases identity.symm.trans identity'
    | cached identity' type => exact (apart identity identity' unknown type).elim
    | constructed identity' registered known isNode =>
      exact (apart identity identity' unknown ⟨_, typed registered known, isNode⟩).elim
    | answered identity' _ _ last' answer' =>
      cases identity.symm.trans identity'
      cases last.symm.trans last'
      cases answer.symm.trans answer'
      exact ⟨rfl, rfl, rfl, rfl⟩
    | kept identity' _ _ last' answer' =>
      cases identity.symm.trans identity'
      cases last.symm.trans last'
      cases answer.symm.trans answer'
  | kept identity unknown free last answer =>
    cases h' with
    | given identity' => cases identity.symm.trans identity'
    | cached identity' type => exact (apart identity identity' unknown type).elim
    | constructed identity' registered known isNode =>
      exact (apart identity identity' unknown ⟨_, typed registered known, isNode⟩).elim
    | kept identity' _ _ last' answer' =>
      cases identity.symm.trans identity'
      cases last.symm.trans last'
      cases answer.symm.trans answer'
      exact ⟨rfl, rfl, rfl, rfl⟩
    | answered identity' _ _ last' answer' =>
      cases identity.symm.trans identity'
      cases last.symm.trans last'
      cases answer.symm.trans answer'

/-- What is told about a resolution is determined by it. -/
theorem Course.unique {visit visit' : Visit ρ σ} (h : Course r w visit u)
    (h' : Course r w visit' u') (declared : visit.declaration = visit'.declaration)
    (owned : visit.owner = visit'.owner) :
    visit.reached = visit'.reached ∧ visit.constructed = visit'.constructed ∧
      visit.boot = visit'.boot := by
  cases h with
  | backed _ offers boots | unbooted offers boots =>
    cases h' with
    | backed _ offers' boots' | unbooted offers' boots' =>
      cases declared
      cases owned
      obtain ⟨rfl, rfl, rfl, rfl⟩ := offers.unique offers'
      exact ⟨rfl, rfl, boots.unique boots'⟩
    | bare nothing =>
      cases declared
      cases owned
      exact absurd offers (nothing _ _ _ _)
    | failed nothing =>
      cases owned
      exact absurd offers (nothing _ declared.symm _ _ _ _)
  | bare nothing =>
    cases h' with
    | backed _ offers | unbooted offers =>
      cases declared
      cases owned
      exact absurd offers (nothing _ _ _ _)
    | bare | failed => exact ⟨rfl, rfl, rfl⟩
  | failed nothing =>
    cases h' with
    | backed _ offers | unbooted offers =>
      cases owned
      exact absurd offers (nothing _ declared _ _ _ _)
    | bare | failed => exact ⟨rfl, rfl, rfl⟩

end Unique

section Effects

variable {key : String} {i : Instance ρ σ} {constructed : Option (String × String)}
  {w' : Workspace ρ σ} {visit : Visit ρ σ}

omit [Record ρ σ] in
theorem Boots.instance? {outcome : Option (Except Fault Unit)} (h : Boots i owner w outcome w')
    (k : String) : w'.cache.instance? k = w.cache.instance? k := by
  cases h <;> rfl

omit [Record ρ σ] in
theorem Steps.instance? {argsKey : String} {s : Compiled ρ σ} (h : Steps key argsKey w s w')
    (k : String) : w'.cache.instance? k = w.cache.instance? k := by
  cases h with
  | cached => rfl
  | compiled run new => exact w.cache.instance?_keepStep ..

omit [Record ρ σ] in
theorem Steps.stored {argsKey : String} {s : Compiled ρ σ} (h : Steps key argsKey w s w') :
    w'.cache.step? key argsKey = some s := by
  cases h with
  | cached there => exact there
  | compiled run new =>
    simp [new]

theorem Offers.instance? (h : Offers r owner request w key i constructed w') (k : String) :
    w'.cache.instance? k = w.cache.instance? k := by
  cases h <;> rfl

/-- Where there is an instance, none is constructed. -/
theorem Offers.constructed_new {p : String × String}
    (h : Offers r owner request w key i (some p) w') : w.cache.instance? key = none := by
  cases h
  assumption

/-- The entry that a resolution comes to has the instance that it came to. -/
theorem Course.stored (h : Course r w visit w') (reached : visit.reached = some (key, i)) :
    w'.cache.instance? key = some i := by
  cases h with
  | backed className offers boots fine steps =>
    cases reached
    simp [steps.instance?, boots.instance?]
  | unbooted offers boots =>
    cases reached
    simp [boots.instance?]
  | bare => cases reached
  | failed => cases reached

/-- An instance that is in an entry already is the one that a resolution comes to there. -/
theorem Course.kept {j : Instance ρ σ} (h : Course r w visit w')
    (reached : visit.reached = some (key, i)) (there : w.cache.instance? key = some j) :
    i = j ∧ visit.constructed = none := by
  have unconstructed {request : Request ρ σ} {owner : ρ} {offered : Instance ρ σ}
      {constructed : Option (String × String)} {w₁ : Workspace ρ σ}
      (offers : Offers r owner request w key offered constructed w₁) :
      (w₁.store key offered).1 = j ∧ constructed = none := by
    rw [Workspace.store_of_some ((offers.instance? key).trans there)]
    refine ⟨rfl, ?_⟩
    cases constructed with
    | none => rfl
    | some p => cases there.symm.trans offers.constructed_new
  cases h with
  | backed className offers boots fine steps =>
    cases reached
    exact unconstructed offers
  | unbooted offers boots =>
    cases reached
    exact unconstructed offers
  | bare => cases reached
  | failed => cases reached

/-- Every other entry keeps its instance, and the one that a resolution comes to had it before or
gets what is on offer. -/
theorem Course.instance?_cases (h : Course r w visit w') (found : w'.cache.instance? key = some i) :
    w.cache.instance? key = some i ∨ ∃ request constructed w₁, visit.declaration = .node request ∧
      Offers r visit.owner request w key i constructed w₁ := by
  have offered {owner : ρ} {request : Request ρ σ} {k : String} {offered : Instance ρ σ}
      {constructed : Option (String × String)} {w₁ : Workspace ρ σ}
      (offers : Offers r owner request w k offered constructed w₁)
      (found : (w₁.store k offered).2.cache.instance? key = some i) :
      w.cache.instance? key = some i ∨ ∃ request' constructed w₁, request = request' ∧
        Offers r owner request' w key i constructed w₁ := by
    obtain before | ⟨-, rfl, rfl⟩ := Cache.keepInstance_cases found
    · exact .inl ((offers.instance? key).symm.trans before)
    · exact .inr ⟨request, constructed, w₁, rfl, offers⟩
  cases h with
  | backed className offers boots fine steps =>
    rw [steps.instance?, boots.instance?] at found
    obtain there | ⟨request, constructed, w₁, rfl, offers⟩ := offered offers found
    · exact .inl there
    · exact .inr ⟨_, constructed, w₁, rfl, offers⟩
  | unbooted offers boots =>
    rw [boots.instance?] at found
    obtain there | ⟨request, constructed, w₁, rfl, offers⟩ := offered offers found
    · exact .inl there
    · exact .inr ⟨_, constructed, w₁, rfl, offers⟩
  | bare nothing unknown steps =>
    rw [steps.instance?] at found
    exact .inl found
  | failed nothing => exact .inl found

/-- A leaf with an instance is one for the entry that the resolution came to. -/
theorem Course.backed_reached {l : Leaf ρ σ} (h : Course r w visit w')
    (result : visit.result = .ok l) (backing : l.backing = some i) :
    ∃ request key, visit.declaration = .node request ∧ visit.reached = some (key, i) ∧
      w'.cache.step? key (Arg.key request.callArgs) = some l.step := by
  cases h with
  | backed className offers boots fine steps =>
    cases result
    cases backing
    exact ⟨_, _, rfl, rfl, steps.stored⟩
  | unbooted => cases result
  | bare =>
    cases result
    cases backing
  | failed => cases result

/-- The key of the entry that a resolution comes to, if a ready-made node or a type is declared. -/
inductive HasInstanceKey (r : Resolver ρ σ) (request : Request ρ σ) : String → Prop
  | given {label : String} {t : Transformer ρ σ} (identity : request.identity = .given label t) :
      HasInstanceKey r request (instanceKey t.name (.given label))
  | type {name : String} (identity : request.identity = .named name) (type : r.IsType name) :
      HasInstanceKey r request (typeKey name request.constructorArgs)

theorem Offers.key_eq (h : Offers r owner request w key i constructed w') {k : String}
    (keyed : HasInstanceKey r request k) : key = k := by
  have known {name : String} (type : r.IsType name) : r.info? name ≠ none := by
    obtain ⟨info, known, -⟩ := type
    rw [known]
    nofun
  cases keyed with
  | given identity =>
    cases h with
    | given identity' =>
      cases identity.symm.trans identity'
      rfl
    | cached identity' | constructed identity' | answered identity' | kept identity' =>
      cases identity.symm.trans identity'
  | type identity type =>
    cases h with
    | given identity' => cases identity.symm.trans identity'
    | cached identity' | constructed identity' =>
      cases identity.symm.trans identity'
      rfl
    | answered identity' unknown | kept identity' unknown =>
      cases identity.symm.trans identity'
      exact absurd unknown (known type)

/-- Declarations of ready-made nodes and of types come to their entry if that has an instance, or if
they succeed. -/
theorem Course.reached_key (h : Course r w visit w') (declared : visit.declaration = .node request)
    (keyed : HasInstanceKey r request key)
    (comes : (∃ i, w.cache.instance? key = some i) ∨ ∃ l, visit.result = .ok l) :
    ∃ i, visit.reached = some (key, i) ∧ ∀ l, visit.result = .ok l → l.backing = some i := by
  cases h with
  | backed className offers boots fine steps =>
    cases declared
    obtain rfl := offers.key_eq keyed
    refine ⟨_, rfl, ?_⟩
    rintro _ ⟨⟩
    rfl
  | unbooted offers boots =>
    cases declared
    obtain rfl := offers.key_eq keyed
    exact ⟨_, rfl, nofun⟩
  | bare nothing unknown steps =>
    cases declared
    cases keyed with
    | given identity => exact absurd (.given identity) (nothing _ _ _ _)
    | type identity type =>
      obtain ⟨info, known, -⟩ := type
      cases known.symm.trans (unknown _ identity)
  | failed nothing =>
    obtain ⟨i, there⟩ | ⟨l, ok⟩ := comes
    · cases keyed with
      | given identity => exact absurd (.given identity) (nothing _ declared _ _ _ _)
      | type identity type =>
        exact absurd (.cached identity type there) (nothing _ declared _ _ _ _)
    · cases ok

end Effects

/-- A run of resolutions, with whatever happens to the state of running nodes between them. -/
inductive Runs (r : Resolver ρ σ) (start : Workspace ρ σ) :
    List (Visit ρ σ) → Workspace ρ σ → Prop
  | none : Runs r start [] start
  | call {past : List (Visit ρ σ)} {visit : Visit ρ σ} {w w' : Workspace ρ σ}
      (before : Runs r start past w)
      (ran : r.resolve visit.declaration visit.owner w = (visit.result, w'))
      (course : Course r w visit w') : Runs r start (past ++ [visit]) w'
  | other {past : List (Visit ρ σ)} {w : Workspace ρ σ} (before : Runs r start past w)
      (state : RunState σ) : Runs r start past { w with run := state }

/-- However declarations are resolved one after the other, that is a run. -/
theorem exists_runs (r : Resolver ρ σ) (start : Workspace ρ σ)
    (calls : List (Declaration ρ σ × ρ)) :
    ∃ past w, past.map (fun visit => (visit.declaration, visit.owner)) = calls ∧
      Runs r start past w := by
  induction calls using List.reverseRecOn with
  | nil => exact ⟨[], start, rfl, .none⟩
  | append_singleton calls call ih =>
    obtain ⟨past, w, rfl, before⟩ := ih
    obtain ⟨d, owner⟩ := call
    obtain ⟨visit, w', rfl, rfl, course, ran⟩ := r.exists_course d owner w
    exact ⟨past ++ [visit], w', List.map_append, .call before ran course⟩

namespace Runs

variable {start : Workspace ρ σ} {past rest : List (Visit ρ σ)}

/-- A run is cut at each of its resolutions. -/
theorem at_visit {visit : Visit ρ σ} {w : Workspace ρ σ}
    (h : Runs r start (past ++ visit :: rest) w) :
    ∃ u u', Runs r start past u ∧ r.resolve visit.declaration visit.owner u = (visit.result, u') ∧
      Course r u visit u' ∧ Runs r u' rest w := by
  generalize whole : past ++ visit :: rest = visits at h
  induction h generalizing rest with
  | none => simp at whole
  | @call before last u u' run ran course ih =>
    cases rest using List.reverseRecOn with
    | nil =>
      obtain ⟨rfl, rfl⟩ := List.append_singleton_inj.mp whole
      exact ⟨u, u', run, ran, course, .none⟩
    | append_singleton rest final =>
      rw [← List.cons_append, ← List.append_assoc] at whole
      obtain ⟨rfl, rfl⟩ := List.append_singleton_inj.mp whole
      obtain ⟨v, v', first, ran', course', more⟩ := ih rfl
      exact ⟨v, v', first, ran', course', .call more ran course⟩
  | other run state ih =>
    obtain ⟨v, v', first, ran, course, more⟩ := ih whole
    exact ⟨v, v', first, ran, course, .other more state⟩

/-- Nothing is lost from the cache in the course of a run. -/
theorem grows {w : Workspace ρ σ} (h : Runs r start past w) : start.cache.Grows w.cache := by
  induction h with
  | none => exact .refl _
  | call before ran course ih => exact ih.trans ((r.lossless_resolve ..).after ran).grows
  | other before state ih => exact ih

end Runs

end Resolver

end FieldPipeline
