import FieldPipeline.Proofs.Jobs

namespace FieldPipeline

open Outcome

variable {ρ σ : Type}

/-- Where the meaning of a name is looked up. -/
inductive Place where
  | type
  | method
  | fallback
deriving DecidableEq, Repr

/-- What a name stands for: a cache entry, a class and, if it is one, a method of the record. -/
structure Choice where
  key : String
  className : String
  method : Option String := none
deriving DecidableEq, Repr

/-- What was chosen for a declaration, whichever instance or callable serves it. -/
def Resolution.choice? : Resolution ρ σ → Option Choice
  | node key _ className => some { key, className }
  | method key called _ className => some { key, className, method := some called }
  | raw key _ className => some { key, className }
  | unresolved => none

namespace Resolver

/-- What the last resort answers, and the state that it leaves. -/
def lastAnswer (r : Resolver ρ σ) (name : String) (request : Request ρ σ) (owner : ρ)
    (s : RunState σ) : Option (Fallback ρ σ) × RunState σ :=
  match r.fallback with
  | none => (none, s)
  | some resolve => resolve name request owner s

theorem lastAnswer_of_some {r : Resolver ρ σ} {name : String} {request : Request ρ σ} {owner : ρ}
    {s : RunState σ} {resolve : FallbackResolver ρ σ} {answer : Option (Fallback ρ σ) × RunState σ}
    (last : r.fallback = some resolve) (asked : resolve name request owner s = answer) :
    r.lastAnswer name request owner s = answer := by
  rw [lastAnswer, last]
  exact asked

theorem lastAnswer_eq_some {r : Resolver ρ σ} {name : String} {request : Request ρ σ} {owner : ρ}
    {s s' : RunState σ} {answer : Fallback ρ σ}
    (h : r.lastAnswer name request owner s = (some answer, s')) :
    ∃ resolve, r.fallback = some resolve ∧ resolve name request owner s = (some answer, s') := by
  rw [lastAnswer] at h
  cases last : r.fallback with
  | none =>
    rw [last] at h
    cases h
  | some resolve =>
    rw [last] at h
    exact ⟨resolve, rfl, h⟩

variable [Record ρ σ]

/-- The first place where there is something of that name. -/
def place (r : Resolver ρ σ) (owner : ρ) (name : String) : Place :=
  if (r.info? name).isSome then .type
  else if (Record.arity? owner (methodName name)).isSome then .method
  else .fallback

/-- What is chosen for a name that is found in a place. -/
def choice (owner : ρ) (request : Request ρ σ) (name : String) : Place → Choice
  | .type => { key := typeKey name request.constructorArgs, className := name }
  | .method =>
    { key := methodKey (Record.typeName owner) (methodName name)
      className := Record.typeName owner, method := some (methodName name) }
  | .fallback => { key := fallbackKey name request.constructorArgs, className := name }

/-- The choice for a name, given whether the last resort has an answer. -/
def choice? (r : Resolver ρ σ) (owner : ρ) (request : Request ρ σ) (name : String)
    (answered : Bool) : Option Choice :=
  if r.place owner name = .fallback ∧ answered = false then none
  else some (choice owner request name (r.place owner name))

/-- The cache entry of a declaration, whether or not it can be resolved. -/
def entryKey (r : Resolver ρ σ) (owner : ρ) (request : Request ρ σ) : String :=
  match request.identity with
  | .given label t => instanceKey t.name (.given label)
  | .named name => (choice owner request name (r.place owner name)).key

variable {r : Resolver ρ σ} {owner : ρ} {request : Request ρ σ} {name : String}
  {w w' : Workspace ρ σ}

theorem place_type {info : Registry.TypeInfo} (known : r.info? name = some info) :
    r.place owner name = .type := by
  simp [place, known]

theorem place_method {arity : Arity} (unknown : r.info? name = none)
    (there : Record.arity? owner (methodName name) = some arity) :
    r.place owner name = .method := by
  simp [place, unknown, there]

theorem place_fallback_iff : r.place owner name = .fallback ↔
    r.info? name = none ∧ Record.arity? owner (methodName name) = none := by
  cases known : r.info? name <;>
    cases there : Record.arity? owner (methodName name) <;> simp [place, known, there]

omit [Record ρ σ] in
theorem info?_registered {registry : Registry ρ σ} {info : Registry.TypeInfo}
    (registered : r.registry = some registry) (known : registry.info? name = some info) :
    r.info? name = some info := by
  rw [info?, registered]
  exact known

/-- An instance is on offer for the entry of its declaration. -/
theorem Offers.entry {key : String} {i : Instance ρ σ} {constructed : Option (String × String)}
    (h : Offers r owner request w key i constructed w') : key = r.entryKey owner request := by
  cases h with
  | given identity => rw [entryKey, identity]
  | cached identity type there =>
    obtain ⟨info, known, -⟩ := type
    rw [entryKey, identity]
    dsimp only
    rw [place_type known, choice]
  | constructed identity registered known isNode new declared made =>
    rw [entryKey, identity]
    dsimp only
    rw [place_type (info?_registered registered known), choice]
  | answered identity unknown free last answer | kept identity unknown free last answer =>
    rw [entryKey, identity]
    dsimp only
    rw [place_fallback_iff.mpr ⟨unknown, free⟩, choice]

omit [Record ρ σ] in
theorem Boots.run {i : Instance ρ σ} {outcome : Option (Except Fault Unit)}
    (h : Boots i owner w outcome w') : boot i owner w = (outcome.getD (.ok ()), w') := by
  cases h with
  | before booted => exact boot_again booted owner
  | succeeded new ran => simp [boot_new new, ran]
  | failed new ran => simp [boot_new new, ran]

/-- All that can happen when the meaning of a declaration is looked up. The cache decides in none of
the cases what is chosen. -/
inductive Locates (r : Resolver ρ σ) (owner : ρ) (request : Request ρ σ) (w : Workspace ρ σ) :
    Except Fault (Resolution ρ σ) → Workspace ρ σ → Prop
  | node {key : String} {i : Instance ρ σ} {constructed : Option (String × String)}
      {outcome : Option (Except Fault Unit)} {w₁ w₂ : Workspace ρ σ}
      (offers : Offers r owner request w key i constructed w₁)
      (boots : Boots (w₁.store key i).1 owner (w₁.store key i).2 outcome w₂) :
      Locates r owner request w ((outcome.getD (.ok ())).map fun _ =>
        .node key (w₁.store key i).1 (className request (w₁.store key i).1)) w₂
  | foreign {name : String} {info : Registry.TypeInfo} (identity : request.identity = .named name)
      (known : r.info? name = some info) (notNode : info.isNode = false) :
      Locates r owner request w (.error (.configuration (.notANode name))) w
  | undeclared {name : String} {info : Registry.TypeInfo}
      (identity : request.identity = .named name) (known : r.info? name = some info)
      (isNode : info.isNode = true)
      (new : w.cache.instance? (typeKey name request.constructorArgs) = none)
      (missing : (request.constructorArgs.isNone && info.requiresArguments) = true) :
      Locates r owner request w (.error (.configuration (.argumentsMissing name))) w
  | unprepared {name : String} {registry : Registry ρ σ} {info : Registry.TypeInfo}
      {fault : Fault} {s : RunState σ} (identity : request.identity = .named name)
      (registered : r.registry = some registry) (known : registry.info? name = some info)
      (isNode : info.isNode = true)
      (new : w.cache.instance? (typeKey name request.constructorArgs) = none)
      (declared : (request.constructorArgs.isNone && info.requiresArguments) = false)
      (made : r.prepare registry name request.constructorArgs w =
        (.error fault, { w with run := s })) :
      Locates r owner request w (.error fault) { w with run := s }
  | method {name : String} {arity : Arity} (identity : request.identity = .named name)
      (unknown : r.info? name = none)
      (there : Record.arity? owner (methodName name) = some arity) :
      Locates r owner request w (.ok (.method (methodKey (Record.typeName owner) (methodName name))
        (methodName name) arity (Record.typeName owner))) w
  | raw {name : String} {run : Value → List Arg → Scope ρ → Act σ Value} {s : RunState σ}
      (identity : request.identity = .named name) (unknown : r.info? name = none)
      (free : Record.arity? owner (methodName name) = none)
      (answer : r.lastAnswer name request owner w.run = (some (.callable run), s)) :
      Locates r owner request w (.ok (.raw (fallbackKey name request.constructorArgs) run name))
        { w with run := s }
  | unresolved {name : String} {s : RunState σ} (identity : request.identity = .named name)
      (unknown : r.info? name = none) (free : Record.arity? owner (methodName name) = none)
      (answer : r.lastAnswer name request owner w.run = (none, s)) :
      Locates r owner request w (.ok .unresolved) { w with run := s }

/-- What the table says happens. -/
theorem Locates.run {result : Except Fault (Resolution ρ σ)}
    (h : Locates r owner request w result w') :
    r.locate (.node request) owner w = (result, w') := by
  cases h with
  | node offers boots => exact locate_offers offers boots.run
  | foreign identity known notNode =>
    obtain ⟨registry, registered, found⟩ := Option.bind_eq_some_iff.mp known
    exact locate_type identity (findType_foreign registered found notNode)
  | undeclared identity known isNode new missing =>
    obtain ⟨registry, registered, found⟩ := Option.bind_eq_some_iff.mp known
    exact locate_type identity (findType_undeclared registered found isNode new missing)
  | unprepared identity registered known isNode new declared made =>
    apply locate_type identity
    rw [findType_new registered known isNode new declared, instantiate_of_prepare made]
    rfl
  | method identity unknown there => exact locate_method identity unknown there
  | @raw name run s identity unknown free answer =>
    obtain ⟨resolve, last, asked⟩ := lastAnswer_eq_some answer
    exact locate_last identity unknown free (askFallback_heard last asked)
  | @unresolved name s identity unknown free answer =>
    cases last : r.fallback with
    | none =>
      rw [lastAnswer, last] at answer
      cases answer
      have nobody : r.askFallback name request owner w = (.ok none, w) := by
        simp only [askFallback, last]
        rfl
      exact locate_last identity unknown free nobody
    | some resolve =>
      rw [lastAnswer, last] at answer
      exact locate_last identity unknown free (askFallback_heard last answer)

/-- Something of the table happens. -/
theorem exists_locates (r : Resolver ρ σ) (owner : ρ) (request : Request ρ σ)
    (w : Workspace ρ σ) : ∃ result w', Locates r owner request w result w' := by
  have offered {key : String} {i : Instance ρ σ} {constructed : Option (String × String)}
      {w₁ : Workspace ρ σ} (offers : Offers r owner request w key i constructed w₁) :
      ∃ result w', Locates r owner request w result w' := by
    obtain ⟨outcome, w₂, boots, -⟩ := exists_boots (w₁.store key i).1 owner (w₁.store key i).2
    exact ⟨_, w₂, .node offers boots⟩
  cases identity : request.identity with
  | given label t => exact offered (.given identity)
  | named name =>
    cases known : r.info? name with
    | some info =>
      obtain ⟨registry, registered, found⟩ := Option.bind_eq_some_iff.mp known
      cases isNode : info.isNode with
      | false => exact ⟨_, w, .foreign identity known isNode⟩
      | true =>
        cases there : w.cache.instance? (typeKey name request.constructorArgs) with
        | some i => exact offered (.cached identity ⟨info, known, isNode⟩ there)
        | none =>
          cases declared : request.constructorArgs.isNone && info.requiresArguments with
          | true => exact ⟨_, w, .undeclared identity known isNode there declared⟩
          | false =>
            obtain ⟨result, s, made⟩ := r.prepare_frame registry name request.constructorArgs w
            cases result with
            | ok t =>
              exact offered (.constructed identity registered found isNode there declared made)
            | error fault =>
              exact ⟨_, _, .unprepared identity registered found isNode there declared made⟩
    | none =>
      cases there : Record.arity? owner (methodName name) with
      | some arity => exact ⟨_, w, .method identity known there⟩
      | none =>
        rcases answer : r.lastAnswer name request owner w.run with ⟨_ | answered, s⟩
        · exact ⟨_, _, .unresolved identity known there answer⟩
        cases answered with
        | callable run => exact ⟨_, _, .raw identity known there answer⟩
        | node t =>
          obtain ⟨resolve, last, asked⟩ := lastAnswer_eq_some answer
          exact offered (.answered identity known there last asked)
        | kept label t =>
          obtain ⟨resolve, last, asked⟩ := lastAnswer_eq_some answer
          exact offered (.kept identity known there last asked)

/-- The table is all there is to looking up the meaning of a declaration. -/
theorem locate_iff {result : Except Fault (Resolution ρ σ)} :
    r.locate (.node request) owner w = (result, w') ↔ Locates r owner request w result w' := by
  constructor
  · intro ran
    obtain ⟨result', u, table⟩ := r.exists_locates owner request w
    obtain ⟨rfl, rfl⟩ := Prod.mk.inj (ran.symm.trans table.run)
    exact table
  · exact Locates.run

theorem Offers.chosen {key : String} {i : Instance ρ σ} {constructed : Option (String × String)}
    (h : Offers r owner request w key i constructed w') (named : request.identity = .named name) :
    r.choice? owner request name (r.lastAnswer name request owner w.run).1.isSome =
      some { key, className := name } := by
  cases h with
  | given identity => cases named.symm.trans identity
  | cached identity type there =>
    cases named.symm.trans identity
    obtain ⟨info, known, -⟩ := type
    rw [choice?, place_type known, if_neg (by simp)]
    rfl
  | constructed identity registered known isNode new declared made =>
    cases named.symm.trans identity
    rw [choice?, place_type (info?_registered registered known), if_neg (by simp)]
    rfl
  | answered identity unknown free last answer | kept identity unknown free last answer =>
    cases named.symm.trans identity
    rw [choice?, place_fallback_iff.mpr ⟨unknown, free⟩, lastAnswer_of_some last answer,
      if_neg (by simp)]
    rfl

/-- What is chosen for a name is settled by what is registered, by the record, and by whether the
last resort has an answer. -/
theorem Locates.chosen {found : Resolution ρ σ} (h : Locates r owner request w (.ok found) w')
    (named : request.identity = .named name) :
    found.choice? = r.choice? owner request name
      (r.lastAnswer name request owner w.run).1.isSome := by
  generalize ended : Except.ok found = result at h
  cases h with
  | @node key i constructed outcome w₁ w₂ offers boots =>
    cases fine : outcome.getD (.ok ()) with
    | error fault =>
      rw [fine] at ended
      cases ended
    | ok =>
      rw [fine] at ended
      cases ended
      rw [offers.chosen named, Resolution.choice?, className_named named]
  | foreign | undeclared | unprepared => cases ended
  | method identity unknown there =>
    cases ended
    cases named.symm.trans identity
    rw [choice?, place_method unknown there, if_neg (by simp)]
    rfl
  | raw identity unknown free answer =>
    cases ended
    cases named.symm.trans identity
    rw [choice?, place_fallback_iff.mpr ⟨unknown, free⟩, answer, if_neg (by simp)]
    rfl
  | unresolved identity unknown free answer =>
    cases ended
    cases named.symm.trans identity
    rw [choice?, place_fallback_iff.mpr ⟨unknown, free⟩, answer, if_pos ⟨rfl, rfl⟩]
    rfl

/-- A registered name stands for an instance of its type or for nothing. -/
theorem Locates.typed {info : Registry.TypeInfo} {result : Except Fault (Resolution ρ σ)}
    (h : Locates r owner request w result w') (named : request.identity = .named name)
    (known : r.info? name = some info) :
    (∃ i, result = .ok (.node (typeKey name request.constructorArgs) i name)) ∨
      ∃ fault, result = .error fault := by
  have registered {other : String} (identity : request.identity = .named other)
      (unknown : r.info? other = none) : False := by
    cases named.symm.trans identity
    cases known.symm.trans unknown
  cases h with
  | @node key i constructed outcome w₁ w₂ offers boots =>
    cases outcome.getD (.ok ()) with
    | error fault => exact .inr ⟨fault, rfl⟩
    | ok =>
      have place := offers.entry
      simp only [entryKey, named, place_type known, choice] at place
      rw [className_named named, place]
      exact .inl ⟨_, rfl⟩
  | foreign | undeclared | unprepared => exact .inr ⟨_, rfl⟩
  | method identity unknown | raw identity unknown | unresolved identity unknown =>
    exact (registered identity unknown).elim

/-- What stands for something makes a leaf, with a step of the entry that was chosen. -/
theorem leaf_total {found : Resolution ρ σ} {c : Choice} (chosen : found.choice? = some c)
    (r : Resolver ρ σ) (name : String) (args : List Arg) (owner : ρ) (w : Workspace ρ σ) :
    ∃ l w', r.leaf found name args owner w = (.ok l, w') ∧
      Steps c.key (Arg.key args) w l.step w' ∧ l.className = c.className ∧ l.method = c.method := by
  cases found with
  | unresolved => cases chosen
  | node key i className =>
    cases chosen
    obtain ⟨s, w', steps, stepped⟩ :=
      exists_steps key args className (fun v scope => i.node.apply v args scope) w
    exact ⟨_, w', bind_of_ok stepped _, steps, rfl, rfl⟩
  | method key method arity className =>
    cases chosen
    obtain ⟨s, w', steps, stepped⟩ := exists_steps key args (className ++ "::" ++ method)
      (callMethod method arity args) w
    exact ⟨_, w', bind_of_ok stepped _, steps, rfl, rfl⟩
  | raw key run className =>
    cases chosen
    obtain ⟨s, w', steps, stepped⟩ :=
      exists_steps key args className (fun v scope => run v args scope) w
    exact ⟨_, w', bind_of_ok stepped _, steps, rfl, rfl⟩

/-- Where there is a leaf, something was chosen. -/
theorem leaf_chosen {found : Resolution ρ σ} {args : List Arg} {l : Leaf ρ σ}
    (h : r.leaf found name args owner w = (.ok l, w')) : ∃ c, found.choice? = some c := by
  cases found with
  | unresolved => cases h
  | node | method | raw => exact ⟨_, rfl⟩

omit [Record ρ σ] in
/-- Arguments that were not declared are told apart from all others, whatever their text. -/
theorem typeKey_undeclared {name' : String} {args : Option (List Arg)}
    (same : typeKey name args = typeKey name' none) : name = name' ∧ args = none := by
  have texts := congrArg String.toList same
  simp only [typeKey, String.toList_append, List.append_assoc] at texts
  cases args with
  | none =>
    have names := List.append_cancel_right (List.append_cancel_left texts)
    exact ⟨String.toList_inj.mp names, rfl⟩
  | some as =>
    -- The text of arguments ends with a bracket.
    have ends := congrArg List.getLast? texts
    simp [constructorKey, Arg.key, KeyTree.text, KeyTree.chars, Text.Compact.array,
      List.getLast?_cons, List.getLast?_append] at ends

/-- No entry has an instance of a type that lacks the arguments it requires. -/
def Declared (r : Resolver ρ σ) (w : Workspace ρ σ) : Prop :=
  ∀ name info, r.info? name = some info → info.requiresArguments = true →
    w.cache.instance? (typeKey name none) = none

theorem Offers.declared {name : String} {info : Registry.TypeInfo} {i : Instance ρ σ}
    {constructed : Option (String × String)}
    (h : Offers r owner request w (typeKey name none) i constructed w')
    (known : r.info? name = some info) (requires : info.requiresArguments = true) :
    w.cache.instance? (typeKey name none) = some i := by
  generalize place : typeKey name none = key at h ⊢
  cases h with
  | given => exact (typeKey_ne_instanceKey _ _ _ _ place).elim
  | cached identity type there => exact there
  | @constructed name' registry info' t s identity registered found isNode new declared made =>
    obtain ⟨rfl, undeclared⟩ := typeKey_undeclared place.symm
    obtain rfl := Option.some.inj (known.symm.trans (info?_registered registered found))
    simp [undeclared, requires] at declared
  | answered | kept => exact (typeKey_ne_fallbackKey _ _ _ _ place).elim

theorem Trail.declared {visits : List (Visit ρ σ)} (h : Trail r w visits w')
    (held : r.Declared w) : r.Declared w' := by
  induction h with
  | quiet still =>
    intro name info known requires
    rw [Cache.instance?_congr still.entries]
    exact held name info known requires
  | visit ran course =>
    intro name info known requires
    have before := held name info known requires
    rw [Option.eq_none_iff_forall_ne_some] at before ⊢
    intro i found
    obtain there | ⟨request, constructed, u, -, offers⟩ := course.instance?_cases found
    · exact before i there
    · exact before i (offers.declared known requires)
  | append first next ih ih' => exact ih' (ih held)

theorem declared_jobs {p : Processor ρ σ} {start : Workspace ρ σ} (fresh : start.cache = {})
    (jobs : List (Job ρ σ)) : p.resolver.Declared (jobs.foldl p.afterJob start) := by
  refine Processor.jobs_keep (I := p.resolver.Declared) Trail.declared ?_ ?_ jobs ?_
  · intro w key held name info known requires
    simp [held name info known requires]
  · intro w held name info known requires
    rfl
  · intro name info known requires
    rw [fresh]
    rfl

section Named

variable (named : request.identity = .named name)

include named

/-- A type that requires arguments is not constructed without them. -/
theorem locate_undeclared {info : Registry.TypeInfo} (held : r.Declared w)
    (known : r.info? name = some info) (isNode : info.isNode = true)
    (undeclared : request.constructorArgs = none) (requires : info.requiresArguments = true) :
    r.locate (.node request) owner w =
      (.error (.configuration (.argumentsMissing name)), w) := by
  have new : w.cache.instance? (typeKey name request.constructorArgs) = none := by
    rw [undeclared]
    exact held name info known requires
  exact (Locates.undeclared named known isNode new (by simp [undeclared, requires])).run

/-- A fault of the constructor, or of what fills an instance, is the fault of the look-up. -/
theorem locate_unprepared {registry : Registry ρ σ} {info : Registry.TypeInfo} {fault : Fault}
    {s : RunState σ} (registered : r.registry = some registry) (known : r.info? name = some info)
    (isNode : info.isNode = true)
    (declared : request.constructorArgs = none → info.requiresArguments = false)
    (new : w.cache.instance? (typeKey name request.constructorArgs) = none)
    (made : r.prepare registry name request.constructorArgs w =
      (.error fault, { w with run := s })) :
    r.locate (.node request) owner w = (.error fault, { w with run := s }) := by
  have found : registry.info? name = some info := by
    rw [info?, registered] at known
    exact known
  have complete : (request.constructorArgs.isNone && info.requiresArguments) = false := by
    cases args : request.constructorArgs with
    | none => exact declared args
    | some as => rfl
  exact (Locates.unprepared named registered found isNode new complete made).run

/-- An instance on offer is stored and booted, and a fault of its boot is the fault of the
look-up. -/
theorem locate_booted {key : String} {i : Instance ρ σ} {constructed : Option (String × String)}
    {outcome : Except Fault Unit} {w₁ w₂ : Workspace ρ σ}
    (offers : Offers r owner request w key i constructed w₁)
    (booted : boot (w₁.store key i).1 owner (w₁.store key i).2 = (outcome, w₂)) :
    r.locate (.node request) owner w =
      (outcome.map fun _ => .node key (w₁.store key i).1 name, w₂) := by
  have located := locate_offers offers booted
  rwa [className_named named] at located

/-- A leaf has a step of the entry that was chosen for its name. -/
theorem resolve_chosen {l : Leaf ρ σ} (resolved : r.resolve (.node request) owner w = (.ok l, w')) :
    ∃ c, r.choice? owner request name (r.lastAnswer name request owner w.run).1.isSome = some c ∧
      l.className = c.className ∧ l.method = c.method ∧
      w'.cache.step? c.key (Arg.key request.callArgs) = some l.step := by
  obtain ⟨found, u, located, made⟩ := bind_eq_ok.mp resolved
  obtain ⟨c, chosen⟩ := leaf_chosen made
  obtain ⟨l', u', made', steps, className, method⟩ :=
    leaf_total chosen r (Declaration.node request).name request.callArgs owner u
  cases made.symm.trans made'
  exact ⟨c, ((locate_iff.mp located).chosen named).symm.trans chosen, className, method,
    steps.stored⟩

variable (unknown : r.info? name = none) (free : Record.arity? owner (methodName name) = none)
  {s : RunState σ}

include unknown free

/-- A name that stands for nothing is an error for whoever needs a leaf. -/
theorem resolve_unheard (silent : r.lastAnswer name request owner w.run = (none, s)) :
    r.resolve (.node request) owner w = (.error (.configuration (.unresolved name
      (Record.typeName owner) (methodName name) r.registry.isNone)), { w with run := s }) := by
  rw [resolve, bind_of_ok (Locates.unresolved named unknown free silent).run, Declaration.name,
    named]
  rfl

/-- A node that the last resort answers with is on offer. -/
theorem exists_offers_last {answer : Fallback ρ σ} (isNode : answer.isNode = true)
    (heard : r.lastAnswer name request owner w.run = (some answer, s)) :
    ∃ i n, Offers r owner request w (fallbackKey name request.constructorArgs) i none
      { w with run := s, issued := n } := by
  obtain ⟨resolve, last, asked⟩ := lastAnswer_eq_some heard
  cases answer with
  | node t => exact ⟨_, _, .answered named unknown free last asked⟩
  | kept label t => exact ⟨_, w.issued, .kept named unknown free last asked⟩
  | callable run => cases isNode

end Named

/-- What a name stands for, with everything that can go wrong on the way. -/
theorem locate_precedence {p : Processor ρ σ} {start : Workspace ρ σ} (fresh : start.cache = {})
    (jobs : List (Job ρ σ)) (owner : ρ) {request : Request ρ σ} {name : String}
    (named : request.identity = .named name) :
    let r := p.resolver
    let w := jobs.foldl p.afterJob start
    let locate := r.locate (.node request) owner
    let type := typeKey name request.constructorArgs
    let last := fallbackKey name request.constructorArgs
    let method := methodName name
    -- A registered name is one of its type, or an error.
    (∀ info, r.info? name = some info →
      (∀ result w', locate w = (result, w') →
        (∃ i, result = .ok (.node type i name)) ∨ ∃ fault, result = .error fault) ∧
      (info.isNode = false → locate w = (.error (.configuration (.notANode name)), w)) ∧
      (info.isNode = true → request.constructorArgs = none → info.requiresArguments = true →
        locate w = (.error (.configuration (.argumentsMissing name)), w)) ∧
      (∀ registry fault s, r.registry = some registry → info.isNode = true →
        (request.constructorArgs = none → info.requiresArguments = false) →
        w.cache.instance? type = none →
        r.prepare registry name request.constructorArgs w = (.error fault, { w with run := s }) →
        locate w = (.error fault, { w with run := s })) ∧
      (∀ i constructed w₁ fault w₂, Offers r owner request w type i constructed w₁ →
        boot (w₁.store type i).1 owner (w₁.store type i).2 = (.error fault, w₂) →
        locate w = (.error fault, w₂))) ∧
    -- Any other name is that of a method, if the record has it, whatever the last resort would say.
    (r.info? name = none → ∀ arity, Record.arity? owner method = some arity →
      locate w = (.ok (.method (methodKey (Record.typeName owner) method) method arity
        (Record.typeName owner)), w)) ∧
    -- What is left is up to the last resort.
    (r.info? name = none → Record.arity? owner method = none → ∀ answer s,
      r.lastAnswer name request owner w.run = (answer, s) →
      (answer = none → locate w = (.ok .unresolved, { w with run := s }) ∧
        r.resolve (.node request) owner w = (.error (.configuration (.unresolved name
          (Record.typeName owner) method r.registry.isNone)), { w with run := s })) ∧
      (∀ run, answer = some (.callable run) →
        locate w = (.ok (.raw last run name), { w with run := s })) ∧
      (∀ a, answer = some a → a.isNode = true → ∃ i n, Offers r owner request w last i none
          { w with run := s, issued := n } ∧
        let stored := Workspace.store { w with run := s, issued := n } last i
        ∀ outcome w₂, boot stored.1 owner stored.2 = (outcome, w₂) →
          locate w = (outcome.map fun _ => .node last stored.1 name, w₂))) ∧
    -- The cache, whatever it has, takes no part in the choice.
    (∀ found w', locate w = (.ok found, w') → found.choice? =
      r.choice? owner request name (r.lastAnswer name request owner w.run).1.isSome) ∧
    (∀ l w', r.resolve (.node request) owner w = (.ok l, w') → ∃ c, r.choice? owner request name
        (r.lastAnswer name request owner w.run).1.isSome = some c ∧
      l.className = c.className ∧ l.method = c.method ∧
      w'.cache.step? c.key (Arg.key request.callArgs) = some l.step) := by
  intro r w locate type last method
  refine ⟨fun info known => ⟨?typed, ?foreign, ?undeclared, ?unprepared, ?unbooted⟩, ?method,
    fun unknown free answer s heard => ⟨?silent, ?callable, ?node⟩, ?chosen, ?leaf⟩
  case typed => exact fun result w' located => (locate_iff.mp located).typed named known
  case foreign => exact fun notNode => (Locates.foreign named known notNode).run
  case undeclared => exact locate_undeclared named (declared_jobs fresh jobs) known
  case unprepared =>
    intro registry fault s registered isNode declared new made
    exact locate_unprepared named registered known isNode declared new made
  case unbooted => exact fun i constructed w₁ fault w₂ => locate_booted named
  case method => exact fun unknown arity there => (Locates.method named unknown there).run
  case silent =>
    rintro rfl
    exact ⟨(Locates.unresolved named unknown free heard).run,
      resolve_unheard named unknown free heard⟩
  case callable =>
    rintro run rfl
    exact (Locates.raw named unknown free heard).run
  case node =>
    rintro a rfl isNode
    obtain ⟨i, n, offers⟩ := exists_offers_last named unknown free isNode heard
    exact ⟨i, n, offers, fun outcome w₂ => locate_booted named offers⟩
  case chosen => exact fun found w' located => (locate_iff.mp located).chosen named
  case leaf => exact fun l w' => resolve_chosen named

/-- A type that was resolved for a record without methods goes before a method of its name, a method
goes before the last resort, and a name without an answer is an error. -/
theorem locate_precedence_trim :
    let node : Transformer Scripted.Form Scripted.Desk :=
      { name := "Trim", apply := fun v _ _ => pure v }
    let p : Processor Scripted.Form Scripted.Desk :=
      { resolver :=
        { registry := some (Registry.add [] "Trim" fun _ => pure node)
          fallback := some fun name _ _ =>
            pure (if name = "Gone" then none else some (.callable fun v _ _ => pure v)) } }
    let request (name : String) : Request Scripted.Form Scripted.Desk := { identity := .named name }
    let pass : Scripted.Method := { behaviour := .pass, takesContext := true }
    let owner : Scripted.Form := { methods := [("trim", pass), ("clip", pass)] }
    let start : Workspace Scripted.Form Scripted.Desk := { run := { app := {} } }
    let w := [Job.resolve (.node (request "Trim")) {}].foldl p.afterJob start
    (∃ i w', p.resolver.locate (.node (request "Trim")) owner w =
      (.ok (.node (typeKey "Trim" none) i "Trim"), w')) ∧
    p.resolver.locate (.node (request "Clip")) owner w =
      (.ok (.method "method:Doc::clip" "clip" .valueContext "Doc"), w) ∧
    (∃ run, p.resolver.locate (.node (request "Else")) owner w =
      (.ok (.raw (fallbackKey "Else" none) run "Else"), w)) ∧
    p.resolver.resolve (.node (request "Gone")) owner w =
      (.error (.configuration (.unresolved "Gone" "Doc" "gone" false)), w) := by
  intro node p request pass owner start w
  have fresh : start.cache = {} := rfl
  have named (name : String) : (request name).identity = .named name := rfl
  have table (name : String) :=
    locate_precedence (p := p) fresh [.resolve (.node (request "Trim")) {}] owner (named name)
  refine ⟨?_, ?_, ?_, ?_⟩
  · have fine : (p.resolver.locate (.node (request "Trim")) owner w).1 = .ok _ := rfl
    obtain ⟨i, ran⟩ | ⟨fault, ran⟩ := ((table "Trim").1 _ rfl).1 _ _ rfl
    · exact ⟨i, _, Prod.ext ran rfl⟩
    · cases fine.symm.trans ran
  · exact (table "Clip").2.1 rfl .valueContext (by decide)
  · exact ⟨_, ((table "Else").2.2.1 rfl (by decide) _ _ rfl).2.1 _ rfl⟩
  · exact (((table "Gone").2.2.1 rfl (by decide) _ _ rfl).1 rfl).2

end Resolver

end FieldPipeline
