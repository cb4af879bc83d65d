import FieldPipeline.Proofs.Impartiality
import FieldPipeline.Proofs.Precedence
import FieldPipeline.Proofs.Sharing

namespace FieldPipeline

open Outcome

variable {ρ σ α : Type}

/-- Code that leaves the trace as it finds it. -/
def Act.Quiet (body : Act σ α) : Prop :=
  ∀ s, (body s).2.trace = s.trace

namespace Transformer

/-- What a node does with its arguments. -/
def code (t : Transformer ρ σ) (args : List Arg) : Callable ρ σ :=
  fun v scope => t.apply v args scope

def Same (like : ρ → Prop) (t t' : Transformer ρ σ) : Prop :=
  ∀ args, (t.code args).Same like (t'.code args)

/-- Code that runs before the node does leaves the trace as it finds it. -/
structure Quiet (t : Transformer ρ σ) : Prop where
  fill : ∀ slot service, (t.fill slot service).Quiet
  boot : ∀ owner, (t.boot owner).Quiet

end Transformer

namespace Fallback

def node? : Fallback ρ σ → Option (Transformer ρ σ)
  | node t | kept _ t => some t
  | callable _ => none

def code (args : List Arg) : Fallback ρ σ → Callable ρ σ
  | node t | kept _ t => t.code args
  | callable run => fun v scope => run v args scope

theorem code_of_node {answer : Fallback ρ σ} {t : Transformer ρ σ} (h : answer.node? = some t)
    (args : List Arg) : answer.code args = t.code args := by
  cases answer <;> cases h <;> rfl

end Fallback

/-- What requests are resolved with: a resolver, the records that they are resolved for, which are
like the first of them, and the cache at the start. -/
structure Setting (ρ σ : Type) where
  resolver : Resolver ρ σ
  owner : ρ
  like : ρ → Prop
  asked : Request ρ σ → Prop
  cache : Cache ρ σ

namespace Setting

variable [Record ρ σ] (S : Setting ρ σ)

/-- The cache entry of a request, which is the same for all records. -/
def key (request : Request ρ σ) : String :=
  S.resolver.entryKey S.owner request

/-- The last resort may give this answer to a request. -/
def MayAnswer (request : Request ρ σ) (answer : Fallback ρ σ) : Prop :=
  ∃ name owner s s', request.identity = .named name ∧ S.like owner ∧
    S.resolver.place owner name = .fallback ∧
    S.resolver.lastAnswer name request owner s = (some answer, s')

/-- A node that may be built for a request. -/
inductive MayBuild (request : Request ρ σ) : Transformer ρ σ → Prop
  | given {label : String} {t : Transformer ρ σ} (identity : request.identity = .given label t) :
      MayBuild request t
  | constructed {name : String} {registry : Registry ρ σ} {t : Transformer ρ σ}
      {s s' : RunState σ} (identity : request.identity = .named name)
      (registered : S.resolver.registry = some registry)
      (made : registry.instantiate name request.constructorArgs s = (.ok t, s')) :
      MayBuild request t
  | answered {answer : Fallback ρ σ} {t : Transformer ρ σ} (heard : S.MayAnswer request answer)
      (node : answer.node? = some t) : MayBuild request t

/-- The code behind the requests depends on values, arguments and the context only: it is the same
for all records and in all states, and leaves the trace as it finds it. So is what the cache has at
the start. -/
structure Impartial : Prop where
  /-- Nodes that are built for one name with the same arguments do the same. -/
  nodes : ∀ {q q' t t'}, S.asked q → S.asked q' → q.identity = q'.identity →
    q.constructorArgs = q'.constructorArgs → S.MayBuild q t → S.MayBuild q' t' → t.Same S.like t'
  /-- So do the answers of the last resort to one request. -/
  answers : ∀ {q answer answer'}, S.asked q → S.MayAnswer q answer → S.MayAnswer q answer' →
    (answer.code q.callArgs).Same S.like (answer'.code q.callArgs)
  methods : ∀ {q name arity}, S.asked q → q.identity = .named name →
    S.resolver.place S.owner name = .method →
    Record.arity? S.owner (methodName name) = some arity →
    (Resolver.callMethod (methodName name) arity q.callArgs : Callable ρ σ).Same S.like
      (Resolver.callMethod (methodName name) arity q.callArgs)
  builds : ∀ {q t}, S.asked q → S.MayBuild q t → t.Quiet
  constructs : ∀ {q name registry}, S.asked q → q.identity = .named name →
    S.resolver.registry = some registry → (registry.instantiate name q.constructorArgs).Quiet
  asks : ∀ {q name owner}, S.asked q → q.identity = .named name → S.like owner →
    ∀ s, (S.resolver.lastAnswer name q owner s).2.trace = s.trace
  steps : ∀ {q s}, S.asked q → S.cache.step? (S.key q) (Arg.key q.callArgs) = some s →
    s.run.Same S.like s.run
  instances : ∀ {q i}, S.asked q → S.cache.instance? (S.key q) = some i →
    i.node.Same S.like i.node ∧ i.node.Quiet
  /-- Where there is an instance for the last resort's answers to a request, these are of one
  kind. -/
  kinds : ∀ {q i answer answer'}, S.asked q → S.cache.instance? (S.key q) = some i →
    S.MayAnswer q answer → S.MayAnswer q answer' → answer.node?.isSome = answer'.node?.isSome

/-- No two different argument lists of the requests share a key, and labels stand for addresses. -/
structure Unmixed : Prop where
  known : ∃ nodes : String → Transformer ρ σ, ∀ q, S.asked q → Resolver.Known nodes q
  callArgs : ∀ {q q'}, S.asked q → S.asked q' → S.key q = S.key q' →
    Arg.key q.callArgs = Arg.key q'.callArgs → q.callArgs = q'.callArgs
  constructorArgs : ∀ {q q' name}, S.asked q → S.asked q' → q.identity = .named name →
    q'.identity = .named name → Resolver.constructorKey q.constructorArgs =
      Resolver.constructorKey q'.constructorArgs → q.constructorArgs = q'.constructorArgs

/-- Where nothing is cached and all requests are for registered types, it is enough that a
constructor always makes the same node of its arguments, and that this node is impartial. -/
theorem Impartial.of_registered {S : Setting ρ σ} (empty : S.cache = {})
    (last : S.resolver.fallback = none)
    (types : ∀ q, S.asked q → ∃ name, q.identity = .named name ∧
      S.resolver.place S.owner name = .type)
    (constructors : ∀ q name registry, S.asked q → q.identity = .named name →
      S.resolver.registry = some registry → ∃ t, t.Same S.like t ∧ t.Quiet ∧
        ∀ s, registry.instantiate name q.constructorArgs s = (.ok t, s)) : S.Impartial := by
  have silent {q : Request ρ σ} {answer : Fallback ρ σ} : ¬ S.MayAnswer q answer := by
    rintro ⟨name, owner, s, s', -, -, -, h⟩
    rw [Resolver.lastAnswer, last] at h
    cases h
  have built {q : Request ρ σ} {t : Transformer ρ σ} (hq : S.asked q) (h : S.MayBuild q t) :
      ∃ name registry s, q.identity = .named name ∧ S.resolver.registry = some registry ∧
        registry.instantiate name q.constructorArgs s = (.ok t, s) ∧ t.Same S.like t ∧ t.Quiet := by
    cases h with
    | given given =>
      obtain ⟨name, named, -⟩ := types q hq
      cases given.symm.trans named
    | answered heard => exact (silent heard).elim
    | @constructed name registry t s s' identity registered made =>
      obtain ⟨t', same, quiet, always⟩ := constructors q name registry hq identity registered
      cases made.symm.trans (always s)
      exact ⟨name, registry, s, identity, registered, always s, same, quiet⟩
  constructor
  case nodes =>
    intro q q' t t' hq hq' identities args h h'
    obtain ⟨name, registry, s, identity, registered, made, same, -⟩ := built hq h
    obtain ⟨name', registry', s', identity', registered', made', -⟩ := built hq' h'
    cases registered.symm.trans registered'
    cases identity.symm.trans (identities.trans identity')
    obtain ⟨u, -, -, always⟩ := constructors q name registry hq identity registered
    cases made.symm.trans (always s)
    rw [args] at always
    cases made'.symm.trans (always s')
    exact same
  case answers => exact fun _ heard => (silent heard).elim
  case methods =>
    intro q name arity hq identity place
    obtain ⟨name', identity', type⟩ := types q hq
    cases identity.symm.trans identity'
    cases place.symm.trans type
  case builds =>
    intro q t hq h
    obtain ⟨-, -, -, -, -, -, -, quiet⟩ := built hq h
    exact quiet
  case constructs =>
    intro q name registry hq identity registered s
    obtain ⟨t, -, -, always⟩ := constructors q name registry hq identity registered
    rw [always]
  case asks =>
    intro q name owner _ _ _ s
    rw [Resolver.lastAnswer, last]
  case steps =>
    intro q s _ there
    rw [empty] at there
    cases there
  case instances =>
    intro q i _ there
    rw [empty] at there
    cases there
  case kinds => exact fun _ _ heard => (silent heard).elim

/-- An instance that an entry may have in a cache that grew from the first one. -/
def MayHoldInstance (key : String) (i : Instance ρ σ) : Prop :=
  S.cache.instance? key = some i ∨
    S.cache.instance? key = none ∧ ∃ q, S.asked q ∧ S.key q = key ∧ S.MayBuild q i.node

/-- What a new step for a request may run. -/
def MayRun (q : Request ρ σ) (run : Callable ρ σ) : Prop :=
  match q.identity with
  | .given .. =>
    ∃ i, S.MayHoldInstance (S.key q) i ∧ run = (i.node.code q.callArgs).asNode i.node.name
  | .named name =>
    match S.resolver.place S.owner name with
    | .type => ∃ i, S.MayHoldInstance (S.key q) i ∧ run = (i.node.code q.callArgs).asNode name
    | .method =>
      ∃ arity, Record.arity? S.owner (methodName name) = some arity ∧
        run = (Resolver.callMethod (methodName name) arity q.callArgs).asNode
          (Record.typeName S.owner ++ "::" ++ methodName name)
    | .fallback =>
      ∃ answer, S.MayAnswer q answer ∧
        ((answer.node?.isSome = true ∧
            ∃ i, S.MayHoldInstance (S.key q) i ∧ run = (i.node.code q.callArgs).asNode name) ∨
          answer.node?.isSome = false ∧ run = (answer.code q.callArgs).asNode name)

/-- What was found makes a step that a request may have, in its own entry. -/
def MayFind (q : Request ρ σ) : Resolution ρ σ → Prop
  | .node key i className =>
    key = S.key q ∧ S.MayRun q ((i.node.code q.callArgs).asNode className)
  | .method key method arity className =>
    key = S.key q ∧ S.MayRun q
      ((Resolver.callMethod method arity q.callArgs).asNode (className ++ "::" ++ method))
  | .raw key run className =>
    key = S.key q ∧ S.MayRun q
      (Callable.asNode className fun v scope => run v q.callArgs scope)
  | .unresolved => True

/-- A step that an entry may have for some arguments in a cache that grew from the first one. -/
def MayHoldStep (key argsKey : String) (s : Compiled ρ σ) : Prop :=
  S.cache.step? key argsKey = some s ∨
    S.cache.step? key argsKey = none ∧
      ∃ q, S.asked q ∧ S.key q = key ∧ Arg.key q.callArgs = argsKey ∧ S.MayRun q s.run

/-- A cache that came about from the first one by resolving requests. -/
structure GrownByResolution (c : Cache ρ σ) : Prop where
  grows : S.cache.Grows c
  instances : ∀ {key i}, c.instance? key = some i → S.MayHoldInstance key i
  steps : ∀ {key argsKey s}, c.step? key argsKey = some s → S.MayHoldStep key argsKey s

theorem grownByResolution_refl : S.GrownByResolution S.cache :=
  ⟨.refl _, .inl, .inl⟩

/-- Where a request is looked up, unless it has its node with it. -/
def place? (q : Request ρ σ) : Option Place :=
  match q.identity with
  | .given .. => none
  | .named name => some (S.resolver.place S.owner name)

/-- Keys of entries begin differently for different places. -/
theorem key_initial (q : Request ρ σ) : (S.key q).toList.head? =
    some (match S.place? q with
      | none => 'i'
      | some .type => 't'
      | some .method => 'm'
      | some .fallback => 'f') := by
  rw [key, Resolver.entryKey, place?]
  cases q.identity with
  | given label t => simp [Resolver.instanceKey]
  | named name =>
    dsimp only
    cases S.resolver.place S.owner name <;>
      simp [Resolver.choice, Resolver.typeKey, Resolver.methodKey, Resolver.fallbackKey]

variable {S} {q q' : Request ρ σ}

theorem place?_of_key (same : S.key q = S.key q') : S.place? q = S.place? q' := by
  have initials := S.key_initial q'
  rw [← same, S.key_initial q] at initials
  generalize S.place? q = place at initials ⊢
  generalize S.place? q' = place' at initials ⊢
  obtain _ | _ | _ | _ := place <;> obtain _ | _ | _ | _ := place' <;> simp at initials ⊢

/-- How requests can come to share an entry. -/
inductive SharesEntry (S : Setting ρ σ) (q q' : Request ρ σ) : Prop
  | given {label : String} {t : Transformer ρ σ} (identity : q.identity = .given label t)
      (identity' : q'.identity = .given label t)
  | named {name : String} (identity : q.identity = .named name)
      (identity' : q'.identity = .named name) (place : S.resolver.place S.owner name ≠ .method)
      (args : q.constructorArgs = q'.constructorArgs)
  | method {name name' : String} (identity : q.identity = .named name)
      (identity' : q'.identity = .named name') (place : S.resolver.place S.owner name = .method)
      (place' : S.resolver.place S.owner name' = .method)
      (same : methodName name = methodName name')

theorem Unmixed.kin (unmixed : S.Unmixed) (hq : S.asked q) (hq' : S.asked q')
    (same : S.key q = S.key q') : S.SharesEntry q q' := by
  obtain ⟨nodes, known⟩ := unmixed.known
  have places := place?_of_key same
  cases identity : q.identity with
  | given label t =>
    cases identity' : q'.identity with
    | named name' => simp [place?, identity, identity'] at places
    | given label' t' =>
      simp only [key, Resolver.entryKey, identity, identity'] at same
      obtain ⟨plain, rfl⟩ := (known q hq).label _ _ identity
      obtain ⟨plain', rfl⟩ := (known q' hq').label _ _ identity'
      obtain rfl := Resolver.instanceKey_inj plain plain' same
      exact .given identity identity'
  | named name =>
    cases identity' : q'.identity with
    | given label' t' => simp [place?, identity, identity'] at places
    | named name' =>
      simp only [place?, identity, identity', Option.some.injEq] at places
      simp only [key, Resolver.entryKey, identity, identity', ← places] at same
      cases place : S.resolver.place S.owner name with
      | type =>
        simp only [place, Resolver.choice] at same
        obtain ⟨rfl, keys⟩ :=
          (Resolver.typeKey_eq_iff (known q hq).args (known q' hq').args).mp same
        exact .named identity identity' (by simp [place])
          (unmixed.constructorArgs hq hq' identity identity' keys)
      | fallback =>
        simp only [place, Resolver.choice] at same
        obtain ⟨rfl, keys⟩ :=
          (Resolver.fallbackKey_eq_iff (known q hq).args (known q' hq').args).mp same
        exact .named identity identity' (by simp [place])
          (unmixed.constructorArgs hq hq' identity identity' keys)
      | method =>
        simp only [place, Resolver.choice, Resolver.methodKey, String.append_right_inj] at same
        exact .method identity identity' place (places.symm.trans place) same

theorem MayBuild.given_eq {label : String} {t u : Transformer ρ σ} (h : S.MayBuild q u)
    (identity : q.identity = .given label t) : u = t := by
  cases h with
  | given identity' =>
    cases identity.symm.trans identity'
    rfl
  | constructed identity' => cases identity.symm.trans identity'
  | answered heard node =>
    obtain ⟨name, owner, s, s', identity', -⟩ := heard
    cases identity.symm.trans identity'

section Same

variable (impartial : S.Impartial)

include impartial

variable (unmixed : S.Unmixed) (alike : ∀ owner, S.like owner → Record.Alike S.owner owner)

omit impartial in
include alike in
theorem place_alike {owner : ρ} (like : S.like owner) (name : String) :
    S.resolver.place owner name = S.resolver.place S.owner name := by
  rw [Resolver.place, Resolver.place, (alike owner like).arity]

omit impartial in
include alike in
theorem key_alike {owner : ρ} (like : S.like owner) (q : Request ρ σ) :
    S.resolver.entryKey owner q = S.key q := by
  rw [key, Resolver.entryKey, Resolver.entryKey]
  cases q.identity with
  | given label t => rfl
  | named name =>
    dsimp only
    rw [place_alike alike like]
    cases S.resolver.place S.owner name with
    | method => simp only [Resolver.choice, (alike owner like).typeName]
    | type | fallback => rfl

omit impartial in
include alike in
/-- No node is built for a method. -/
theorem MayBuild.place {name : String} {t : Transformer ρ σ} (h : S.MayBuild q t)
    (identity : q.identity = .named name) : S.resolver.place S.owner name ≠ .method := by
  cases h with
  | given identity' => cases identity.symm.trans identity'
  | @constructed name' registry t s s' identity' registered made =>
    cases identity.symm.trans identity'
    cases there : Table.get? name registry with
    | none =>
      rw [Registry.instantiate, there] at made
      cases made
    | some type =>
      have found : registry.info? name = some _ := congrArg (Option.map _) there
      rw [Resolver.place_type (Resolver.info?_registered registered found)]
      simp
  | answered heard node =>
    obtain ⟨name', owner, s, s', identity', like, place, -⟩ := heard
    cases identity.symm.trans identity'
    rw [← place_alike alike like, place]
    simp

include unmixed alike

theorem MayHoldInstance.same {i i' : Instance ρ σ} (hq : S.asked q)
    (h : S.MayHoldInstance (S.key q) i)
    (h' : S.MayHoldInstance (S.key q) i') : i.node.Same S.like i'.node ∧
      (S.place? q = none → i.node.name = i'.node.name) := by
  obtain there | ⟨absent, q₁, hq₁, same, built⟩ := h
  · obtain there' | ⟨absent, -⟩ := h'
    · cases there.symm.trans there'
      exact ⟨(impartial.instances hq there).1, fun _ => rfl⟩
    · cases there.symm.trans absent
  obtain there' | ⟨-, q₂, hq₂, same', built'⟩ := h'
  · cases absent.symm.trans there'
  cases unmixed.kin hq₁ hq₂ (same.trans same'.symm) with
  | given identity identity' =>
    rw [built.given_eq identity, built'.given_eq identity']
    exact ⟨impartial.nodes hq₁ hq₁ rfl rfl (.given identity) (.given identity), fun _ => rfl⟩
  | named identity identity' place args =>
    refine ⟨impartial.nodes hq₁ hq₂ (identity.trans identity'.symm) args built built', ?_⟩
    intro ready
    rw [← place?_of_key same, place?, identity] at ready
    cases ready
  | method identity identity' place => exact absurd place (built.place alike identity)

/-- An instance that serves where the last resort answers with a node does what any of its answers
does. -/
theorem MayHoldInstance.same_answer {name : String} {answer answer' : Fallback ρ σ}
    {i : Instance ρ σ}
    (hq : S.asked q) (identity : q.identity = .named name) (h : S.MayHoldInstance (S.key q) i)
    (heard : S.MayAnswer q answer) (heard' : S.MayAnswer q answer')
    (isNode : answer.node?.isSome = true) (bare : answer'.node?.isSome = false) :
    (i.node.code q.callArgs).Same S.like (answer'.code q.callArgs) := by
  obtain ⟨t, node⟩ := Option.isSome_iff_exists.mp isNode
  have answers := impartial.answers hq heard heard'
  rw [Fallback.code_of_node node] at answers
  obtain there | ⟨-, q₁, hq₁, same, built⟩ := h
  · have kind := impartial.kinds hq there heard heard'
    rw [isNode, bare] at kind
    cases kind
  cases unmixed.kin hq₁ hq same with
  | given identity₁ identity₂ => cases identity.symm.trans identity₂
  | method identity₁ identity₂ place => exact absurd place (built.place alike identity₁)
  | named identity₁ identity₂ place args =>
    have nodes := impartial.nodes hq₁ hq (identity₁.trans identity₂.symm) args built
      (.answered heard node)
    exact (nodes q.callArgs).trans answers

theorem MayRun.same {run run' : Callable ρ σ} (hq : S.asked q) (hq' : S.asked q')
    (same : S.key q = S.key q') (args : Arg.key q.callArgs = Arg.key q'.callArgs)
    (h : S.MayRun q run) (h' : S.MayRun q' run') : run.Same S.like run' := by
  have callArgs := unmixed.callArgs hq hq' same args
  cases unmixed.kin hq hq' same with
  | given identity identity' =>
    simp only [MayRun, identity] at h
    simp only [MayRun, identity', ← same, ← callArgs] at h'
    obtain ⟨i, backs, rfl⟩ := h
    obtain ⟨i', backs', rfl⟩ := h'
    obtain ⟨does, names⟩ := backs.same impartial unmixed alike hq backs'
    rw [names (by rw [place?, identity])]
    exact (does q.callArgs).asNode _
  | method identity identity' place place' names =>
    simp only [MayRun, identity, place] at h
    simp only [MayRun, identity', place', ← names, ← callArgs] at h'
    obtain ⟨arity, there, rfl⟩ := h
    obtain ⟨arity', there', rfl⟩ := h'
    cases there.symm.trans there'
    exact (impartial.methods hq identity place there).asNode _
  | @named name identity identity' place constructorArgs =>
    have one : q = q' := by
      obtain ⟨_, _, _⟩ := q
      obtain ⟨_, _, _⟩ := q'
      cases identity
      cases identity'
      cases callArgs
      cases constructorArgs
      rfl
    subst one
    cases there : S.resolver.place S.owner name with
    | method => exact absurd there place
    | type =>
      simp only [MayRun, identity, there] at h h'
      obtain ⟨i, backs, rfl⟩ := h
      obtain ⟨i', backs', rfl⟩ := h'
      exact ((backs.same impartial unmixed alike hq backs').1 q.callArgs).asNode name
    | fallback =>
      simp only [MayRun, identity, there] at h h'
      obtain ⟨answer, heard, h⟩ := h
      obtain ⟨answer', heard', h'⟩ := h'
      obtain ⟨isNode, i, backs, rfl⟩ | ⟨bare, rfl⟩ := h
      · obtain ⟨-, i', backs', rfl⟩ | ⟨bare', rfl⟩ := h'
        · exact ((backs.same impartial unmixed alike hq backs').1 q.callArgs).asNode name
        · have mixed := backs.same_answer impartial unmixed alike hq identity heard heard' isNode
            bare'
          exact mixed.asNode name
      · obtain ⟨isNode', i', backs', rfl⟩ | ⟨-, rfl⟩ := h'
        · have mixed := backs'.same_answer impartial unmixed alike hq identity heard' heard isNode'
            bare
          exact mixed.symm.asNode name
        · exact (impartial.answers hq heard heard').asNode name

/-- Two steps for one request do the same, whichever caches they are in. -/
theorem MayHoldStep.same {s s' : Compiled ρ σ} (hq : S.asked q)
    (h : S.MayHoldStep (S.key q) (Arg.key q.callArgs) s)
    (h' : S.MayHoldStep (S.key q) (Arg.key q.callArgs) s') : s.run.Same S.like s'.run := by
  obtain there | ⟨absent, q₁, hq₁, key₁, args₁, makes⟩ := h
  · obtain there' | ⟨absent, -⟩ := h'
    · cases there.symm.trans there'
      exact impartial.steps hq there
    · cases there.symm.trans absent
  · obtain there' | ⟨-, q₂, hq₂, key₂, args₂, makes'⟩ := h'
    · cases absent.symm.trans there'
    · exact makes.same impartial unmixed alike hq₁ hq₂ (key₁.trans key₂.symm)
        (args₁.trans args₂.symm) makes'

end Same

section GrownByResolution

variable {c : Cache ρ σ}

theorem GrownByResolution.moved {c' : Cache ρ σ} (h : S.GrownByResolution c) (grows : c.Grows c')
    (instances : ∀ key, c'.instance? key = c.instance? key)
    (steps : ∀ key argsKey, c'.step? key argsKey = c.step? key argsKey) :
    S.GrownByResolution c' := by
  refine ⟨h.grows.trans grows, ?_, ?_⟩
  · intro key i there
    rw [instances] at there
    exact h.instances there
  · intro key argsKey s there
    rw [steps] at there
    exact h.steps there

theorem GrownByResolution.keepInstance (h : S.GrownByResolution c) {key : String} {i : Instance ρ σ}
    (backs : c.instance? key = none → S.MayHoldInstance key i) :
    S.GrownByResolution (c.keepInstance key i).2 := by
  refine ⟨h.grows.trans (c.grows_keepInstance key i), ?_, ?_⟩
  · intro k j there
    obtain before | ⟨absent, rfl, rfl⟩ := Cache.keepInstance_cases there
    · exact h.instances before
    · exact backs absent
  · intro k argsKey s there
    rw [Cache.step?_keepInstance] at there
    exact h.steps there

variable {w w' : Workspace ρ σ}

/-- A request finds a step or makes one, and gets what is there then. -/
theorem GrownByResolution.step (h : S.GrownByResolution w.cache) (hq : S.asked q) {name : String}
    {run : Callable ρ σ}
    {s : Compiled ρ σ} (own : S.MayRun q (run.asNode name))
    (stepped : Resolver.step (S.key q) q.callArgs name run w = (.ok s, w')) :
    S.GrownByResolution w'.cache ∧ w'.run = w.run ∧
      S.MayHoldStep (S.key q) (Arg.key q.callArgs) s := by
  cases there : w.cache.step? (S.key q) (Arg.key q.callArgs) with
  | some kept =>
    cases stepped.symm.trans (Resolver.step_again there name run)
    exact ⟨h, rfl, h.steps there⟩
  | none =>
    cases stepped.symm.trans (Resolver.step_new there name run)
    have serves : S.MayHoldStep (S.key q) (Arg.key q.callArgs) ⟨w.issued, run.asNode name⟩ :=
      .inr ⟨h.grows.step_absent there, q, hq, rfl, rfl, own⟩
    refine ⟨⟨h.grows.trans (w.cache.grows_keepStep ..), ?_, ?_⟩, rfl, serves⟩
    · intro key i found
      rw [Cache.instance?_keepStep] at found
      exact h.instances found
    · intro key argsKey s found
      obtain before | ⟨-, ⟨rfl, rfl⟩, rfl⟩ := Cache.keepStep_cases found
      · exact h.steps before
      · exact serves

end GrownByResolution

section Resolve

variable {w w' : Workspace ρ σ} {owner : ρ} (impartial : S.Impartial)
  (alike : ∀ owner, S.like owner → Record.Alike S.owner owner) (like : S.like owner)

omit [Record ρ σ] in
theorem populate_trace {r : Resolver ρ σ} {node : Transformer ρ σ} (quiet : node.Quiet)
    (name : String) (slots : List DependencySlot) (w : Workspace ρ σ) :
    (r.populate name node slots w).2.run.trace = w.run.trace := by
  induction slots generalizing w with
  | nil => rfl
  | cons slot rest ih =>
    rw [Resolver.populate.eq_def]
    dsimp only
    cases slot.service with
    | none => rfl
    | some service =>
      cases r.services with
      | none => rfl
      | some locate =>
        dsimp only
        cases locate service with
        | none => rfl
        | some supplied =>
          dsimp only
          have filled := quiet.fill slot.name supplied w.run
          rw [bind_run, Build.ofAct]
          rcases e : node.fill slot.name supplied w.run with ⟨fault | ⟨⟩, s⟩
          · rw [e] at filled
            exact filled
          · rw [e] at filled
            exact (ih { w with run := s }).trans filled

include impartial

theorem MayHoldInstance.quiet {i : Instance ρ σ} (hq : S.asked q)
    (h : S.MayHoldInstance (S.key q) i) :
    i.node.Quiet := by
  obtain there | ⟨-, q', hq', -, built⟩ := h
  · exact (impartial.instances hq there).2
  · exact impartial.builds hq' built

/-- A node that is prepared for a request is one that may be built for it. -/
theorem prepare_builds (hq : S.asked q) {name : String} {registry : Registry ρ σ}
    {t : Transformer ρ σ} (identity : q.identity = .named name)
    (registered : S.resolver.registry = some registry)
    (made : S.resolver.prepare registry name q.constructorArgs w = (.ok t, w')) :
    S.MayBuild q t ∧ w'.run.trace = w.run.trace := by
  obtain ⟨node, u, built, made⟩ := bind_eq_ok.mp made
  obtain ⟨⟨⟩, v, filled, e⟩ := bind_eq_ok.mp made
  cases e
  rcases ran : registry.instantiate name q.constructorArgs w.run with ⟨result, s⟩
  rw [Build.ofAct, ran] at built
  cases built
  have own : S.MayBuild q t := .constructed identity registered ran
  have first := impartial.constructs hq identity registered w.run
  rw [ran] at first
  have rest := populate_trace (r := S.resolver) (impartial.builds hq own) name t.slots
    { w with run := s }
  rw [filled] at rest
  exact ⟨own, rest.trans first⟩

include like

/-- What is on offer for a request was in the cache, or may be built for the request. -/
theorem GrownByResolution.offers (h : S.GrownByResolution w.cache) (hq : S.asked q) {key : String}
    {i : Instance ρ σ}
    {constructed : Option (String × String)}
    (offers : Resolver.Offers S.resolver owner q w key i constructed w') :
    S.GrownByResolution w'.cache ∧ w'.run.trace = w.run.trace ∧
      (w'.cache.instance? key = none → S.MayBuild q i.node) := by
  have heard {name : String} {resolve : FallbackResolver ρ σ} {answer : Fallback ρ σ}
      {s : RunState σ} (identity : q.identity = .named name)
      (unknown : S.resolver.info? name = none)
      (free : Record.arity? owner (methodName name) = none)
      (last : S.resolver.fallback = some resolve)
      (said : resolve name q owner w.run = (some answer, s)) :
      S.MayAnswer q answer ∧ s.trace = w.run.trace := by
    have said := Resolver.lastAnswer_of_some last said
    have quiet := impartial.asks hq identity like w.run
    rw [said] at quiet
    exact ⟨⟨name, owner, _, _, identity, like,
      Resolver.place_fallback_iff.mpr ⟨unknown, free⟩, said⟩, quiet⟩
  cases offers with
  | given identity => exact ⟨h, rfl, fun _ => .given identity⟩
  | cached identity type there =>
    refine ⟨h, rfl, fun absent => ?_⟩
    cases there.symm.trans absent
  | constructed identity registered known isNode new declared made =>
    obtain ⟨built, trace⟩ := prepare_builds impartial hq identity registered made
    exact ⟨h.moved ⟨id, id, id⟩ (fun _ => rfl) fun _ _ => rfl, trace, fun _ => built⟩
  | answered identity unknown free last answer | kept identity unknown free last answer =>
    obtain ⟨heard, trace⟩ := heard identity unknown free last answer
    exact ⟨h, trace, fun _ => .answered heard rfl⟩

include alike

omit impartial in
/-- What the step runs that is made for an instance on offer. -/
theorem makes_offers {key : String} {i j : Instance ρ σ}
    {constructed : Option (String × String)}
    (offers : Resolver.Offers S.resolver owner q w key i constructed w')
    (backs : S.MayHoldInstance (S.key q) j) :
    S.MayRun q ((j.node.code q.callArgs).asNode (Resolver.className q j)) := by
  cases offers with
  | given identity =>
    simp only [MayRun, Resolver.className, identity]
    exact ⟨j, backs, rfl⟩
  | cached identity type there =>
    obtain ⟨info, known, -⟩ := type
    simp only [MayRun, Resolver.className, identity, Resolver.place_type known]
    exact ⟨j, backs, rfl⟩
  | constructed identity registered known isNode new declared made =>
    simp only [MayRun, Resolver.className, identity,
      Resolver.place_type (Resolver.info?_registered registered known)]
    exact ⟨j, backs, rfl⟩
  | answered identity unknown free last answer | kept identity unknown free last answer =>
    have place := Resolver.place_fallback_iff.mpr ⟨unknown, free⟩
    have heard : S.MayAnswer q _ := ⟨_, owner, _, _, identity, like, place,
      Resolver.lastAnswer_of_some last answer⟩
    rw [place_alike alike like] at place
    simp only [MayRun, Resolver.className, identity, place]
    exact ⟨_, heard, .inl ⟨rfl, j, backs, rfl⟩⟩

variable (hq : S.asked q)

include hq

/-- What a request is found to stand for makes a step of its entry. -/
theorem GrownByResolution.locates (h : S.GrownByResolution w.cache) {found : Resolution ρ σ}
    (located : Resolver.Locates S.resolver owner q w (.ok found) w') :
    S.GrownByResolution w'.cache ∧ w'.run.trace = w.run.trace ∧ S.MayFind q found := by
  generalize ended : Except.ok found = result at located
  cases located with
  | @node key i constructed outcome w₁ w₂ offers boots =>
    obtain ⟨grown, trace, built⟩ := h.offers impartial like hq offers
    have entry : key = S.key q := offers.entry.trans (key_alike alike like q)
    subst entry
    have stored : S.GrownByResolution (w₁.store (S.key q) i).2.cache :=
      grown.keepInstance fun absent =>
        .inr ⟨grown.grows.instance_absent absent, q, hq, rfl, built absent⟩
    have backs : S.MayHoldInstance (S.key q) (w₁.store (S.key q) i).1 := by
      apply stored.instances
      simp
    have quiet := (backs.quiet impartial hq).boot owner
    have finds := makes_offers alike like offers backs
    cases boots with
    | before booted =>
      cases ended
      exact ⟨stored, trace, rfl, finds⟩
    | succeeded new ran =>
      cases ended
      have left := quiet (w₁.store (S.key q) i).2.run
      rw [ran] at left
      exact ⟨stored.moved (Cache.grows_noteBooted _ _) (fun _ => rfl) fun _ _ => rfl,
        left.trans trace, rfl, finds⟩
    | failed new ran => cases ended
  | foreign | undeclared | unprepared => cases ended
  | @method name arity identity unknown there =>
    cases ended
    have place := Resolver.place_method unknown there
    have entry := key_alike alike like q
    rw [Resolver.entryKey, identity] at entry
    dsimp only at entry
    rw [place, Resolver.choice] at entry
    rw [place_alike alike like] at place
    refine ⟨h, rfl, entry, ?_⟩
    rw [← (alike owner like).arity] at there
    simp only [MayRun, identity, place]
    exact ⟨arity, there, by rw [(alike owner like).typeName]⟩
  | @raw name run s identity unknown free answer =>
    cases ended
    have place := Resolver.place_fallback_iff.mpr ⟨unknown, free⟩
    have heard : S.MayAnswer q (.callable run) := ⟨name, owner, _, _, identity, like, place, answer⟩
    have quiet := impartial.asks hq identity like w.run
    rw [answer] at quiet
    have entry := key_alike alike like q
    rw [Resolver.entryKey, identity] at entry
    dsimp only at entry
    rw [place, Resolver.choice] at entry
    rw [place_alike alike like] at place
    refine ⟨h, quiet, entry, ?_⟩
    simp only [MayRun, identity, place]
    exact ⟨_, heard, .inr ⟨rfl, rfl⟩⟩
  | unresolved identity unknown free answer =>
    cases ended
    have quiet := impartial.asks hq identity like w.run
    rw [answer] at quiet
    exact ⟨h, quiet, trivial⟩

/-- Resolving a request keeps a cache that grew from the first one, and comes to a step that the
request may have there. -/
theorem GrownByResolution.resolve (h : S.GrownByResolution w.cache) {l : Leaf ρ σ}
    (resolved : S.resolver.resolve (.node q) owner w = (.ok l, w')) :
    S.GrownByResolution w'.cache ∧ w'.run.trace = w.run.trace ∧
      S.MayHoldStep (S.key q) (Arg.key q.callArgs) l.step := by
  obtain ⟨found, u, located, made⟩ := bind_eq_ok.mp resolved
  obtain ⟨grown, trace, finds⟩ :=
    h.locates impartial alike like hq (Resolver.locate_iff.mp located)
  cases found with
  | unresolved => cases made
  | node key i className | method key method arity className | raw key run className =>
    obtain ⟨rfl, makes⟩ := finds
    obtain ⟨s, v, stepped, e⟩ := bind_eq_ok.mp made
    cases e
    obtain ⟨grown', run, serves⟩ := grown.step hq makes stepped
    exact ⟨grown', (congrArg RunState.trace run).trans trace, serves⟩

end Resolve

end Setting

end FieldPipeline
