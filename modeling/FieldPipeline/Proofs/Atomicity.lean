import FieldPipeline.Proofs.Precedence

namespace FieldPipeline

open Outcome

variable {ρ σ : Type}

namespace Cache

/-- An entry has got an instance that is not booted. All else that is stored is the same. -/
structure Admits (c c' : Cache ρ σ) (key : String) (i : Instance ρ σ) : Prop where
  absent : c.instance? key = none
  instances : ∀ k, c'.instance? k = if k = key then some i else c.instance? k
  steps : ∀ k argsKey, c'.step? k argsKey = c.step? k argsKey
  contains : ∀ k, c'.contains k = (decide (k = key) || c.contains k)
  pipelines : c'.pipelines = c.pipelines
  booted : c'.booted = c.booted
  unbooted : c'.isBooted i.id = false

@[simp] theorem contains_setEntry (c : Cache ρ σ) (key k : String) (e : CacheEntry ρ σ) :
    (c.setEntry key e).contains k = (decide (k = key) || c.contains k) := by
  rw [contains, contains, setEntry, Table.has, Table.has, Table.get?_put]
  by_cases own : k = key <;> simp [own]

theorem admits_keepInstance {c : Cache ρ σ} {key : String} {i : Instance ρ σ}
    (absent : c.instance? key = none) (unbooted : c.isBooted i.id = false) :
    c.Admits (c.keepInstance key i).2 key i where
  absent := absent
  instances k := by simp [absent]
  steps k argsKey := c.step?_keepInstance key k argsKey i
  contains k := c.contains_setEntry key k _
  pipelines := rfl
  booted := rfl
  unbooted := unbooted

/-- Counting stores nothing. -/
theorem Admits.uncounted {c c' : Cache ρ σ} {key : String} {i : Instance ρ σ}
    (h : c.countInstantiation.Admits c' key i) : c.Admits c' key i :=
  ⟨h.absent, h.instances, h.steps, h.contains, h.pipelines, h.booted, h.unbooted⟩

end Cache

namespace Resolver

variable [Record ρ σ]

/-- What resolution does where the entry has an instance. -/
def reuse (r : Resolver ρ σ) (request : Request ρ σ) (key : String) (i : Instance ρ σ)
    (owner : ρ) : Build ρ σ (Leaf ρ σ) := do
  boot i owner
  r.leaf (.node key i (className request i)) request.identity.name request.callArgs owner

/-- The entry's instance serves the declaration from now on, for any record: it is booted unless it
has been, and neither constructed nor filled. An answer of the last resort changes nothing in that,
if it is a node again. -/
structure Reuses (r : Resolver ρ σ) (request : Request ρ σ) (key : String) (i : Instance ρ σ) :
    Prop where
  reused : HasInstanceKey r request key → ∀ owner v, v.cache.instance? key = some i →
    r.resolve (.node request) owner v = r.reuse request key i owner v
  answered : ∀ owner v name a s, request.identity = .named name →
    key = fallbackKey name request.constructorArgs → r.place owner name = .fallback →
    r.lastAnswer name request owner v.run = (some a, s) → a.isNode = true →
    v.cache.instance? key = some i →
    ∃ n, r.resolve (.node request) owner v =
      r.reuse request key i owner { v with run := s, issued := n }

/-- A resolution comes to a new instance, and to nothing but the fault of its boot. If it has
constructed the instance, with all its dependencies, that has been counted. -/
structure FailsAtBoot (r : Resolver ρ σ) (owner : ρ) (request : Request ρ σ) (w w' : Workspace ρ σ)
    (i : Instance ρ σ) (fault : Fault) : Prop where
  admits : w.cache.Admits w'.cache (r.entryKey owner request) i
  boot : ∃ s, i.node.boot owner s = (.error fault, w'.run)
  counted : (∃ name registry s, request.identity = .named name ∧ r.registry = some registry ∧
      r.prepare registry name request.constructorArgs w = (.ok i.node, { w with run := s }) ∧
      w'.cache.instantiations = w.cache.instantiations + 1) ∨
    (∀ name, request.identity = .named name → r.info? name = none) ∧
      w'.cache.instantiations = w.cache.instantiations
  reuses : r.Reuses request (r.entryKey owner request) i

variable {r : Resolver ρ σ} {owner : ρ} {request : Request ρ σ} {name key : String}
  {i : Instance ρ σ} {constructed : Option (String × String)} {w w' : Workspace ρ σ}

/-- Where the entry has an instance, that one is used instead of what is on offer. -/
theorem resolve_offered {kept : Instance ρ σ}
    (offers : Offers r owner request w key i constructed w')
    (there : w'.cache.instance? key = some kept) :
    r.resolve (.node request) owner w = r.reuse request key kept owner w' := by
  rcases ran : boot kept owner w' with ⟨outcome, u⟩
  have booted : boot (w'.store key i).1 owner (w'.store key i).2 = (outcome, u) := by
    rw [Workspace.store_of_some there, ran]
  have located := locate_offers offers booted
  rw [Workspace.store_of_some there] at located
  rw [resolve, reuse, bind_run, bind_run, located, ran]
  cases outcome <;> rfl

theorem reuses (r : Resolver ρ σ) (request : Request ρ σ) (key : String) (i : Instance ρ σ) :
    r.Reuses request key i where
  reused keyed owner v there := by
    cases keyed with
    | given identity => exact resolve_offered (.given identity) there
    | type identity type => exact resolve_offered (.cached identity type there) there
  answered owner v name a s named place last answer isNode there := by
    subst place
    obtain ⟨unknown, free⟩ := place_fallback_iff.mp last
    obtain ⟨resolve, given_, asked⟩ := lastAnswer_eq_some answer
    cases a with
    | node t => exact ⟨_, resolve_offered (.answered named unknown free given_ asked) there⟩
    | kept label t =>
      exact ⟨v.issued, resolve_offered (.kept named unknown free given_ asked) there⟩
    | callable run => cases isNode

/-- An offer is there already, or it was constructed and counted. -/
theorem Offers.counts (h : Offers r owner request w key i constructed w') :
    (∃ name registry s, request.identity = .named name ∧ r.registry = some registry ∧
      w.cache.instance? key = none ∧
      r.prepare registry name request.constructorArgs w = (.ok i.node, { w with run := s }) ∧
      w'.cache = w.cache.countInstantiation) ∨
    w'.cache = w.cache ∧ (w.cache.instance? key = none →
      ∀ name, request.identity = .named name → r.info? name = none) := by
  cases h with
  | given identity =>
    refine .inr ⟨rfl, fun _ name identity' => ?_⟩
    cases identity.symm.trans identity'
  | cached identity type there => exact .inr ⟨rfl, fun new => by simp [there] at new⟩
  | constructed identity registered known isNode new declared made =>
    exact .inl ⟨_, _, _, identity, registered, new, made, rfl⟩
  | answered identity unknown | kept identity unknown =>
    refine .inr ⟨rfl, fun _ name identity' => ?_⟩
    cases identity.symm.trans identity'
    exact unknown

/-- The boot of what is on offer fails: the entry has the instance already, or has got it now. -/
theorem Offers.failsAtBoot {fault : Fault} {w₁ : Workspace ρ σ}
    (offers : Offers r owner request w key i constructed w₁)
    (boots : Boots (w₁.store key i).1 owner (w₁.store key i).2 (some (.error fault)) w') :
    w'.cache = w.cache ∨ ∃ j, FailsAtBoot r owner request w w' j fault := by
  cases there : w.cache.instance? key with
  | some kept =>
    left
    rw [Workspace.store_of_some ((offers.instance? key).trans there)] at boots
    obtain ⟨name, registry, s, -, -, new, -⟩ | ⟨same, -⟩ := offers.counts
    · cases there.symm.trans new
    · cases boots
      exact same
  | none =>
    right
    have first : (w₁.store key i).1 = i := by
      change (w₁.cache.instance? key).getD i = i
      rw [offers.instance?, there]
      rfl
    rw [first] at boots
    have entry := offers.entry
    cases boots with
    | @failed _ s new ran =>
      refine ⟨i, ?_, ⟨_, ran⟩, ?_, entry ▸ r.reuses request key i⟩
      · have admits : w₁.cache.Admits (w₁.cache.keepInstance key i).2 key i :=
          Cache.admits_keepInstance ((offers.instance? key).trans there) new
        rw [← entry]
        change w.cache.Admits (w₁.cache.keepInstance key i).2 key i
        generalize (w₁.cache.keepInstance key i).2 = stored at admits ⊢
        obtain ⟨name, registry, s, -, -, -, -, same⟩ | ⟨same, -⟩ := offers.counts
        · rw [same] at admits
          exact admits.uncounted
        · rwa [same] at admits
      · change (∃ name registry s, _ ∧ _ ∧ _ ∧ w₁.cache.instantiations = _) ∨
          _ ∧ w₁.cache.instantiations = _
        obtain ⟨name, registry, s, identity, registered, -, made, same⟩ | ⟨same, unknown⟩ :=
          offers.counts
        · rw [same]
          exact .inl ⟨name, registry, s, identity, registered, made, rfl⟩
        · rw [same]
          exact .inr ⟨unknown there, rfl⟩

/-- A resolution that fails leaves the cache as it was, or with one instance more that its boot kept
from being used and that is there to be booted again. A node that could not be constructed or filled
is not among what it leaves. -/
theorem resolve_atomic (r : Resolver ρ σ) (d : Declaration ρ σ) (owner : ρ) (w : Workspace ρ σ) :
    (∀ fault w', r.resolve d owner w = (.error fault, w') →
      w'.cache = w.cache ∨
        ∃ request i, d = .node request ∧ FailsAtBoot r owner request w w' i fault) ∧
    (∀ request name registry info fault s, d = .node request → request.identity = .named name →
      r.registry = some registry → registry.info? name = some info → info.isNode = true →
      (request.constructorArgs = none → info.requiresArguments = false) →
      w.cache.instance? (typeKey name request.constructorArgs) = none →
      r.prepare registry name request.constructorArgs w = (.error fault, { w with run := s }) →
      r.resolve d owner w = (.error fault, { w with run := s })) := by
  constructor
  · intro fault w' failed
    cases d with
    | failTo fallback handler | group g =>
      cases failed
      exact .inl rfl
    | node request =>
      obtain ⟨result, u, table⟩ := r.exists_locates owner request w
      rw [resolve, bind_run, table.run] at failed
      -- Whatever stands for something makes a leaf, so the failure is one of looking it up.
      have found {found : Resolution ρ σ} {c : Choice} (chosen : found.choice? = some c)
          (failed : r.leaf found (Declaration.node request).name request.callArgs owner u =
            (.error fault, w')) : False := by
        obtain ⟨l, v, made, -⟩ := leaf_total chosen r (Declaration.node request).name
          request.callArgs owner u
        cases made.symm.trans failed
      cases table with
      | @node key i constructed outcome w₁ w₂ offers boots =>
        cases ended : outcome.getD (.ok ()) with
        | error fault' =>
          rw [ended] at failed
          cases failed
          obtain rfl : outcome = some (.error fault) := by
            cases outcome with
            | none => cases ended
            | some outcome => exact congrArg some ended
          obtain same | ⟨j, failsAtBoot⟩ := offers.failsAtBoot boots
          · exact .inl same
          · exact .inr ⟨request, j, rfl, failsAtBoot⟩
        | ok =>
          rw [ended] at failed
          exact (found rfl failed).elim
      | foreign | undeclared | unprepared =>
        cases failed
        exact .inl rfl
      | method | raw => exact (found rfl failed).elim
      | unresolved =>
        cases failed
        exact .inl rfl
  · rintro request name registry info fault s rfl named registered known isNode declared new made
    have given_ : (request.constructorArgs.isNone && info.requiresArguments) = false := by
      cases args : request.constructorArgs with
      | none => exact declared args
      | some as => rfl
    have table : Locates r owner request w (.error fault) { w with run := s } :=
      .unprepared named registered known isNode new given_ made
    simp [resolve, table.run]

/-- A node whose second dependency is missing leaves nothing in the cache, and one whose boot fails
for a record is taken up for the next one. -/
theorem resolve_atomic_plain :
    let fault : Fault := .configuration (.unregistered "Plain")
    let plain : Transformer Scripted.Form Scripted.Desk :=
      { name := "Plain", apply := fun v _ _ => pure v
        boot := fun owner => if owner.bare then throw fault else pure () }
    let wired : Transformer Scripted.Form Scripted.Desk :=
      { name := "Wired", apply := fun v _ _ => pure v
        slots := [⟨"clock", some "Clock"⟩, ⟨"lamp", some "Lamp"⟩]
        fill := fun slot _ => liftM (Scripted.note [.string slot]) }
    let r : Resolver Scripted.Form Scripted.Desk :=
      { registry := some (Registry.add (Registry.add [] "Plain" fun _ => pure plain) "Wired"
          fun _ => pure wired)
        services := some fun name => if name = "Clock" then some (.text "noon") else none }
    let request (name : String) : Request Scripted.Form Scripted.Desk := { identity := .named name }
    let start : Workspace Scripted.Form Scripted.Desk := { run := { app := {} } }
    r.resolve (.node (request "Wired")) {} start =
      (.error (.configuration (.noService "Lamp" "lamp" "Wired")),
        { start with run := { app := { log := [.array [.string "clock"]] } } }) ∧
    ∃ i w', r.resolve (.node (request "Plain")) { bare := true } start = (.error fault, w') ∧
      w'.cache.instance? (typeKey "Plain" none) = some i ∧ w'.cache.instantiations = 1 ∧
      w'.cache.booted = [] ∧
      r.resolve (.node (request "Plain")) {} w' =
        r.reuse (request "Plain") (typeKey "Plain" none) i {} w' := by
  intro fault plain wired r request start
  obtain ⟨-, unfilled⟩ := resolve_atomic r (.node (request "Wired")) {} start
  obtain ⟨stalled, -⟩ := resolve_atomic r (.node (request "Plain")) { bare := true } start
  refine ⟨unfilled _ "Wired" _ ⟨true, false⟩ _ _ rfl rfl rfl rfl rfl (fun _ => rfl) rfl rfl, ?_⟩
  obtain ⟨w', ran, size, counted, booted⟩ : ∃ w',
      r.resolve (.node (request "Plain")) { bare := true } start = (.error fault, w') ∧
      w'.cache.size = 1 ∧ w'.cache.instantiations = 1 ∧ w'.cache.booted = [] :=
    ⟨_, rfl, rfl, rfl, rfl⟩
  obtain same | ⟨_, i, ⟨⟩, failsAtBoot⟩ := stalled fault w' ran
  · rw [same] at size
    cases size
  have entry : r.entryKey ({ bare := true } : Scripted.Form) (request "Plain") =
      typeKey "Plain" none := rfl
  obtain ⟨admits, -, -, reuses⟩ := failsAtBoot
  rw [entry] at admits reuses
  have there := admits.instances (typeKey "Plain" none)
  rw [if_pos rfl] at there
  exact ⟨i, w', ran, there, counted, booted,
    reuses.reused (.type rfl ⟨_, rfl, rfl⟩) {} w' there⟩

end Resolver

end FieldPipeline
