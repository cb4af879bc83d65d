import FieldPipeline.Proofs.Growth

namespace FieldPipeline

open Outcome

variable {ρ σ : Type}

/-- Whether a last resort hands back a node, and not a bare callable. -/
def Fallback.isNode : Fallback ρ σ → Bool
  | node _ | kept .. => true
  | callable _ => false

/-- Two records that resolution cannot tell apart. -/
structure Record.Alike [Record ρ σ] (a b : ρ) : Prop where
  typeName : Record.typeName a = Record.typeName b
  arity : ∀ method, Record.arity? a method = Record.arity? b method

theorem Record.Alike.refl [Record ρ σ] (a : ρ) : Alike a a :=
  ⟨rfl, fun _ => rfl⟩

/-- Two findings under one key. The callable of a last resort may be another one. -/
inductive Resolution.Alike : Resolution ρ σ → Resolution ρ σ → Prop
  | same (found : Resolution ρ σ) : Alike found found
  | raw (key : String) (run run' : Value → List Arg → Scope ρ → Act σ Value)
      (className : String) : Alike (.raw key run className) (.raw key run' className)

namespace Resolver

/-- What the last resort hands back for a request is always of the same kind. -/
def Steady (r : Resolver ρ σ) : Prop :=
  ∀ resolve, r.fallback = some resolve → ∀ name request owner s s',
    (resolve name request owner s).1.map Fallback.isNode =
      (resolve name request owner s').1.map Fallback.isNode

/-- For two records the last resort's answers to a request are of one kind. -/
def SteadyFor (r : Resolver ρ σ) (a b : ρ) : Prop :=
  ∀ resolve, r.fallback = some resolve → ∀ name request s s',
    (resolve name request a s).1.map Fallback.isNode =
      (resolve name request b s').1.map Fallback.isNode

theorem Steady.steadyFor {r : Resolver ρ σ} (h : r.Steady) (owner : ρ) :
    r.SteadyFor owner owner :=
  fun resolve given name request s s' => h resolve given name request owner s s'

/-- Nothing happens to the application's state but that the last resort is asked. -/
inductive Asks (r : Resolver ρ σ) : RunState σ → RunState σ → Prop
  | nothing (s : RunState σ) : Asks r s s
  | question {resolve : FallbackResolver ρ σ} {name : String} {request : Request ρ σ} {owner : ρ}
      {s s' : RunState σ} (given : r.fallback = some resolve)
      (next : Asks r (resolve name request owner s).2 s') : Asks r s s'

theorem Asks.trans {r : Resolver ρ σ} {s s' s'' : RunState σ} (h : r.Asks s s')
    (h' : r.Asks s' s'') : r.Asks s s'' := by
  induction h with
  | nothing s => exact h'
  | question given next ih => exact .question given (ih h')

/-- Nothing is constructed, booted or stored. -/
structure OnlyAsks (r : Resolver ρ σ) (w w' : Workspace ρ σ) : Prop where
  cache : w'.cache = w.cache
  asks : r.Asks w.run w'.run

theorem OnlyAsks.refl (r : Resolver ρ σ) (w : Workspace ρ σ) : r.OnlyAsks w w :=
  ⟨rfl, .nothing w.run⟩

theorem OnlyAsks.trans {r : Resolver ρ σ} {w w' w'' : Workspace ρ σ} (h : r.OnlyAsks w w')
    (h' : r.OnlyAsks w' w'') : r.OnlyAsks w w'' :=
  ⟨h'.cache.trans h.cache, h.asks.trans h'.asks⟩

theorem OnlyAsks.grown {r : Resolver ρ σ} {c : Cache ρ σ} {w w' : Workspace ρ σ}
    (h : r.OnlyAsks w w')
    (grown : c.Grows w.cache) : c.Grows w'.cache := by
  rw [h.cache]
  exact grown

variable {r : Resolver ρ σ} {owner owner' : ρ} {w w' v : Workspace ρ σ}

theorem boot_marks {i : Instance ρ σ} (h : boot i owner w = (.ok (), w')) :
    w'.cache.isBooted i.id = true := by
  obtain ⟨now, w₁, hb, e⟩ := bind_eq_ok.mp h
  cases e
  obtain ⟨c, w₂, hc, hb⟩ := bind_eq_ok.mp hb
  cases hc
  split at hb
  · next booted =>
    cases hb
    exact booted
  · obtain ⟨⟨⟩, w₂, ran, hb⟩ := bind_eq_ok.mp hb
    obtain ⟨⟨⟩, w₃, noted, e⟩ := bind_eq_ok.mp hb
    cases e
    cases noted
    exact w₂.cache.isBooted_noteBooted i.id

/-- An instance is not booted twice. -/
theorem boot_again {i : Instance ρ σ} (booted : v.cache.isBooted i.id = true) (owner : ρ) :
    boot i owner v = (.ok (), v) := by
  refine bind_eq_ok.mpr ⟨false, v, bind_eq_ok.mpr ⟨v.cache, v, rfl, ?_⟩, rfl⟩
  rw [if_pos booted]
  rfl

theorem keep_stores {key : String} {i kept : Instance ρ σ}
    (h : keep key i owner w = (.ok kept, w')) :
    w'.cache.instance? key = some kept ∧ w'.cache.isBooted kept.id = true := by
  obtain ⟨k, w₁, stored, h⟩ := bind_eq_ok.mp h
  obtain ⟨⟨⟩, w₂, booted, e⟩ := bind_eq_ok.mp h
  cases e
  cases stored
  refine ⟨((lossless_boot _ owner).after booted).grows.instances ?_, boot_marks booted⟩
  have own := w.cache.instance?_keepInstance key key i
  rw [if_pos rfl] at own
  exact own

/-- What is kept under a key is found there. -/
theorem keep_again {key : String} {kept : Instance ρ σ}
    (stored : v.cache.instance? key = some kept) (booted : v.cache.isBooted kept.id = true)
    (i : Instance ρ σ) (owner : ρ) : keep key i owner v = (.ok kept, v) := by
  have found : (Build.onCache (·.keepInstance key i) : Build ρ σ _) v = (.ok kept, v) := by
    simp only [Build.onCache, Cache.keepInstance_of_some stored i]
  have again : boot kept owner v = (.ok (), v) := boot_again booted owner
  exact bind_eq_ok.mpr ⟨kept, v, found, bind_eq_ok.mpr ⟨(), v, again, rfl⟩⟩

/-- A step is there already or is made; neither fails. -/
theorem step_total (key : String) (args : List Arg) (name : String) (run : Callable ρ σ)
    (w : Workspace ρ σ) : ∃ s w', step key args name run w = (.ok s, w') := by
  cases there : w.cache.step? key (Arg.key args) with
  | some s => exact ⟨s, w, bind_eq_ok.mpr ⟨w.cache, w, rfl, by rw [there]; rfl⟩⟩
  | none => exact ⟨_, _, bind_eq_ok.mpr ⟨w.cache, w, rfl, by rw [there]; rfl⟩⟩

theorem step_stores {key name : String} {args : List Arg} {run : Callable ρ σ}
    {s : Compiled ρ σ} (h : step key args name run w = (.ok s, w')) :
    w'.cache.step? key (Arg.key args) = some s := by
  obtain ⟨c, w₁, hc, h⟩ := bind_eq_ok.mp h
  cases hc
  cases there : w.cache.step? key (Arg.key args) with
  | some kept =>
    rw [there] at h
    cases h
    exact there
  | none =>
    rw [there] at h
    obtain ⟨number, w₁, hn, h⟩ := bind_eq_ok.mp h
    cases hn
    cases h
    have own := w.cache.step?_keepStep key key (Arg.key args) (Arg.key args)
      ⟨w.issued, run.asNode name⟩
    rw [if_pos ⟨rfl, rfl⟩] at own
    exact own

theorem step_again {key : String} {args : List Arg} {s : Compiled ρ σ}
    (stored : v.cache.step? key (Arg.key args) = some s) (name : String) (run : Callable ρ σ) :
    step key args name run v = (.ok s, v) := by
  refine bind_eq_ok.mpr ⟨v.cache, v, rfl, ?_⟩
  rw [stored]
  rfl

/-- A type is looked up with the same result again, once there is an instance for it. -/
theorem findType_again {name : String} {request : Request ρ σ} {found : Option (Resolution ρ σ)}
    (h : r.findType name request owner w = (.ok found, w')) (grown : w'.cache.Grows v.cache)
    (owner' : ρ) : r.findType name request owner' v = (.ok found, v) := by
  unfold findType at h ⊢
  cases registered : r.registry with
  | none =>
    rw [registered] at h
    cases h
    rfl
  | some registry =>
    simp only [registered] at h ⊢
    cases known : registry.info? name with
    | none =>
      simp only [known] at h
      cases h
      rfl
    | some info =>
      simp only [known] at h ⊢
      cases node : info.isNode with
      | false =>
        rw [node] at h
        cases h
      | true =>
        rw [node] at h
        obtain ⟨c, w₁, hc, h⟩ := bind_eq_ok.mp h
        cases hc
        -- Whether it was there before or was made now, an instance is kept and has been booted.
        have stored : ∃ i, found = some (.node (typeKey name request.constructorArgs) i name) ∧
            w'.cache.instance? (typeKey name request.constructorArgs) = some i ∧
            w'.cache.isBooted i.id = true := by
          cases there : w.cache.instance? (typeKey name request.constructorArgs) with
          | some i =>
            simp only [there] at h
            obtain ⟨⟨⟩, w₁, booted, e⟩ := bind_eq_ok.mp h
            cases e
            exact ⟨i, rfl, ((lossless_boot i owner).after booted).grows.instances there,
              boot_marks booted⟩
          | none =>
            simp only [there] at h
            split at h
            · cases h
            · obtain ⟨i, w₁, made, h⟩ := bind_eq_ok.mp h
              obtain ⟨kept, w₂, hk, e⟩ := bind_eq_ok.mp h
              cases e
              exact ⟨kept, rfl, keep_stores hk⟩
        obtain ⟨i, rfl, there, booted⟩ := stored
        refine bind_eq_ok.mpr ⟨v.cache, v, rfl, ?_⟩
        simp only [grown.instances there]
        exact bind_eq_ok.mpr ⟨(), v, boot_again (grown.boots booted) owner', rfl⟩

/-- A steady last resort hands back the instance that was kept, or a callable in place of the one
that was compiled. -/
theorem askFallback_again (steady : r.SteadyFor owner owner') {name : String}
    {request : Request ρ σ} {found : Resolution ρ σ}
    (h : r.askFallback name request owner w = (.ok (some found), w'))
    (grown : w'.cache.Grows v.cache) :
    ∃ found' v', r.askFallback name request owner' v = (.ok (some found'), v') ∧
      found.Alike found' ∧ r.OnlyAsks v v' := by
  unfold askFallback at h ⊢
  cases given : r.fallback with
  | none =>
    rw [given] at h
    cases h
  | some resolve =>
    simp only [given] at h ⊢
    -- The second answer may be another node or callable; what the cache has goes before it.
    have kind := steady resolve given name request w.run v.run
    have asked (o : ρ) (u : Workspace ρ σ) :
        (Build.ofAct (liftM (resolve name request o)) : Build ρ σ _) u =
          (.ok (resolve name request o u.run).1,
            { u with run := (resolve name request o u.run).2 }) := rfl
    rw [bind_of_ok (asked owner w)] at h
    rw [bind_of_ok (asked owner' v)]
    have question : r.Asks v.run (resolve name request owner' v.run).2 :=
      .question given (.nothing _)
    cases first : (resolve name request owner w.run).1 with
    | none =>
      simp only [first] at h
      cases h
    | some answer =>
      cases second : (resolve name request owner' v.run).1 with
      | none =>
        rw [first, second] at kind
        cases kind
      | some answer' =>
        rw [first, second] at kind
        simp only [first] at h
        cases bare : answer.isNode with
        | true =>
          have stored : ∃ kept,
              found = .node (fallbackKey name request.constructorArgs) kept name ∧
              w'.cache.instance? (fallbackKey name request.constructorArgs) = some kept ∧
              w'.cache.isBooted kept.id = true := by
            cases answer with
            | node t =>
              obtain ⟨n, w₁, issued, h⟩ := bind_eq_ok.mp h
              obtain ⟨kept, w₂, hk, e⟩ := bind_eq_ok.mp h
              cases e
              exact ⟨kept, rfl, keep_stores hk⟩
            | kept label t =>
              obtain ⟨kept, w₂, hk, e⟩ := bind_eq_ok.mp h
              cases e
              exact ⟨kept, rfl, keep_stores hk⟩
            | callable run => cases bare
          obtain ⟨kept, rfl, there, booted⟩ := stored
          have again (i : Instance ρ σ) (u : Workspace ρ σ) (hu : u.cache = v.cache) :
              keep (fallbackKey name request.constructorArgs) i owner' u = (.ok kept, u) :=
            keep_again (by rw [hu]; exact grown.instances there)
              (by rw [hu]; exact grown.boots booted) i owner'
          cases answer' with
          | node t =>
            let u : Workspace ρ σ :=
              { v with run := (resolve name request owner' v.run).2, issued := v.issued + 1 }
            refine ⟨_, u, bind_eq_ok.mpr ⟨v.issued, u, rfl, ?_⟩, .same _, rfl, question⟩
            exact bind_eq_ok.mpr ⟨kept, u, again _ u rfl, rfl⟩
          | kept label t =>
            let u : Workspace ρ σ := { v with run := (resolve name request owner' v.run).2 }
            exact ⟨_, u, bind_eq_ok.mpr ⟨kept, u, again _ u rfl, rfl⟩, .same _, rfl, question⟩
          | callable run =>
            rw [Option.map_some, bare] at kind
            cases kind
        | false =>
          cases answer with
          | node t => cases bare
          | kept label t => cases bare
          | callable run =>
            cases answer' with
            | node t => cases kind
            | kept label t => cases kind
            | callable run' =>
              cases h
              exact ⟨_, _, rfl, .raw .., rfl, question⟩

section Resolve

variable [Record ρ σ]

theorem findMethod_alike {name : String} (alike : Record.Alike owner owner') :
    (findMethod name owner : Option (Resolution ρ σ)) = findMethod name owner' := by
  simp only [findMethod, alike.arity, alike.typeName]

theorem locate_again (steady : r.SteadyFor owner owner') (alike : Record.Alike owner owner')
    {d : Declaration ρ σ} {found : Resolution ρ σ} (h : r.locate d owner w = (.ok found, w'))
    (grown : w'.cache.Grows v.cache) (some_ : found ≠ .unresolved) :
    ∃ found' v', r.locate d owner' v = (.ok found', v') ∧ found.Alike found' ∧ r.OnlyAsks v v' := by
  cases d with
  | failTo fallback handler => cases h
  | group g => cases h
  | node request =>
    unfold locate at h ⊢
    cases identity : request.identity with
    | given label node =>
      simp only [identity] at h ⊢
      obtain ⟨kept, w₁, hk, e⟩ := bind_eq_ok.mp h
      cases e
      obtain ⟨there, booted⟩ := keep_stores hk
      have again := keep_again (grown.instances there) (grown.boots booted)
        ⟨.given label, node⟩ owner'
      exact ⟨_, v, bind_eq_ok.mpr ⟨kept, v, again, rfl⟩, .same _, .refl r v⟩
    | named name =>
      simp only [identity] at h ⊢
      obtain ⟨type, w₁, hf, h⟩ := bind_eq_ok.mp h
      cases type with
      | some type =>
        cases h
        have typed := findType_again hf grown owner'
        exact ⟨_, v, bind_eq_ok.mpr ⟨_, v, typed, rfl⟩, .same _, .refl r v⟩
      | none =>
        -- Methods belong to the record, so only the last resort depends on the state.
        rw [← findMethod_alike alike]
        cases hm : findMethod name owner with
        | some method =>
          simp only [hm] at h ⊢
          cases h
          have typed := findType_again hf grown owner'
          exact ⟨_, v, bind_eq_ok.mpr ⟨none, v, typed, rfl⟩, .same _, .refl r v⟩
        | none =>
          simp only [hm] at h ⊢
          obtain ⟨answer, w₂, asked, h⟩ := bind_eq_ok.mp h
          have typed := findType_again hf (((lossless_askFallback ..).after asked).grows.trans
            (by cases answer <;> cases h <;> exact grown)) owner'
          cases answer with
          | none =>
            cases h
            exact absurd rfl some_
          | some answer =>
            cases h
            obtain ⟨found', v', again, same, idle⟩ := askFallback_again steady asked grown
            refine ⟨found', v', bind_eq_ok.mpr ⟨none, v, typed, ?_⟩, same, idle⟩
            exact bind_eq_ok.mpr ⟨some found', v', again, rfl⟩

/-- A leaf is made of the step that is there, whichever callable was found. -/
theorem leaf_again {found found' : Resolution ρ σ} {name : String} {args : List Arg}
    {l : Leaf ρ σ} (h : r.leaf found name args owner w = (.ok l, w'))
    (grown : w'.cache.Grows v.cache) (alike : found.Alike found') (owner' : ρ) :
    r.leaf found' name args owner' v = (.ok l, v) := by
  have again {key : String} {callArgs : List Arg} {node : String} {run : Callable ρ σ}
      {make : Compiled ρ σ → Leaf ρ σ}
      (h : (do let s ← step key callArgs node run; return make s) w = (.ok l, w'))
      (run' : Callable ρ σ) :
      (do let s ← step key callArgs node run'; return make s) v = (.ok l, v) := by
    obtain ⟨s, w₁, hs, e⟩ := bind_eq_ok.mp h
    cases e
    exact bind_eq_ok.mpr ⟨s, v, step_again (grown.steps (step_stores hs)) node run', rfl⟩
  cases alike with
  | same =>
    cases found with
    | unresolved => cases h
    | _ => exact again h _
  | raw => exact again h _

/-- What was resolved resolves to the same leaf for as long as the cache only grows, and nothing is
constructed, booted or stored for it. -/
theorem resolve_again (steady : r.SteadyFor owner owner') (alike : Record.Alike owner owner')
    {d : Declaration ρ σ} {l : Leaf ρ σ} (h : r.resolve d owner w = (.ok l, w'))
    (grown : w'.cache.Grows v.cache) :
    ∃ v', r.resolve d owner' v = (.ok l, v') ∧ r.OnlyAsks v v' := by
  obtain ⟨found, w₁, located, h⟩ := bind_eq_ok.mp h
  have some_ : found ≠ .unresolved := by
    rintro rfl
    cases h
  have before := ((lossless_leaf ..).after h).grows.trans grown
  obtain ⟨found', v', again, same, idle⟩ := locate_again steady alike located before some_
  exact ⟨v', bind_eq_ok.mpr ⟨found', v', again, leaf_again h (idle.grown grown) same owner'⟩, idle⟩

/-- Where a last resort always hands back one callable, it resolves every name that stands for
nothing else. -/
theorem resolve_callable {request : Request ρ σ} {name : String}
    {resolve : FallbackResolver ρ σ} {run : Value → List Arg → Scope ρ → Act σ Value}
    (named : request.identity = .named name) (untyped : r.registry = none)
    (free : Record.arity? owner (methodName name) = none) (given : r.fallback = some resolve)
    (hands : ∀ s, resolve name request owner s = (some (.callable run), s))
    (w : Workspace ρ σ) : ∃ l w', r.resolve (.node request) owner w = (.ok l, w') := by
  have typed : r.findType name request owner w = (.ok none, w) := by
    unfold findType
    rw [untyped]
    rfl
  have asked : r.askFallback name request owner w =
      (.ok (some (.raw (fallbackKey name request.constructorArgs) run name)), w) := by
    unfold askFallback
    simp only [given]
    refine bind_eq_ok.mpr ⟨some (.callable run), w, ?_, rfl⟩
    change (Except.ok (resolve name request owner w.run).1,
      { w with run := (resolve name request owner w.run).2 }) = _
    rw [hands]
  have located : r.locate (.node request) owner w =
      (.ok (.raw (fallbackKey name request.constructorArgs) run name), w) := by
    unfold locate
    simp only [named]
    refine bind_eq_ok.mpr ⟨none, w, typed, ?_⟩
    simp only [findMethod, free, Option.map_none]
    exact bind_eq_ok.mpr ⟨_, w, asked, rfl⟩
  obtain ⟨s, w', stepped⟩ := step_total (fallbackKey name request.constructorArgs)
    request.callArgs name (fun v scope => run v request.callArgs scope) w
  exact ⟨_, w', bind_eq_ok.mpr ⟨_, w, located, bind_eq_ok.mpr ⟨s, w', stepped, rfl⟩⟩⟩

end Resolve

end Resolver

end FieldPipeline
