import FieldPipeline.Proofs.Breaking
import FieldPipeline.Proofs.Jobs

namespace FieldPipeline

open Outcome Resolver

variable {ρ σ : Type}

/-- Code that steps are made of: the entry for it, the name that it runs under, the instance that it
belongs to, and what it does with given arguments. -/
structure Source (ρ σ : Type) where
  key : String
  name : String
  backing : Option (Instance ρ σ) := none
  body : List Arg → Callable ρ σ

/-- The code of an instance that was found for a request. -/
def Source.ofInstance (key : String) (request : Request ρ σ) (i : Instance ρ σ) : Source ρ σ where
  key
  name := className request i
  backing := some i
  body args v scope := i.node.apply v args scope

variable [Record ρ σ] {r : Resolver ρ σ} {K : Request ρ σ → Prop} {c c' : Cache ρ σ}
  {w w' : Workspace ρ σ} {owner : ρ} {direction : Direction}

/-- Sources that a cache has or does not need, for requests with the property `K`. -/
inductive Source.Stands (r : Resolver ρ σ) (K : Request ρ σ → Prop) (c : Cache ρ σ) :
    Source ρ σ → Prop
  | given {request : Request ρ σ} {label : String} {t : Transformer ρ σ} {i : Instance ρ σ}
      (identity : request.identity = .given label t)
      (there : c.instance? (instanceKey t.name (.given label)) = some i) :
      Stands r K c (.ofInstance (instanceKey t.name (.given label)) request i)
  | type {request : Request ρ σ} {name : String} {i : Instance ρ σ} (known : K request)
      (identity : request.identity = .named name) (type : r.IsType name)
      (there : c.instance? (typeKey name request.constructorArgs) = some i) :
      Stands r K c (.ofInstance (typeKey name request.constructorArgs) request i)
  | answered {request : Request ρ σ} {name : String} {i : Instance ρ σ} (known : K request)
      (identity : request.identity = .named name)
      (there : c.instance? (fallbackKey name request.constructorArgs) = some i) :
      Stands r K c (.ofInstance (fallbackKey name request.constructorArgs) request i)
  | method {owner : ρ} {name : String} {arity : Arity}
      (there : Record.arity? owner name = some arity) :
      Stands r K c
        { key := methodKey (Record.typeName owner) name
          name := Record.typeName owner ++ "::" ++ name
          body := callMethod name arity }
  | raw {request : Request ρ σ} {name : String} {owner : ρ} {resolve : FallbackResolver ρ σ}
      {s s' : RunState σ} {run : Value → List Arg → Scope ρ → Act σ Value} (known : K request)
      (last : r.fallback = some resolve)
      (answer : resolve name request owner s = (some (.callable run), s')) :
      Stands r K c
        { key := fallbackKey name request.constructorArgs, name
          body := fun args v scope => run v args scope }

/-- A callable that runs the code of the entry `key` as a node. -/
def Callable.StandsAt (r : Resolver ρ σ) (K : Request ρ σ → Prop) (c : Cache ρ σ) (key : String)
    (run : Callable ρ σ) : Prop :=
  ∃ (source : Source ρ σ) (args : List Arg), source.Stands r K c ∧ source.key = key ∧
    run = (source.body args).asNode source.name

/-- A leaf with the name and the instance of a source, and a step of its entry. The step may have
been made for another source under that key, if what the last resort hands back changes. -/
def Leaf.Stands (r : Resolver ρ σ) (K : Request ρ σ → Prop) (c : Cache ρ σ) (l : Leaf ρ σ) : Prop :=
  ∃ source : Source ρ σ, source.Stands r K c ∧ l.name = source.name ∧ l.backing = source.backing ∧
    l.step.run.StandsAt r K c source.key

def Site.Stands (r : Resolver ρ σ) (K : Request ρ σ → Prop) (c : Cache ρ σ) : Site ρ σ → Prop
  | leaf l _ => l.Stands r K c
  | predicate run _ => ∃ key, run.StandsAt r K c key
  | handler .. | refusal .. => True

def Node.Stands (r : Resolver ρ σ) (K : Request ρ σ → Prop) (c : Cache ρ σ) (node : Node ρ σ) :
    Prop :=
  ∀ site, node.MayAsk site → site.Stands r K c

/-- Every step runs the code of its entry. -/
def Cache.Sound (r : Resolver ρ σ) (K : Request ρ σ → Prop) (c : Cache ρ σ) : Prop :=
  ∀ key argsKey s, c.step? key argsKey = some s → s.run.StandsAt r K c key

/-- Every pipeline is a compiled tree of such steps. -/
def Cache.Piped (r : Resolver ρ σ) (K : Request ρ σ → Prop) (c : Cache ρ σ) : Prop :=
  ∀ key made, c.pipeline? key = some made →
    ∃ root : Node ρ σ, root.Built ∧ made.run = root.compile ∧ root.Stands r K c

theorem Source.Stands.moved {source : Source ρ σ} (h : source.Stands r K c)
    (there : ∀ i, c.instance? source.key = some i → c'.instance? source.key = some i) :
    source.Stands r K c' := by
  cases h with
  | given identity found => exact .given identity (there _ found)
  | type known identity type found => exact .type known identity type (there _ found)
  | answered known identity found => exact .answered known identity (there _ found)
  | method found => exact .method found
  | raw known last answer => exact .raw known last answer

theorem Source.Stands.held {source : Source ρ σ} {i : Instance ρ σ} (h : source.Stands r K c)
    (backing : source.backing = some i) : c.instance? source.key = some i := by
  cases h with
  | given identity there | type known identity type there | answered known identity there =>
    cases backing
    exact there
  | method | raw => cases backing

theorem Callable.StandsAt.moved {run : Callable ρ σ} {key : String} (h : run.StandsAt r K c key)
    (there : ∀ i, c.instance? key = some i → c'.instance? key = some i) :
    run.StandsAt r K c' key := by
  obtain ⟨source, args, stands, rfl, same⟩ := h
  exact ⟨source, args, stands.moved there, rfl, same⟩

theorem Leaf.Stands.grown {l : Leaf ρ σ} (h : l.Stands r K c) (grown : c.Grows c') :
    l.Stands r K c' := by
  obtain ⟨source, stands, name, backing, run⟩ := h
  exact ⟨source, stands.moved fun _ => grown.instances, name, backing,
    run.moved fun _ => grown.instances⟩

theorem Node.Stands.grown {node : Node ρ σ} (h : node.Stands r K c) (grown : c.Grows c') :
    node.Stands r K c' := by
  intro site asked
  have stands := h site asked
  cases site with
  | leaf l v => exact Leaf.Stands.grown stands grown
  | predicate run v =>
    obtain ⟨key, run⟩ := stands
    exact ⟨key, run.moved fun _ => grown.instances⟩
  | handler | refusal => trivial

theorem Cache.Sound.moved (h : c.Sound r K)
    (steps : ∀ {key argsKey s}, c'.step? key argsKey = some s → c.step? key argsKey = some s ∧
      ∀ i, c.instance? key = some i → c'.instance? key = some i) : c'.Sound r K := by
  intro key argsKey s found
  obtain ⟨there, instances⟩ := steps found
  exact (h key argsKey s there).moved instances

/-- Which steps a cache has, and for what, depends on its entries only. -/
theorem Cache.Sound.congr (h : c.Sound r K) (entries : c'.entries = c.entries) : c'.Sound r K := by
  refine h.moved fun {key argsKey s} found => ⟨?_, fun i there => ?_⟩
  · rwa [step?_congr entries] at found
  · rwa [instance?_congr entries]

theorem Cache.Piped.grown (h : c.Piped r K) (e : c.Extends c') : c'.Piped r K := by
  intro key made kept
  rw [Cache.pipeline?, e.pipelines] at kept
  obtain ⟨root, built, same, stands⟩ := h key made kept
  exact ⟨root, built, same, stands.grown e.grows⟩

theorem Cache.Piped.of_empty (h : c.pipelines = []) : c.Piped r K := by
  intro key made kept
  rw [Cache.pipeline?, h] at kept
  cases kept

theorem Node.stands_leaf {l : Leaf ρ σ} (h : l.Stands r K c) : (Node.leaf l).Stands r K c := by
  intro site asked
  obtain ⟨v, rfl⟩ := Node.mayAsk_leaf.mp asked
  exact h

theorem Node.stands_fresh {name : String} {children : List (Node ρ σ)} {strategy : Strategy ρ σ}
    (inner : ∀ child ∈ children, child.Stands r K c)
    (own : ∀ run negate otherwise, strategy = .conditional run negate otherwise →
      ∃ key, run.StandsAt r K c key) : (Node.fresh name children strategy).Stands r K c := by
  intro site asked
  rcases Node.mayAsk_fresh.mp asked with asks | ⟨child, mem, asked⟩
  · cases asks with
    | predicate v => exact own _ _ _ rfl
    | _ => trivial
  · exact inner child mem site asked

section Resolve

variable {request : Request ρ σ}

theorem Resolver.Offers.step? {key : String} {i : Instance ρ σ}
    {constructed : Option (String × String)} (h : Offers r owner request w key i constructed w')
    (k argsKey : String) : (w'.store key i).2.cache.step? k argsKey = w.cache.step? k argsKey := by
  have stored : (w'.store key i).2.cache.step? k argsKey = w'.cache.step? k argsKey :=
    w'.cache.step?_keepInstance key k argsKey i
  rw [stored]
  cases h <;> rfl

omit [Record ρ σ] in
theorem Resolver.Boots.step? {i : Instance ρ σ} {outcome : Option (Except Fault Unit)}
    (h : Boots i owner w outcome w') (k argsKey : String) :
    w'.cache.step? k argsKey = w.cache.step? k argsKey := by
  cases h <;> rfl

theorem Resolver.Offers.stands {key : String} {i j : Instance ρ σ}
    {constructed : Option (String × String)} (h : Offers r owner request w key i constructed w')
    (known : K request) (there : c.instance? key = some j) :
    (Source.ofInstance key request j).Stands r K c := by
  cases h with
  | given identity => exact .given identity there
  | cached identity type => exact .type known identity type there
  | constructed identity registered found isNode =>
    refine .type known identity ⟨_, ?_, isNode⟩ there
    rw [info?, registered]
    exact found
  | answered identity | kept identity => exact .answered known identity there

/-- The step for a source is there, or is made of its code. -/
theorem step_stands {source : Source ρ σ} (stands : source.Stands r K w.cache)
    (sound : w.cache.Sound r K) (args : List Arg) :
    ∃ s w', step source.key args source.name (source.body args) w = (.ok s, w') ∧
      w'.cache.Sound r K ∧ source.Stands r K w'.cache ∧
      s.run.StandsAt r K w'.cache source.key := by
  cases there : w.cache.step? source.key (Arg.key args) with
  | some s => exact ⟨s, w, step_again there _ _, sound, stands, sound _ _ s there⟩
  | none =>
    refine ⟨_, _, step_new there _ _, ?_, ?_, ?_⟩
    · intro key argsKey s found
      have kept {key : String} {run : Callable ρ σ} (h : run.StandsAt r K w.cache key) :
          run.StandsAt r K (w.cache.keepStep source.key (Arg.key args)
            ⟨w.issued, (source.body args).asNode source.name⟩).2 key :=
        h.moved fun i found => by simp [found]
      obtain before | ⟨-, ⟨own, -⟩, rfl⟩ := Cache.keepStep_cases found
      · exact kept (sound key argsKey s before)
      · exact kept ⟨source, args, stands, own.symm, rfl⟩
    · exact stands.moved fun i found => by simp [found]
    · refine ⟨source, args, stands.moved fun i found => ?_, rfl, rfl⟩
      simp [found]

theorem Resolver.Bare.stands {s : RunState σ} {found : Resolution ρ σ}
    (h : Bare r owner request s found) (known : K request) (sound : w.cache.Sound r K)
    (name : String) (args : List Arg) :
    (∃ fault, r.leaf found name args owner w = (.error fault, w)) ∨
      ∃ l w', r.leaf found name args owner w = (.ok l, w') ∧ w'.cache.Sound r K ∧
        l.Stands r K w'.cache := by
  cases h with
  | unresolved => exact .inl ⟨_, rfl⟩
  | method identity there =>
    obtain ⟨s, w', stepped, sound', stands, run⟩ := step_stands (.method there) sound args
    exact .inr ⟨_, w', bind_of_ok stepped _, sound', _, stands, rfl, rfl, run⟩
  | raw identity last answer =>
    obtain ⟨s, w', stepped, sound', stands, run⟩ := step_stands (.raw known last answer) sound args
    exact .inr ⟨_, w', bind_of_ok stepped _, sound', _, stands, rfl, rfl, run⟩

/-- Resolution keeps a sound cache sound, and yields what stands in it. -/
theorem resolve_stands {d : Declaration ρ σ} (known : ∀ request, d = .node request → K request)
    (sound : w.cache.Sound r K) {result : Except Fault (Leaf ρ σ)}
    (ran : r.resolve d owner w = (result, w')) :
    w'.cache.Sound r K ∧ ∀ l, result = .ok l → l.Stands r K w'.cache := by
  cases d with
  | failTo | group =>
    cases ran
    exact ⟨sound, fun l e => by cases e⟩
  | node request =>
    rw [Resolver.resolve, bind_run] at ran
    by_cases offered : ∃ key i constructed w₁, Offers r owner request w key i constructed w₁
    · obtain ⟨key, i, constructed, w₁, offers⟩ := offered
      obtain ⟨outcome, w₂, boots, booted⟩ :=
        exists_boots (w₁.store key i).1 owner (w₁.store key i).2
      have there : w₂.cache.instance? key = some (w₁.store key i).1 := by
        simp [boots.instance?]
      have stored : w₂.cache.Sound r K := by
        refine sound.moved fun {k argsKey s} found => ⟨?_, fun j before => ?_⟩
        · rwa [boots.step?, offers.step?] at found
        · rw [boots.instance?, Workspace.instance?_store]
          split
          · next own =>
            rw [own] at before
            rw [Workspace.store_of_some ((offers.instance? key).trans before)]
          · rw [offers.instance?, before]
      rw [locate_offers offers booted] at ran
      cases fine : outcome.getD (.ok ()) with
      | error fault =>
        rw [fine] at ran
        cases ran
        exact ⟨stored, fun l e => by cases e⟩
      | ok =>
        rw [fine] at ran
        obtain ⟨s, w₃, stepped, sound', stands, run⟩ :=
          step_stands (offers.stands (known request rfl) there) stored request.callArgs
        cases ran.symm.trans (bind_of_ok stepped _)
        refine ⟨sound', ?_⟩
        rintro _ ⟨⟩
        exact ⟨_, stands, rfl, rfl, run⟩
    · simp only [not_exists] at offered
      have idle (s : RunState σ) : ({ w with run := s } : Workspace ρ σ).cache.Sound r K := sound
      rcases locate_nothing offered with ⟨fault, t, located⟩ | ⟨found, t, located, bare, -⟩
      · rw [located] at ran
        cases ran
        exact ⟨sound, fun l e => by cases e⟩
      · rw [located] at ran
        rcases bare.stands (known request rfl) (idle t) _ request.callArgs with
          ⟨fault, refused⟩ | ⟨l, w₁, made, sound', stands⟩
        · cases ran.symm.trans refused
          exact ⟨sound, fun l e => by cases e⟩
        · cases ran.symm.trans made
          refine ⟨sound', ?_⟩
          rintro _ ⟨⟩
          exact stands

theorem Resolver.Trail.sound {visits : List (Visit ρ σ)} (h : Trail r w visits w')
    (known : ∀ visit ∈ visits, ∀ request, visit.declaration = .node request → K request)
    (sound : w.cache.Sound r K) : w'.cache.Sound r K := by
  induction h with
  | quiet still => exact sound.congr still.entries
  | visit ran course =>
    exact (resolve_stands (List.forall_mem_singleton.mp known) sound ran).1
  | append first next ih ih' =>
    rw [List.forall_mem_append] at known
    exact ih' known.2 (ih known.1 sound)

end Resolve

namespace Chain

variable {ds : List (Declaration ρ σ)}

/-- All requests of declarations have the property `K`. -/
def Known (K : Request ρ σ → Prop) (ds : List (Declaration ρ σ)) : Prop :=
  ∀ d ∈ ds, ∀ request, .node request ∈ d.requests → K request

omit [Record ρ σ] in
theorem Known.requestsMeet {owner : ρ} (known : Known K ds) : ∀ d ∈ ds, RequestsMeet owner
    (fun visit => ∀ request, visit.declaration = .node request → K request) d :=
  fun d mem _ _ asked request declared => known d mem request (declared ▸ asked)

/-- What a successful walk makes stands in the cache that it leaves. -/
theorem Compiles.stands {take : Take} {taken used : Nat} {done done' : List (Node ρ σ)}
    (h : Compiles r owner direction take taken done ds w done' used w') (known : Known K ds)
    (sound : w.cache.Sound r K) (before : ∀ node ∈ done, node.Stands r K w.cache) :
    w'.cache.Sound r K ∧ ∀ node ∈ done', node.Stands r K w'.cache := by
  have later {d : Declaration ρ σ} {rest : List (Declaration ρ σ)} (known : Known K (d :: rest))
      (n : Nat) : Known K (rest.drop n) :=
    fun e mem => known e (List.mem_cons_of_mem d (List.mem_of_mem_drop mem))
  have grown {nodes : List (Node ρ σ)} {c c' : Cache ρ σ} (grows : c.Grows c')
      (h : ∀ node ∈ nodes, node.Stands r K c) : ∀ node ∈ nodes, node.Stands r K c' :=
    fun node mem => (h node mem).grown grows
  induction h with
  | full | atEnd => exact ⟨sound, before⟩
  | node open_ ran after ih =>
    obtain ⟨sound', stands⟩ := resolve_stands
      (fun request e => known _ List.mem_cons_self request (List.mem_singleton.mpr e.symm))
      sound ran
    have extended := ((r.lossless_resolve ..).after ran).grows
    refine ih (later known 0) sound' (List.forall_mem_cons.mpr ⟨?_, grown extended before⟩)
    exact Node.stands_leaf (stands _ rfl)
  | failTo open_ handled after ih =>
    obtain ⟨last, others⟩ := List.forall_mem_cons.mp before
    refine ih (later known 0) sound (List.forall_mem_cons.mpr ⟨?_, others⟩)
    exact Node.stands_fresh (List.forall_mem_singleton.mpr last) nofun
  | inactive open_ switched body after ih =>
    refine ih (later known _) sound (List.forall_mem_cons.mpr ⟨?_, before⟩)
    exact Node.stands_fresh (List.forall_mem_nil _) nofun
  | active open_ switched opened body joined after ihb iha =>
    obtain ⟨sound', inner⟩ := ihb (later known 0) sound (List.forall_mem_nil _)
    have inner' := fun node mem => inner node (List.mem_reverse.mp mem)
    have body_ := grown body.grows before
    obtain ⟨name, strategy, rfl, bare, rfl⟩ |
        ⟨condition, negate, count, otherwise, l, rfl, ran, rfl⟩ := join_cases joined
    · refine iha (later known _) sound' (List.forall_mem_cons.mpr ⟨?_, body_⟩)
      exact Node.stands_fresh inner' fun _ _ _ e => absurd e (bare _ _ _)
    · obtain ⟨sound'', stands⟩ := resolve_stands
        (fun request e => known _ List.mem_cons_self request (List.mem_singleton.mpr e.symm))
        sound' ran
      have extended := ((r.lossless_resolve ..).after ran).grows
      refine iha (later known _) sound'' (List.forall_mem_cons.mpr ⟨?_, grown extended body_⟩)
      refine Node.stands_fresh (grown extended inner') ?_
      rintro _ _ _ ⟨⟩
      obtain ⟨source, -, -, -, run⟩ := stands l rfl
      exact ⟨source.key, run⟩

theorem compile_stands {q q' : Queue ρ σ} {take : Take} {root : Node ρ σ}
    (h : compile r q owner direction take w = ((.ok root, q'), w')) (known : Known K q.rest)
    (sound : w.cache.Sound r K) : root.Stands r K w'.cache := by
  obtain ⟨children, used, walk, rfl, -⟩ := compile_eq_ok.mp h
  obtain ⟨-, inner⟩ := walk.stands known sound (List.forall_mem_nil _)
  exact Node.stands_fresh (fun node mem => inner node (List.mem_reverse.mpr mem)) nofun

/-- A compiled tree is made of what its resolutions yielded, and stands in the cache. -/
theorem compileAll_stands {made : Compiled ρ σ}
    (h : compileAll r ds owner direction w = (.ok made, w')) (known : Known K ds)
    (sound : w.cache.Sound r K) :
    ∃ (root : Node ρ σ) (visits : List (Visit ρ σ)), root.Built ∧ made.run = root.compile ∧
      root.Stands r K w'.cache ∧ r.Trail w visits w' ∧ root.Found visits := by
  obtain ⟨children, used, w₁, walk, rfl, rfl⟩ := compileAll_eq_ok.mp h
  have built := compile_eq_ok (q := ⟨ds, 0⟩).mpr ⟨children, used, walk, rfl, rfl⟩
  have stands := compile_stands (q := ⟨ds, 0⟩) built known sound
  obtain ⟨visits, trail, -, found⟩ := walk.trail
  refine ⟨_, visits, ⟨r, _, _, owner, direction, .all, w, w₁, built⟩, rfl, stands,
    trail.still ⟨rfl, rfl, rfl, Nat.le_succ _⟩, ?_⟩
  exact Node.found_fresh
    (fun node mem => found [] (List.forall_mem_nil _) node (List.mem_reverse.mpr mem)) nofun

theorem compileAll_sound (known : Known K ds) (sound : w.cache.Sound r K) :
    (compileAll r ds owner direction w).2.cache.Sound r K := by
  obtain ⟨visits, trail, all⟩ := (leavesTrail_compileAll direction known.requestsMeet).trail w
  exact trail.sound all sound

end Chain

/-- All requests that come up in a job have the property `K`. -/
def Job.Known (p : Processor ρ σ) (K : Request ρ σ → Prop) (job : Job ρ σ) : Prop :=
  ∀ request, p.Needs job (.node request) → K request

/-- Every step of a cache runs the code of its entry, and every pipeline is made of such steps. -/
structure Cache.Backed (r : Resolver ρ σ) (K : Request ρ σ → Prop) (c : Cache ρ σ) : Prop where
  sound : c.Sound r K
  piped : c.Piped r K

theorem Cache.Backed.of_empty (h : c = {}) : c.Backed r K := by
  refine ⟨fun key argsKey s found => ?_, .of_empty (by rw [h])⟩
  rw [h] at found
  cases found

/-- An entry goes, and all pipelines with it. -/
theorem Cache.Backed.drop (h : c.Backed r K) (key : String) : (c.drop key).2.Backed r K := by
  cases there : c.contains key with
  | false =>
    rw [drop_absent there]
    exact h
  | true =>
    refine ⟨h.sound.moved fun {k argsKey s} found => ?_, .of_empty (pipelines_drop there)⟩
    obtain ⟨other, before⟩ := step?_drop_eq_some.mp found
    exact ⟨before, fun i kept => instance?_drop_eq_some.mpr ⟨other, kept⟩⟩

namespace Processor

variable {p : Processor ρ σ} {context : Value}

/-- A pipeline stands in the cache. If it was not there already, it is made of what was resolved. -/
theorem pipeline_stands {record : ρ} {f : FieldDeclarations ρ σ} {made : Compiled ρ σ}
    (h : w.cache.Backed p.resolver K) (known : Chain.Known K f.declarations)
    (piped : p.pipeline record f direction w = (.ok made, w')) :
    ∃ (root : Node ρ σ) (visits : List (Visit ρ σ)), root.Built ∧ made.run = root.compile ∧
      root.Stands p.resolver K w'.cache ∧ Trail p.resolver w visits w' ∧
      (w' = w ∨ root.Found visits) := by
  cases there : w.cache.pipeline? (pipelineKey record f.field direction) with
  | some kept =>
    rw [pipeline_of_some there] at piped
    cases piped
    obtain ⟨root, built, same, stands⟩ := h.piped _ _ there
    exact ⟨root, [], built, same, stands, .refl _ _, .inl rfl⟩
  | none =>
    rw [pipeline_of_none there] at piped
    rcases compiled : Chain.compileAll p.resolver f.declarations record direction w with
      ⟨fault | made, w₁⟩
    · rw [compiled] at piped
      cases piped
    · rw [compiled] at piped
      cases piped
      obtain ⟨root, visits, built, same, stands, trail, found⟩ :=
        Chain.compileAll_stands compiled known h.sound
      have kept := w₁.quiet_keepPipeline (pipelineKey record f.field direction) made
      exact ⟨root, visits, built, same, stands.grown kept.grows, trail.still kept, .inr found⟩

theorem pipeline_backed {record : ρ} {f : FieldDeclarations ρ σ}
    {result : Except Fault (Compiled ρ σ)} (h : w.cache.Backed p.resolver K)
    (known : Chain.Known K f.declarations) (ran : p.pipeline record f direction w = (result, w')) :
    w'.cache.Backed p.resolver K := by
  cases there : w.cache.pipeline? (pipelineKey record f.field direction) with
  | some made =>
    rw [pipeline_of_some there] at ran
    cases ran
    exact h
  | none =>
    have sound : (Chain.compileAll p.resolver f.declarations record direction w).2.cache.Sound
        p.resolver K := Chain.compileAll_sound known h.sound
    have extended :=
      (Chain.lossless_compileAll p.resolver f.declarations record direction).extends_ w
    have stands {made : Compiled ρ σ} (ok : result = .ok made) := pipeline_stands h known (ok ▸ ran)
    rw [pipeline_of_none there] at ran
    rcases compiled : Chain.compileAll p.resolver f.declarations record direction w with
      ⟨fault | made, w₁⟩
    · rw [compiled] at ran sound extended
      cases ran
      exact ⟨sound, h.piped.grown extended⟩
    · rw [compiled] at ran sound extended
      cases ran
      have grown := w₁.cache.grows_keepPipeline (pipelineKey record f.field direction) made
      refine ⟨Cache.Sound.congr (c := w₁.cache) sound rfl, fun key kept found => ?_⟩
      change (w₁.cache.keepPipeline _ made).2.pipeline? key = some kept at found
      obtain before | ⟨-, -, rfl⟩ := Cache.keepPipeline_cases found
      · obtain ⟨root, built, same, stands⟩ := h.piped.grown extended key kept before
        exact ⟨root, built, same, stands.grown grown⟩
      · obtain ⟨root, -, built, same, stands, -⟩ := stands rfl
        exact ⟨root, built, same, stands⟩

theorem processFields_backed {fields : List (FieldDeclarations ρ σ)}
    (known : ∀ f ∈ fields, Chain.Known K f.declarations) (record : ρ) (report : Report)
    (h : w.cache.Backed p.resolver K) :
    (p.processFields context direction fields record report w).2.cache.Backed p.resolver K :=
  processFields_across (R := fun w w' => w.cache.Backed p.resolver K → w'.cache.Backed p.resolver K)
    (fun _ h => h) (fun first next h => next (first h)) (fun _ _ h => h) context direction
    (fun f mem _ _ h => pipeline_backed h (known f mem) rfl) record report w h

/-- Whatever an application does, what is in the cache is backed. -/
theorem afterJob_backed {job : Job ρ σ} (known : job.Known p K) (h : w.cache.Backed p.resolver K) :
    (p.afterJob w job).cache.Backed p.resolver K := by
  cases job with
  | resolve d owner =>
    have extended := (p.resolver.lossless_resolve d owner).extends_ w
    have asked (request : Request ρ σ) (e : d = .node request) : K request :=
      known request (e ▸ .resolve d owner)
    exact ⟨(resolve_stands asked h.sound rfl).1, h.piped.grown extended⟩
  | compile ds owner direction =>
    have extended := (Chain.lossless_compileAll p.resolver ds owner direction).extends_ w
    refine ⟨Chain.compileAll_sound (fun d mem request asked => ?_) h.sound, h.piped.grown extended⟩
    exact known request (.compile mem asked)
  | call c =>
    cases c with
    | clear => exact .of_empty rfl
    | clearKey key => exact h.drop key
    | other change => exact h
    | pipeline l =>
      exact pipeline_backed h (fun d mem request asked => known request (.pipeline mem asked)) rfl
    | process record direction =>
      exact processFields_backed
        (fun f field d mem request asked => known request (.process field mem asked)) _ _ h

theorem jobs_backed {jobs : List (Job ρ σ)} (known : ∀ job ∈ jobs, job.Known p K)
    (h : w.cache.Backed p.resolver K) : (jobs.foldl p.afterJob w).cache.Backed p.resolver K := by
  induction jobs generalizing w with
  | nil => exact h
  | cons job rest ih =>
    obtain ⟨first, others⟩ := List.forall_mem_cons.mp known
    exact ih others (afterJob_backed first h)

theorem Reaches.backed {fields : List (FieldDeclarations ρ σ)} {d : FieldDeclarations ρ σ}
    {record current : ρ} {u : Workspace ρ σ}
    (reached : p.Reaches context direction fields record w d current u)
    (known : ∀ f ∈ fields, Chain.Known K f.declarations) (h : w.cache.Backed p.resolver K) :
    u.cache.Backed p.resolver K := by
  obtain ⟨before, after, report, rfl, ran⟩ := reached
  have there : (p.processFields context direction before record {} w).2.cache.Backed p.resolver K :=
    processFields_backed (fun f mem => known f (List.mem_append_left _ mem)) record {} h
  rw [ran] at there
  exact there

end Processor

/-- A key of some kind, and the name that the code of its entry runs under. -/
inductive Cache.Names (c : Cache ρ σ) : EntryKind → String → String → Prop
  | type (name : String) {args : Option (List Arg)} (addressed : Addressed args) :
      Names c .type (typeKey name args) name
  | fallback (name : String) {args : Option (List Arg)} (addressed : Addressed args) :
      Names c .fallback (fallbackKey name args) name
  | ready (name : String) {id : InstanceId} {i : Instance ρ σ}
      (there : c.instance? (instanceKey name id) = some i) :
      Names c .ready (instanceKey name id) i.node.name
  | method (recordType name : String) :
      Names c .method (methodKey recordType name) (recordType ++ "::" ++ name)

section Names

variable {kind : EntryKind} {key name name' : String}

omit [Record ρ σ] in
theorem Cache.Names.letter (h : c.Names kind key name) :
    key.toList.head? = some kind.letter := by
  cases h <;> simp [typeKey, fallbackKey, instanceKey, methodKey, EntryKind.letter]

omit [Record ρ σ] in
theorem Cache.Names.kind_eq {kind' : EntryKind} (h : c.Names kind key name)
    (h' : c.Names kind' key name') : kind = kind' := by
  have letters := h.letter.symm.trans h'.letter
  exact EntryKind.letter_injective (Option.some.inj letters)

omit [Record ρ σ] in
/-- A key tells the name, since identities in arguments stand for addresses. -/
theorem Cache.Names.name_eq (h : c.Names kind key name) (h' : c.Names kind key name') :
    name = name' := by
  generalize same : key = key' at h'
  cases h with
  | type name addressed =>
    cases h' with
    | type name' addressed' => exact ((typeKey_eq_iff addressed addressed').mp same).1
  | fallback name addressed =>
    cases h' with
    | fallback name' addressed' => exact ((fallbackKey_eq_iff addressed addressed').mp same).1
  | ready name there =>
    cases h' with
    | ready name' there' =>
      rw [same] at there
      cases there.symm.trans there'
      rfl
  | method recordType name =>
    cases h' with
    | method recordType' name' => exact methodKey_eq_iff.mp same

theorem Source.Stands.names {source : Source ρ σ} (h : source.Stands r K c)
    (addressed : ∀ request, K request → Addressed request.constructorArgs) :
    ∃ kind, c.Names kind source.key source.name := by
  cases h with
  | @given request label t i identity there =>
    refine ⟨.ready, ?_⟩
    have own : className request i = i.node.name := by rw [className, identity]
    rw [ofInstance, own]
    exact .ready t.name there
  | @type request name i known identity type there =>
    refine ⟨.type, ?_⟩
    rw [ofInstance, className_named identity]
    exact .type name (addressed request known)
  | @answered request name i known identity there =>
    refine ⟨.fallback, ?_⟩
    rw [ofInstance, className_named identity]
    exact .fallback name (addressed request known)
  | @method owner name arity there => exact ⟨.method, .method (Record.typeName owner) name⟩
  | @raw request name owner resolve s s' run known last answer =>
    exact ⟨.fallback, .fallback name (addressed request known)⟩

/-- The code of one entry runs under one name. -/
theorem Source.Stands.name_eq {a b : Source ρ σ} (h : a.Stands r K c) (h' : b.Stands r K c)
    (addressed : ∀ request, K request → Addressed request.constructorArgs) (same : a.key = b.key) :
    a.name = b.name := by
  obtain ⟨kind, first⟩ := h.names addressed
  obtain ⟨kind', second⟩ := h'.names addressed
  rw [← same] at second
  cases first.kind_eq second
  exact first.name_eq second

/-- A leaf runs code under its own name. -/
theorem Leaf.Stands.runs {l : Leaf ρ σ} (h : l.Stands r K c)
    (addressed : ∀ request, K request → Addressed request.constructorArgs) :
    ∃ (source : Source ρ σ) (args : List Arg), source.Stands r K c ∧ source.name = l.name ∧
      l.step.run = (source.body args).asNode l.name := by
  obtain ⟨own, stands, name, -, source, args, stands', place, run⟩ := h
  have same : source.name = l.name := (stands'.name_eq stands addressed place).trans name.symm
  exact ⟨source, args, stands', same, same ▸ run⟩

end Names

end FieldPipeline
