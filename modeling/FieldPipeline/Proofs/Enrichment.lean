import FieldPipeline.Proofs.Backing

namespace FieldPipeline

open Outcome Resolver

variable {ρ σ α β : Type}

/-- What a rejection passes on its way out of a plan. -/
inductive Layer where
  | element (i : Nat)
  | template (general : Option String) (pairs : List (String × String))

namespace Layer

def pass : Layer → Rejection → Rejection
  | element i, r => r.inElement i
  | template general pairs, r => Strategy.retemplate general pairs r

def position? : Layer → Option Nat
  | element i => some i
  | template .. => none

/-- What a layer has for rejections with the template `name`. -/
def replacement? (name : String) : Layer → Option String
  | element _ => none
  | template general pairs => (Table.get? name pairs).or general

/-- The rejection as seen from outside the layers, the outermost of which comes first. -/
def passAll (layers : List Layer) (r : Rejection) : Rejection :=
  layers.foldr pass r

def positions (layers : List Layer) : List Nat :=
  layers.filterMap position?

/-- What the template of a rejection is replaced with: what the innermost layer has for it, of those
that have anything. -/
def rewrite? (layers : List Layer) (r : Rejection) : Option String :=
  if r.overridden then none else layers.reverse.findSome? (replacement? r.template)

theorem rewrite?_element (i : Nat) (layers : List Layer) (r : Rejection) :
    rewrite? (element i :: layers) r = rewrite? layers r := by
  simp [rewrite?, replacement?]

theorem rewrite?_template (general : Option String) (pairs : List (String × String))
    (layers : List Layer) (r : Rejection) :
    rewrite? (template general pairs :: layers) r =
      if r.overridden then none
      else (rewrite? layers r).or ((Table.get? r.template pairs).or general) := by
  unfold rewrite?
  split
  · rfl
  · simp [replacement?]

/-- Layers add positions and replace the template, once; they leave everything else as it is. -/
theorem passAll_eq (layers : List Layer) (r : Rejection) : passAll layers r =
    { r with
      template := (rewrite? layers r).getD r.template
      overridden := r.overridden || (rewrite? layers r).isSome
      indices := positions layers ++ r.indices } := by
  induction layers with
  | nil => simp [passAll, positions, rewrite?]
  | cons layer rest ih =>
    change layer.pass (passAll rest r) = _
    rw [ih]
    cases layer with
    | element i =>
      rw [rewrite?_element]
      rfl
    | template general pairs =>
      rw [rewrite?_template]
      have places : positions (template general pairs :: rest) = positions rest := rfl
      rw [places, pass, Strategy.retemplate]
      cases overridden : r.overridden with
      | true => simp [rewrite?, overridden]
      | false =>
        cases inner : rewrite? rest r with
        | some t => simp
        | none =>
          cases own : (Table.get? r.template pairs).or general with
          | none => simp [own]
          | some t => simp [own, Rejection.replaceTemplate]

end Layer

section Raises

variable [Record ρ σ]

/-- A run of the plan ends with the rejection that `site` raises when it is asked in the state
`before`, seen from outside the layers around the site. What deals with a rejection may raise the
same one again. -/
inductive Plan.Raises (scope : Scope ρ) (site : Site ρ σ) (before : RunState σ)
    (raised : Rejection) : {α : Type} → Plan ρ σ α → RunState σ → List Layer → Rejection → Prop
  | ask {after : RunState σ} (ran : site.run scope before = (.error (.rejected raised), after)) :
    Raises scope site before raised (.ask site) before [] raised
  | first {α β : Type} {first : Plan ρ σ α} {next : α → Plan ρ σ β} {s : RunState σ}
    {layers : List Layer} {r : Rejection}
    (inside : Raises scope site before raised first s layers r) :
    Raises scope site before raised (.andThen first next) s layers r
  | next {α β : Type} {first : Plan ρ σ α} {next : α → Plan ρ σ β} {s s' : RunState σ} {a : α}
    {layers : List Layer} {r : Rejection} (ran : first.run scope s = (.ok a, s'))
    (inside : Raises scope site before raised (next a) s' layers r) :
    Raises scope site before raised (.andThen first next) s layers r
  | element {i : Nat} {inner : Plan ρ σ Value} {s : RunState σ} {layers : List Layer}
    {r : Rejection}
    (inside : Raises scope site before raised inner (scope.enter ("[" ++ toString i ++ "]") s)
      layers r) :
    Raises scope site before raised (.element i inner) s (.element i :: layers) (r.inElement i)
  | recovery {first : Plan ρ σ Value} {next : Rejection → Plan ρ σ Value} {s s' : RunState σ}
    {seen r : Rejection} {layers : List Layer}
    (ran : first.run scope s = (.error (.rejected seen), s'))
    (inside : Raises scope site before raised (next seen) s' layers r) :
    Raises scope site before raised (.orElse first next) s layers r
  | again {first : Plan ρ σ Value} {next : Rejection → Plan ρ σ Value} {s s' s'' : RunState σ}
    {r : Rejection} {layers : List Layer}
    (inside : Raises scope site before raised first s layers r)
    (ran : first.run scope s = (.error (.rejected r), s'))
    (same : (next r).run scope s' = (.error (.rejected r), s'')) :
    Raises scope site before raised (.orElse first next) s layers r
  | retemplate {general : Option String} {pairs : List (String × String)} {inner : Plan ρ σ Value}
    {s : RunState σ} {layers : List Layer} {r : Rejection}
    (inside : Raises scope site before raised inner s layers r) :
    Raises scope site before raised (.retemplate general pairs inner) s
      (.template general pairs :: layers) (Strategy.retemplate general pairs r)

namespace Plan

variable {scope : Scope ρ} {site : Site ρ σ} {before s : RunState σ} {raised r : Rejection}
  {layers : List Layer} {plan : Plan ρ σ α}

theorem Raises.passed (h : plan.Raises scope site before raised s layers r) :
    r = Layer.passAll layers raised := by
  induction h with
  | ask ran => rfl
  | first inside ih | next ran inside ih | recovery ran inside ih | again inside ran same ih =>
    exact ih
  | element inside ih | retemplate inside ih =>
    rw [ih]
    rfl

theorem Raises.asked (h : plan.Raises scope site before raised s layers r) :
    (site.run scope before).1 = .error (.rejected raised) := by
  induction h with
  | ask ran => rw [ran]
  | first inside ih | next ran inside ih | recovery ran inside ih | again inside ran same ih
  | element inside ih | retemplate inside ih => exact ih

theorem Raises.within {P : Site ρ σ → Prop} (h : plan.Raises scope site before raised s layers r)
    (all : plan.Within P) : P site := by
  induction h with
  | ask ran => exact all
  | first inside ih | again inside ran same ih => exact ih all.1
  | next ran inside ih | recovery ran inside ih => exact ih (all.2 _)
  | element inside ih | retemplate inside ih => exact ih all

/-- A run ends with a rejection if and only if a site raises it. -/
theorem raises_iff : (plan.run scope s).1 = .error (.rejected r) ↔
    ∃ site before raised layers, plan.Raises scope site before raised s layers r := by
  constructor
  · intro h
    induction plan generalizing s r with
    | done a => cases h
    | ask site => exact ⟨site, s, r, [], .ask (Prod.ext h rfl)⟩
    | andThen first next ihf ihn =>
      rw [andThen_run] at h
      rcases ran : first.run scope s with ⟨fault | a, s'⟩
      · rw [ran] at h
        cases h
        obtain ⟨site, before, raised, layers, inside⟩ := ihf (congrArg Prod.fst ran)
        exact ⟨site, before, raised, layers, .first inside⟩
      · rw [ran] at h
        obtain ⟨site, before, raised, layers, inside⟩ := ihn a h
        exact ⟨site, before, raised, layers, .next ran inside⟩
    | element i inner ih =>
      rw [run, Scope.framed_fst, Act.onRejection_rejected] at h
      obtain ⟨seen, failed, rfl⟩ := h
      obtain ⟨site, before, raised, layers, inside⟩ := ih failed
      exact ⟨site, before, raised, _, .element inside⟩
    | orElse first next ihf ihn =>
      rw [run, Act.orElseRejected] at h
      rcases ran : first.run scope s with ⟨fault | v, s'⟩
      · rw [ran] at h
        cases fault with
        | rejected seen =>
          obtain ⟨site, before, raised, layers, inside⟩ := ihn seen h
          exact ⟨site, before, raised, layers, .recovery ran inside⟩
        | _ => cases h
      · rw [ran] at h
        cases h
    | retemplate general pairs inner ih =>
      rw [run, Act.onRejection_rejected] at h
      obtain ⟨seen, failed, rfl⟩ := h
      obtain ⟨site, before, raised, layers, inside⟩ := ih failed
      exact ⟨site, before, raised, _, .retemplate inside⟩
  · rintro ⟨site, before, raised, layers, h⟩
    induction h with
    | ask ran => exact congrArg Prod.fst ran
    | @first _ _ first next s _ _ inside ih =>
      rw [andThen_run]
      rcases ran : first.run scope s with ⟨fault | a, s'⟩
      · rw [ran] at ih
        cases ih
        rfl
      · rw [ran] at ih
        cases ih
    | next ran inside ih =>
      rw [andThen_run, ran]
      exact ih
    | element inside ih =>
      rw [run, Scope.framed_fst, Act.onRejection_rejected]
      exact ⟨_, ih, rfl⟩
    | recovery ran inside ih =>
      rw [run, Act.orElseRejected, ran]
      exact ih
    | again inside ran same ih =>
      rw [run, Act.orElseRejected, ran]
      exact congrArg Prod.fst same
    | retemplate inside ih =>
      rw [run, Act.onRejection_rejected]
      exact ⟨_, ih, rfl⟩

end Plan

/-- The identities in the constructor arguments stand for addresses. -/
def Request.Addressed (request : Request ρ σ) : Prop :=
  Resolver.Addressed request.constructorArgs

/-- The code that a site runs as a node, and the value that it gets. -/
def Site.call? : Site ρ σ → Option (Callable ρ σ × Value)
  | leaf l v => some (l.step.run, v)
  | predicate run v => some (run, v)
  | handler .. | refusal .. => none

section Call

variable {site : Site ρ σ} {run : Callable ρ σ} {v : Value} {scope : Scope ρ} {s : RunState σ}

theorem Site.run_call (called : site.call? = some (run, v)) (scope : Scope ρ) :
    site.run scope = run v scope := by
  cases site with
  | leaf | predicate =>
    cases called
    rfl
  | handler | refusal => cases called

/-- A site runs code of a source, under its name. -/
theorem Site.Stands.call {r : Resolver ρ σ} {K : Request ρ σ → Prop} {c : Cache ρ σ}
    (h : site.Stands r K c) (called : site.call? = some (run, v))
    (addressed : ∀ request, K request → request.Addressed) :
    ∃ (source : Source ρ σ) (args : List Arg), source.Stands r K c ∧
      (∀ l value, site = .leaf l value → l.name = source.name) ∧
      run = (source.body args).asNode source.name := by
  cases site with
  | leaf l value =>
    cases called
    obtain ⟨source, args, stands, name, runs⟩ := Leaf.Stands.runs h addressed
    refine ⟨source, args, stands, ?_, name ▸ runs⟩
    rintro _ _ ⟨⟩
    exact name.symm
  | predicate body value =>
    cases called
    obtain ⟨key, source, args, stands, -, runs⟩ := h
    exact ⟨source, args, stands, nofun, runs⟩
  | handler | refusal => cases called

omit [Record ρ σ] in
/-- A node names the origin of a rejection, and gives the path while paths are traced. -/
theorem Callable.asNode_rejected_iff {name : String} {body : Callable ρ σ} {r : Rejection} :
    (body.asNode name v scope s).1 = .error (.rejected r) ↔
      ∃ raised after, body v scope (scope.enter name s) = (.error (.rejected raised), after) ∧
        r = { raised with
          origin := some (raised.origin.getD name)
          path := if scope.tracePaths then some (raised.path.getD after.trace.frames)
            else raised.path } := by
  have enriched (raised : Rejection) (frames : List String) : scope.enrich name frames raised =
      { raised with
        origin := some (raised.origin.getD name)
        path := if scope.tracePaths then some (raised.path.getD frames) else raised.path } := by
    unfold Scope.enrich
    split <;> rfl
  rw [asNode, Scope.framed_fst, Act.onRejection_rejected]
  constructor
  · rintro ⟨raised, failed, rfl⟩
    exact ⟨raised, _, Prod.ext failed rfl, enriched ..⟩
  · rintro ⟨raised, after, failed, rfl⟩
    refine ⟨raised, congrArg Prod.fst failed, ?_⟩
    rw [failed, enriched]

end Call

namespace Processor

/-- However a processor was used, a rejection leaves a pipeline that is compiled then if and only if
a site raises it. If the site is a leaf or a condition, it runs code of a source, and the rejection
is the one that this code raised: the origin is the name of the node if there was none, the path are
the frames inside the call if there was none and paths are traced, the positions of the elements
around the site come before those that it had, and the template is the one that the innermost error
template with one for it has, unless it was replaced before. Nothing else of it changes. -/
theorem rejection_kept {p : Processor ρ σ} {start w' : Workspace ρ σ} (fresh : start.cache = {})
    {jobs : List (Job ρ σ)}
    (known : ∀ job ∈ jobs, job.Known p Request.Addressed)
    {q q' : Queue ρ σ} {owner : ρ} {direction : Direction} {take : Take} {root : Node ρ σ}
    (asked : Chain.Known Request.Addressed q.rest)
    (compiled : Chain.compile p.resolver q owner direction take (jobs.foldl p.afterJob start) =
      ((.ok root, q'), w')) (v : Value) (scope : Scope ρ) (s : RunState σ) (left : Rejection) :
    ((root.compile v scope s).1 = .error (.rejected left) ↔
      ∃ site before raised layers,
        (root.plan v).Raises scope site before raised s layers left) ∧
    ∀ site before seen layers, (root.plan v).Raises scope site before seen s layers left →
      ∀ run value, site.call? = some (run, value) →
      ∃ (source : Source ρ σ) (args : List Arg) (raised : Rejection) (after : RunState σ),
        source.Stands p.resolver Request.Addressed w'.cache ∧
        (∀ l value', site = .leaf l value' → l.name = source.name) ∧
        run = (source.body args).asNode source.name ∧
        source.body args value scope (scope.enter source.name before) =
          (.error (.rejected raised), after) ∧
        left = { raised with
          template := (Layer.rewrite? layers raised).getD raised.template
          overridden := raised.overridden || (Layer.rewrite? layers raised).isSome
          origin := some (raised.origin.getD source.name)
          path := if scope.tracePaths then some (raised.path.getD after.trace.frames)
            else raised.path
          indices := Layer.positions layers ++ raised.indices } := by
  have built : root.Built := ⟨_, q, q', owner, direction, take, _, _, compiled⟩
  refine ⟨by rw [built.compile_run, Plan.raises_iff], ?_⟩
  intro site before seen layers raises run value called
  have stands := Chain.compile_stands compiled asked (jobs_backed known (.of_empty fresh)).sound
  have mayAsk : root.MayAsk site :=
    raises.within (Node.plan_within (fun part hp site asks => ⟨part, hp, asks⟩) v)
  obtain ⟨source, args, stood, name, rfl⟩ := (stands site mayAsk).call called fun _ known => known
  have failed := raises.asked
  rw [Site.run_call called, Callable.asNode_rejected_iff] at failed
  obtain ⟨raised, after, ran, rfl⟩ := failed
  refine ⟨source, args, raised, after, stood, name, rfl, ran, ?_⟩
  rw [raises.passed, Layer.passAll_eq]
  rfl

/-- A node raises a rejection with a path, a position and a property, inside an error template
inside an element. -/
theorem rejection_kept_nested :
    let bad : Rejection :=
      { template := "bad", path := some ["own"], indices := [7], property := some "size" }
    let grumble : Transformer Scripted.Form Scripted.Desk :=
      { name := "Grumble", apply := fun _ _ _ => throw (.rejected bad) }
    let ds : List (Declaration Scripted.Form Scripted.Desk) :=
      [.group (.each none), .group (.errorTemplate (some "friendly") [] none),
        .node { identity := .given "g" grumble }]
    let scope : Scope Scripted.Form :=
      { record := {}, context := .null, direction := .inbound, tracePaths := true }
    ∃ root q' w', Chain.compile {} ⟨ds, 0⟩ {} .inbound .all { run := { app := {} } } =
        ((.ok root, q'), w') ∧
      (root.compile (.array [.null]) scope { app := {} }).1 = .error (.rejected { bad with
        template := "friendly", overridden := true, origin := some "Grumble", indices := [0, 7] }) ∧
      ∃ source : Source Scripted.Form Scripted.Desk,
        source.Stands {} Request.Addressed w'.cache ∧ source.name = "Grumble" := by
  intro bad grumble ds scope
  let l : Leaf Scripted.Form Scripted.Desk :=
    { step := ⟨0, Callable.asNode "Grumble" fun v scope => grumble.apply v [] scope⟩
      backing := some ⟨.given "g", grumble⟩, className := "Grumble" }
  obtain ⟨w₁, resolved⟩ : ∃ w₁, Resolver.resolve {} (.node { identity := .given "g" grumble })
      ({} : Scripted.Form) { run := { app := {} } } = (.ok l, w₁) := ⟨_, rfl⟩
  have inner : Chain.Compiles {} ({} : Scripted.Form) .inbound .all 0 [] (ds.drop 2)
      { run := { app := {} } } [.leaf l] _ w₁ :=
    .node nofun resolved (.atEnd 1 _ _)
  have outer : Chain.Compiles {} ({} : Scripted.Form) .inbound .all 0 [] (ds.drop 1)
      { run := { app := {} } }
      [.fresh "ErrorTemplate" [.leaf l] (.replaceTemplate (some "friendly") [])] _ w₁ :=
    .active nofun rfl rfl inner rfl (.atEnd 1 _ _)
  have walk : Chain.Compiles {} ({} : Scripted.Form) .inbound .all 0 [] ds { run := { app := {} } }
      [.fresh "Each" [.fresh "ErrorTemplate" [.leaf l] (.replaceTemplate (some "friendly") [])]
        .each] _ w₁ :=
    .active nofun rfl rfl outer rfl (.atEnd 1 _ _)
  have compiled := Chain.compile_eq_ok (q := ⟨ds, 0⟩).mpr ⟨[_], _, walk, rfl, rfl⟩
  have asked : Chain.Known Request.Addressed (Queue.rest ⟨ds, 0⟩) := by
    intro d mem request need
    change d ∈ ds at mem
    simp only [ds, List.mem_cons, List.not_mem_nil, or_false] at mem
    rcases mem with rfl | rfl | rfl
    · cases need
    · cases need
    · cases List.mem_singleton.mp need
      exact fun as given => nomatch given
  have fresh : ({ run := { app := {} } } : Workspace Scripted.Form Scripted.Desk).cache = {} := rfl
  have kept := rejection_kept (p := {}) fresh (List.forall_mem_nil _) asked compiled
    (.array [.null]) scope { app := {} }
  let before : RunState Scripted.Desk := scope.enter "[0]" { app := {} }
  let seen : Rejection := { bad with origin := some "Grumble" }
  let renamed : Rejection := { seen with template := "friendly", overridden := true }
  have called :
      (Node.plan (.leaf l) .null).Raises scope (.leaf l .null) before seen before [] seen :=
    .ask rfl
  have rewritten : (Node.plan (.fresh "ErrorTemplate" [.leaf l]
      (.replaceTemplate (some "friendly") [])) .null).Raises scope (.leaf l .null) before seen
      before [.template (some "friendly") []] renamed :=
    .retemplate (.first called)
  have raises : (Node.plan (.fresh "Chain" [.fresh "Each" [.fresh "ErrorTemplate" [.leaf l]
      (.replaceTemplate (some "friendly") [])] .each] .pipe) (.array [.null])).Raises scope
      (.leaf l .null) before seen { app := {} } [.element 0, .template (some "friendly") []]
      (renamed.inElement 0) :=
    .first (.first (.first (.element (.first rewritten))))
  obtain ⟨leaves, known⟩ := kept _
  obtain ⟨source, args, raised, after, stands, name, -⟩ := known _ _ _ _ raises _ _ rfl
  exact ⟨_, _, _, compiled, leaves.mpr ⟨_, _, _, _, raises⟩, source, stands, (name l _ rfl).symm⟩

end Processor

end Raises

end FieldPipeline
