import FieldPipeline.Proofs.Backing
import FieldPipeline.Proofs.Precedence
import FieldPipeline.Scripted.Form

namespace FieldPipeline

open Outcome Resolver

variable {ρ σ : Type} [Record ρ σ] {r : Resolver ρ σ} {owner : ρ} {request : Request ρ σ}
  {w w' : Workspace ρ σ} {s : Compiled ρ σ} {key argsKey recordType method : String}
  {args : List Arg}

/-- A step that calls a method with the key `key`, with arguments that were asked for and have the
key `argsKey`. -/
def Compiled.CallsMethod (asked : List Arg → Prop) (key argsKey : String) (s : Compiled ρ σ) :
    Prop :=
  ∃ (owner : ρ) (name : String) (arity : Arity) (args : List Arg),
    Record.arity? owner name = some arity ∧ methodKey (Record.typeName owner) name = key ∧
    asked args ∧ Arg.key args = argsKey ∧
    s.run = (callMethod name arity args).asNode (Record.typeName owner ++ "::" ++ name)

/-- Every step under the key of a method calls a method with that key. -/
def Cache.CallsMethods (asked : List Arg → Prop) (c : Cache ρ σ) : Prop :=
  ∀ recordType method argsKey s, c.step? (methodKey recordType method) argsKey = some s →
    s.CallsMethod asked (methodKey recordType method) argsKey

namespace Resolver

omit [Record ρ σ] in
/-- A step that was not there before has the key and the code that were given. -/
theorem step_added {k name : String} {run : Callable ρ σ}
    (found : (step k args name run w).2.cache.step? key argsKey = some s) :
    w.cache.step? key argsKey = some s ∨
      key = k ∧ argsKey = Arg.key args ∧ s.run = run.asNode name := by
  cases there : w.cache.step? k (Arg.key args) with
  | some kept =>
    rw [step_again there] at found
    exact .inl found
  | none =>
    rw [step_new there] at found
    obtain before | ⟨-, ⟨own, same⟩, rfl⟩ := Cache.keepStep_cases found
    · exact .inl before
    · exact .inr ⟨own, same, rfl⟩

/-- The step of a leaf is the only one that is added with it. -/
theorem leaf_added {found : Resolution ρ σ} {name : String}
    (there : (r.leaf found name args owner w).2.cache.step? key argsKey = some s) :
    w.cache.step? key argsKey = some s ∨ argsKey = Arg.key args ∧
      match found with
      | .node k _ _ | .raw k _ _ => key = k
      | .method k method arity className =>
        key = k ∧ s.run = (callMethod method arity args).asNode (className ++ "::" ++ method)
      | .unresolved => False := by
  have bound {k name : String} {run : Callable ρ σ} (f : Compiled ρ σ → Leaf ρ σ) :
      ((step k args name run >>= fun s => pure (f s) : Build ρ σ (Leaf ρ σ)) w).2 =
        (step k args name run w).2 := by
    obtain ⟨s, w₁, stepped⟩ := step_total k args name run w
    rw [bind_of_ok stepped, stepped]
    rfl
  cases found with
  | unresolved => exact .inl there
  | node k i className | raw k run className =>
    rw [leaf, bound] at there
    exact (step_added there).imp_right fun ⟨own, same, _⟩ => ⟨same, own⟩
  | method k method arity className =>
    rw [leaf, bound] at there
    exact (step_added there).imp_right fun ⟨own, same, run⟩ => ⟨same, own, run⟩

theorem Entry.key_ne_method (e : Entry) (other : e.kind ≠ .method) :
    e.key ≠ methodKey recordType method :=
  Entry.key_ne (show e.kind ≠ (Entry.method recordType method).kind from other)

theorem fallbackKey_ne_methodKey (name : String) (args : Option (List Arg)) :
    fallbackKey name args ≠ methodKey recordType method :=
  Entry.key_ne_method (.fallback name args) nofun

theorem Offers.key_ne_method {k : String} {i : Instance ρ σ}
    {constructed : Option (String × String)}
    (h : Offers r owner request w k i constructed w') : k ≠ methodKey recordType method := by
  cases h with
  | given => exact Entry.key_ne_method (.ready _ _) nofun
  | cached | constructed => exact Entry.key_ne_method (.type _ _) nofun
  | answered | kept => exact fallbackKey_ne_methodKey _ _

theorem Locates.step? {result : Except Fault (Resolution ρ σ)}
    (h : Locates r owner request w result w') :
    w'.cache.step? key argsKey = w.cache.step? key argsKey := by
  cases h with
  | node offers boots => rw [boots.step?, offers.step?]
  | _ => rfl

/-- A step for a method that a resolution adds calls the method that its request stands for. -/
theorem resolve_added {d : Declaration ρ σ}
    (there : (r.resolve d owner w).2.cache.step? (methodKey recordType method) argsKey = some s) :
    w.cache.step? (methodKey recordType method) argsKey = some s ∨
      ∃ request, d = .node request ∧
        s.CallsMethod (· = request.callArgs) (methodKey recordType method) argsKey := by
  cases d with
  | failTo | group => exact .inl there
  | node request =>
    obtain ⟨result, u, table⟩ := r.exists_locates owner request w
    rw [resolve, bind_run, table.run] at there
    generalize ended : result = outcome at there
    cases outcome with
    | error fault =>
      rw [← table.step?]
      exact .inl there
    | ok found =>
      rw [← table.step?]
      rcases leaf_added there with before | ⟨same, own⟩
      · exact .inl before
      right
      cases table with
      | @node k i constructed outcome w₁ w₂ offers boots =>
        cases fine : outcome.getD (.ok ()) with
        | error fault =>
          rw [fine] at ended
          cases ended
        | ok =>
          rw [fine] at ended
          cases ended
          exact absurd own.symm offers.key_ne_method
      | foreign | undeclared | unprepared => cases ended
      | unresolved =>
        cases ended
        exact own.elim
      | raw =>
        cases ended
        exact absurd own.symm (fallbackKey_ne_methodKey _ _)
      | method identity unknown arity =>
        cases ended
        exact ⟨request, rfl, owner, _, _, _, arity, own.1.symm, rfl, same.symm, own.2⟩

theorem Trail.callsMethods {asked : List Arg → Prop} {visits : List (Visit ρ σ)}
    (h : Trail r w visits w')
    (known : ∀ visit ∈ visits, ∀ request, visit.declaration = .node request →
      asked request.callArgs)
    (calls : w.cache.CallsMethods asked) : w'.cache.CallsMethods asked := by
  induction h with
  | quiet still =>
    intro recordType method argsKey s there
    rw [Cache.step?_congr still.entries] at there
    exact calls _ _ _ _ there
  | @visit visit w w' ran course =>
    intro recordType method argsKey s there
    rw [← show _ = w' from congrArg Prod.snd ran] at there
    obtain before | ⟨request, declared, added⟩ := resolve_added there
    · exact calls _ _ _ _ before
    · have wanted := known visit (List.mem_singleton_self _) request declared
      obtain ⟨owner, name, arity, args, found, key, rfl, same, run⟩ := added
      exact ⟨owner, name, arity, _, found, key, wanted, same, run⟩
  | append first next ih ih' =>
    rw [List.forall_mem_append] at known
    exact ih' known.2 (ih known.1 calls)

end Resolver

namespace Processor

variable {p : Processor ρ σ} {start : Workspace ρ σ}

/-- Arguments that some job asks for. -/
def Asked (p : Processor ρ σ) (jobs : List (Job ρ σ)) (args : List Arg) : Prop :=
  ∃ job ∈ jobs, ∃ request, p.Needs job (.node request) ∧ request.callArgs = args

/-- After any jobs, every step under the key of a method calls a method with that key, with
arguments that some job asked for. -/
theorem jobs_callMethods (empty : start.cache = {}) (jobs : List (Job ρ σ)) :
    (jobs.foldl p.afterJob start).cache.CallsMethods (p.Asked jobs) := by
  refine jobs_keep_needed (I := fun w => w.cache.CallsMethods (p.Asked jobs)) ?_ ?_ ?_ ?_
  · intro job mem w visits w' trail needed
    refine trail.callsMethods fun visit there request declared => ?_
    exact ⟨job, mem, request, declared ▸ needed visit there, rfl⟩
  · intro w key calls recordType method argsKey s there
    exact calls _ _ _ _ (Cache.step?_drop_eq_some.mp there).2
  · intro w calls recordType method argsKey s there
    cases there
  · intro recordType method argsKey s there
    rw [empty] at there
    cases there

end Processor

/-- The record type and the name can be read off the path of a method if neither has a colon. -/
theorem path_unambiguous {recordType method recordType' method' : String}
    (plain : ':' ∉ recordType.toList) (plain' : ':' ∉ method.toList)
    (same : recordType' ++ "::" ++ method' = recordType ++ "::" ++ method) :
    recordType' = recordType := by
  have texts := congrArg String.toList same
  have colons : ("::" : String).toList = [':', ':'] := rfl
  simp only [String.toList_append, colons, List.append_assoc, List.cons_append, List.nil_append]
    at texts
  have counts := congrArg (List.count ':') texts
  simp only [List.count_append, List.count_cons_self, List.count_eq_zero_of_not_mem plain,
    List.count_eq_zero_of_not_mem plain'] at counts
  have none_before : ':' ∉ recordType'.toList := List.count_eq_zero.mp (by omega)
  exact String.toList_inj.mp (Text.first_cut none_before plain texts).1

namespace Processor

variable {p : Processor ρ σ} {start : Workspace ρ σ}

/-- A leaf for a method calls that method, whatever was resolved before, if no record of another
type has a method of the same path. -/
theorem method_leaf_calls {name : String} {arity : Arity} (empty : start.cache = {})
    (jobs : List (Job ρ σ)) (identity : request.identity = .named name)
    (unknown : p.resolver.info? name = none)
    (there : Record.arity? owner (methodName name) = some arity)
    (uniform : ∀ other : ρ, Record.typeName other = Record.typeName owner →
      ∀ method, Record.arity? other method = Record.arity? owner method)
    (args : ∀ others, p.Asked jobs others → Arg.key others = Arg.key request.callArgs →
      others = request.callArgs)
    (apart : ∀ (other : ρ) method, (Record.arity? other method).isSome →
      Record.typeName other ++ "::" ++ method =
        Record.typeName owner ++ "::" ++ methodName name →
      Record.typeName other = Record.typeName owner) :
    ∃ l w', p.resolver.resolve (.node request) owner (jobs.foldl p.afterJob start) = (.ok l, w') ∧
      l.className = Record.typeName owner ∧ l.method = some (methodName name) ∧
      ∀ v scope, Record.typeName scope.record = Record.typeName owner →
        l.step.run v scope = scope.framed l.name (Act.onRejection (scope.enrich l.name)
          (Record.callMethod scope.record (methodName name)
            { value := v, args := request.callArgs
              context := if Record.arity? scope.record (methodName name) = some .valueContext
                then some scope.context else none })) := by
  have chosen : (Resolution.method (methodKey (Record.typeName owner) (methodName name))
      (methodName name) arity (Record.typeName owner) : Resolution ρ σ).choice? =
        some (choice owner request name .method) := rfl
  obtain ⟨l, w', made, steps, className, method⟩ := leaf_total chosen p.resolver
    request.identity.name request.callArgs owner (jobs.foldl p.afterJob start)
  have resolved : p.resolver.resolve (.node request) owner (jobs.foldl p.afterJob start) =
      (.ok l, w') := by
    rw [resolve, bind_of_ok (locate_method identity unknown there)]
    exact made
  refine ⟨l, w', resolved, className, method, ?_⟩
  -- Resolving the request is one more job, and the step that it yields is in the cache then.
  have calls := jobs_callMethods (p := p) empty (jobs ++ [.resolve (.node request) owner])
  rw [List.foldl_append] at calls
  change (p.resolver.resolve (.node request) owner _).2.cache.CallsMethods _ at calls
  rw [resolved] at calls
  obtain ⟨other, called, arity', args', found, key, ⟨job, mem, needing, needs, rfl⟩, same, run⟩ :=
    calls _ _ _ _ steps.stored
  have own : needing.callArgs = request.callArgs := by
    rcases List.mem_append.mp mem with before | last
    · exact args _ ⟨job, before, needing, needs, rfl⟩ same
    · cases List.mem_singleton.mp last
      cases needs
      rfl
  have path := methodKey_eq_iff.mp key
  have type := apart other called (by rw [found]; rfl) path
  rw [type, String.append_right_inj] at path
  subst path
  rw [uniform other type, there] at found
  cases found
  have named : l.name = Record.typeName owner ++ "::" ++ methodName name := by
    rw [Leaf.name, className, method]
    rfl
  intro v scope alike
  rw [run, own, type, ← named, Callable.asNode, callMethod, uniform scope.record alike, there]
  simp only [Option.some.injEq]

/-- Two types of records, each with a method of that name. -/
theorem method_leaf_calls_fix :
    let _ : Record Bool Unit :=
      { typeName := fun large => if large then "Order" else "Line"
        arity? := fun _ method => if method = "fix" then some .valueContext else none
        callMethod := fun large _ call =>
          pure (.array [.bool large, call.value, call.context.getD .null])
        get? := fun _ _ => none
        set := fun large _ _ => large
        unfill := fun large _ => large }
    let line : Job Bool Unit := .resolve (.node { identity := .named "fix" }) false
    let p : Processor Bool Unit := {}
    ∃ l w', resolve {} (.node { identity := .named "Fix" }) true
        ([line].foldl p.afterJob { run := { app := () } }) = (.ok l, w') ∧
      l.method = some "fix" ∧ ∀ v scope, scope.record = true →
        l.step.run v scope = scope.framed l.name (Act.onRejection (scope.enrich l.name)
          (pure (.array [.bool true, v, scope.context]))) := by
  intro _ line p
  let request : Request Bool Unit := { identity := .named "Fix" }
  let start : Workspace Bool Unit := { run := { app := () } }
  have identity : request.identity = .named "Fix" := rfl
  have empty : start.cache = {} := rfl
  have unknown : p.resolver.info? "Fix" = none := rfl
  have there : Record.arity? true (methodName "Fix") = some .valueContext := rfl
  have uniform (other : Bool) (alike : Record.typeName other = Record.typeName true)
      (method : String) : Record.arity? other method = Record.arity? true method := rfl
  have apart (other : Bool) (method : String) (_ : (Record.arity? other method).isSome)
      (same : Record.typeName other ++ "::" ++ method = "Order" ++ "::" ++ methodName "Fix") :
      Record.typeName other = Record.typeName true :=
    path_unambiguous (by decide) (by decide) same
  have args (others : List Arg) (asked : p.Asked [line] others)
      (_ : Arg.key others = Arg.key []) : others = [] := by
    obtain ⟨job, mem, other, needs, rfl⟩ := asked
    simp only [line, List.mem_singleton] at mem
    subst mem
    cases needs
    rfl
  obtain ⟨l, w', resolved, -, method, calls⟩ :=
    method_leaf_calls empty [line] identity unknown there uniform args apart
  refine ⟨l, w', resolved, method, ?_⟩
  intro v scope own
  rw [calls v scope (by rw [own]), own]
  rfl

/-- The path of a method does not tell which type it is of. The second leaf calls the method that
the first one names, which its own record does not have. -/
theorem method_leaf_mistaken :
    let order : Scripted.Form :=
      { typeName := "Order", methods := [("line::fix", ⟨.append "!", false⟩)] }
    let line : Scripted.Form :=
      { typeName := "Order::line", methods := [("fix", ⟨.append "?", false⟩)] }
    let p : Processor Scripted.Form Scripted.Desk := {}
    let first : Job Scripted.Form Scripted.Desk :=
      .resolve (.node { identity := .named "line::fix" }) order
    ∃ l w', resolve {} (.node { identity := .named "fix" }) line
        (p.afterJob { run := { app := {} } } first) = (.ok l, w') ∧
      l.className = "Order::line" ∧ l.method = some "fix" ∧
      ∀ scope : Scope Scripted.Form, scope.record = line → scope.tracePaths = false →
        (l.step.run (.string "x") scope { app := {} }).1 =
          .error (.configuration (.custom "full record: no method `line::fix`")) ∧
        (Record.callMethod scope.record "fix" { value := .string "x", args := [] }
          { app := {} }).1 = .ok (.string "x?") := by
  intro order line p first
  refine ⟨_, _, rfl, rfl, rfl, ?_⟩
  rintro ⟨_, context, direction, _⟩ rfl rfl
  exact ⟨rfl, rfl⟩

end Processor

end FieldPipeline
