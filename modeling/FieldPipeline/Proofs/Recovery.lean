import FieldPipeline.Proofs.Descent

namespace FieldPipeline

open Outcome

variable {ρ σ : Type} [Record ρ σ]

namespace Plan

variable {scope : Scope ρ} {place : List Nat} {s s' : RunState σ} {fallback : Arg}
  {handler : Option (Handler ρ σ)} {inner : Value → Plan ρ σ Value} {v : Value}

/-- Without a rejection the protection is not noticed. -/
theorem recover_passed {result : Except Fault Value}
    (ran : (inner v).run scope s = (result, s')) (passed : ∀ r, result ≠ .error (.rejected r)) :
    (recover fallback handler inner v).run scope s = (result, s') ∧
      (recover fallback handler inner v).answers scope place s =
        (inner v).answers scope place s := by
  rw [recover, run, Act.orElseRejected, answers_orElse, ran]
  rcases result with (_ | r | _ | _) | out
  case error.rejected => exact absurd rfl (passed r)
  all_goals exact ⟨rfl, List.append_nil _⟩

variable {r : Rejection} (failed : (inner v).run scope s = (.error (.rejected r), s'))

include failed

theorem recover_unhandled :
    (recover fallback none inner v).run scope s = (.ok fallback.toValue, s') ∧
      (recover fallback none inner v).answers scope place s =
        (inner v).answers scope place s := by
  rw [recover, run, Act.orElseRejected, answers_orElse, failed]
  exact ⟨rfl, List.append_nil _⟩

/-- The handler is the last that the plan turns to. -/
theorem recover_handled (h : Handler ρ σ) :
    let site : Site ρ σ := .handler fallback h v r
    (recover fallback (some h) inner v).run scope s = site.run scope s' ∧
      (recover fallback (some h) inner v).answers scope place s =
        (inner v).answers scope place s ++
          [⟨site, place, s', (site.run scope s').1, (site.run scope s').2⟩] := by
  intro site
  rw [recover, run, Act.orElseRejected, answers_orElse, failed]
  exact ⟨rfl, rfl⟩

end Plan

namespace Node

variable {name : String} {children before after : List (Node ρ σ)} {v : Value} {scope : Scope ρ}
  {s s' : RunState σ} {fault : Fault}

theorem chain_run (h : AreFresh children) (v : Value) (scope : Scope ρ) :
    (chain children).compile v scope = (planAll children v).run scope :=
  compile_run (isFresh_fresh.mpr h) v scope

theorem chain_answers : (chain children).answers v scope s =
    (planAll children v).answers scope [] s := rfl

/-- A chain ends with the fault of its first nodes, and the nodes behind them are not turned to. -/
theorem chain_ended (h : AreFresh (before ++ after))
    (failed : (chain before).compile v scope s = (.error fault, s')) :
    (chain (before ++ after)).compile v scope s = (.error fault, s') ∧
      (chain (before ++ after)).answers v scope s = (chain before).answers v scope s := by
  have first : AreFresh before :=
    areFresh_iff.mpr fun node mem => areFresh_iff.mp h node (List.mem_append_left after mem)
  rw [chain_run first] at failed
  rw [chain_run h, chain_answers, chain_answers]
  clear h first
  induction before generalizing v s with
  | nil => cases failed
  | cons node rest ih =>
    rw [planAll, Plan.andThen_run] at failed
    rw [List.cons_append, planAll, planAll, Plan.andThen_run, Plan.answers_andThen,
      Plan.answers_andThen]
    rcases ran : (node.plan v).run scope s with ⟨_ | out, s₁⟩
    · rw [ran] at failed
      exact ⟨failed, rfl⟩
    · rw [ran] at failed
      obtain ⟨ended, answered⟩ := ih failed
      exact ⟨ended, congrArg _ answered⟩

/-- A rejection that leaves a chain was raised inside of it, and only what is around its origin in
the chain has changed it. -/
theorem chain_rejected (h : AreFresh children) {e : Rejection}
    (failed : (chain children).compile v scope s = (.error (.rejected e), s')) :
    ∃ site before raised layers, (chain children).MayAsk site ∧
      ((chain children).plan v).Raises scope site before raised s layers e ∧
      e = { raised with
        template := (Layer.rewrite? layers raised).getD raised.template
        overridden := raised.overridden || (Layer.rewrite? layers raised).isSome
        indices := Layer.positions layers ++ raised.indices } := by
  rw [chain_run h] at failed
  obtain ⟨site, before, raised, layers, raises⟩ :=
    Plan.raises_iff.mp (congrArg Prod.fst failed)
  have inside : ((chain children).plan v).Raises scope site before raised s layers e := raises
  have mayAsk : (chain children).MayAsk site :=
    inside.within (plan_within (fun part hp site asks => ⟨part, hp, asks⟩) v)
  refine ⟨site, before, raised, layers, mayAsk, inside, ?_⟩
  rw [raises.passed, Layer.passAll_eq]

section Protection

variable {feed : Callable ρ σ} {input : Value} {fallback : Arg} {t : RunState σ}
  (inner : AreFresh children)

include inner

/-- A fault of the feed is outside of a node. -/
theorem wrap_unfed {strategy : Strategy ρ σ} (failed : feed v scope s = (.error fault, t)) :
    (fresh name children strategy).wrap feed v scope s = (.error fault, t) := by
  rw [wrap_eq_andThen (isFresh_fresh.mpr inner), Callable.andThen_run, failed]

variable (fed : feed v scope s = (.ok input, t))

include fed

/-- A node that is fed runs its plan on what it is fed with. -/
theorem wrap_plan {strategy : Strategy ρ σ} :
    (fresh name children strategy).wrap feed v scope s =
      ((fresh name children strategy).plan input).run scope t := by
  rw [wrap_fed (isFresh_fresh.mpr inner) fed, compile_run (isFresh_fresh.mpr inner)]

/-- An outcome that is no rejection is left as it is. -/
theorem protection_passed {handler : Option (Handler ρ σ)} {result : Except Fault Value}
    (ran : (chain children).compile input scope t = (result, s'))
    (passed : ∀ e, result ≠ .error (.rejected e)) :
    let group := fresh name children (.recover fallback handler)
    group.wrap feed v scope s = (result, s') ∧
      group.answers input scope t = (chain children).answers input scope t := by
  intro group
  rw [chain_run inner] at ran
  rw [wrap_plan inner fed]
  exact Plan.recover_passed ran passed

variable {e : Rejection}
  (rejected : (chain children).compile input scope t = (.error (.rejected e), s'))

include rejected

/-- Without a handler the fallback is the output. -/
theorem protection_unhandled :
    let group := fresh name children (.recover fallback none)
    group.wrap feed v scope s = (.ok fallback.toValue, s') ∧
      group.answers input scope t = (chain children).answers input scope t := by
  intro group
  rw [chain_run inner] at rejected
  rw [wrap_plan inner fed]
  exact Plan.recover_unhandled rejected

/-- The handler is turned to last, with the value that entered and the rejection. -/
theorem protection_handled (h : Handler ρ σ) :
    let group := fresh name children (.recover fallback (some h))
    ∃ answer : Answer ρ σ, answer.site = .handler fallback h input e ∧ answer.before = s' ∧
      group.answers input scope t = (chain children).answers input scope t ++ [answer] ∧
      group.wrap feed v scope s = (answer.result, answer.after) ∧
      (answer.result, answer.after) =
        match h with
        | .method method =>
          Record.callMethod scope.record method
            { value := input, args := [fallback], context := some scope.context,
              failure := some e } s'
        | .function run =>
          run { value := input, fallback := fallback.toValue, rejection := e,
                record := scope.record } s' := by
  intro group
  rw [chain_run inner] at rejected
  rw [wrap_plan inner fed]
  obtain ⟨outcome, answered⟩ := Plan.recover_handled rejected h
  refine ⟨_, rfl, rfl, answered, outcome, ?_⟩
  cases h <;> rfl

end Protection

/-- A protection in a compiled tree. What its nodes are fed with is outside of it: a fault of the
feed is the fault of the whole, and so is a fault of the nodes before it in a sequence. From the
value that enters, its sub-chain either comes to an outcome that is no rejection, which is left as
it is; or it is rejected, and then the fallback is the output, or the handler is turned to, once and
at last, with the value that entered, and what it comes to is the outcome. The rejection that the
handler sees was raised inside, and nothing around the protection has changed it. -/
theorem protection_recovers {root : Node ρ σ} (built : root.Built) {fallback : Arg}
    {handler : Option (Handler ρ σ)} {made : Option (Callable ρ σ)}
    (part : .composite name children (.recover fallback handler) made ∈ root.parts) :
    let group : Node ρ σ := .composite name children (.recover fallback handler) made
    (∀ (feed : Callable ρ σ) v scope s fault t, feed v scope s = (.error fault, t) →
      group.wrap feed v scope s = (.error fault, t)) ∧
    (∀ (feed : Callable ρ σ) v scope s input t result s', feed v scope s = (.ok input, t) →
      (chain children).compile input scope t = (result, s') →
      ((∀ e, result ≠ .error (.rejected e)) →
        group.wrap feed v scope s = (result, s') ∧
        group.answers input scope t = (chain children).answers input scope t) ∧
      ∀ e, result = .error (.rejected e) →
        (handler = none →
          group.wrap feed v scope s = (.ok fallback.toValue, s') ∧
          group.answers input scope t = (chain children).answers input scope t) ∧
        (∀ h, handler = some h → ∃ answer : Answer ρ σ,
          answer.site = .handler fallback h input e ∧ answer.before = s' ∧
          group.answers input scope t = (chain children).answers input scope t ++ [answer] ∧
          group.wrap feed v scope s = (answer.result, answer.after) ∧
          (answer.result, answer.after) =
            match h with
            | .method method =>
              Record.callMethod scope.record method
                { value := input, args := [fallback], context := some scope.context,
                  failure := some e } s'
            | .function run =>
              run { value := input, fallback := fallback.toValue, rejection := e,
                    record := scope.record } s') ∧
        ∃ site before raised layers, (chain children).MayAsk site ∧
          ((chain children).plan input).Raises scope site before raised t layers e ∧
          e = { raised with
            template := (Layer.rewrite? layers raised).getD raised.template
            overridden := raised.overridden || (Layer.rewrite? layers raised).isSome
            indices := Layer.positions layers ++ raised.indices }) ∧
    ∀ label before after strategy made',
      .composite label (before ++ group :: after) strategy made' ∈ root.parts →
      ∀ v scope s fault s', (chain before).compile v scope s = (.error fault, s') →
        (chain (before ++ group :: after)).compile v scope s = (.error fault, s') ∧
        (chain (before ++ group :: after)).answers v scope s =
          (chain before).answers v scope s := by
  intro group
  obtain ⟨rfl, inner⟩ := built.composite part
  refine ⟨?feed, ?outcome, ?before⟩
  case feed => exact fun feed v scope s fault t => wrap_unfed inner
  case outcome =>
    intro feed v scope s input t result s' fed ran
    refine ⟨protection_passed inner fed ran, ?_⟩
    rintro e rfl
    refine ⟨?_, ?_, chain_rejected inner ran⟩
    · rintro rfl
      exact protection_unhandled inner fed ran
    · rintro h rfl
      exact protection_handled inner fed ran h
  case before =>
    intro label before after strategy made' sequence v scope s fault s'
    exact chain_ended (built.composite sequence).2

/-- A handler shows what it sees. The first step changes the value before the second rejects it,
inside an element with an error template around. -/
theorem protection_recovers_element :
    let display : Handler Scripted.Form Scripted.Desk := .function fun f =>
      pure (.array [f.value, f.fallback, .string f.rejection.template])
    let ds : List (Declaration Scripted.Form Scripted.Desk) :=
      [.group (.errorTemplate (some "outer") [] none), .group (.each none),
        .group (.failNextTo (.string "n/a") (some display) (some 2)),
        .node { identity := .given "t" Standard.trim },
        .node { identity := .given "b" Standard.notBlank }]
    let scope : Scope Scripted.Form :=
      { record := {}, context := .null, direction := .inbound, tracePaths := false }
    ∃ root q' w' children s',
      Chain.compile {} ⟨ds, 0⟩ {} .inbound .all { run := { app := {} } } = ((.ok root, q'), w') ∧
      .composite "FailNextTo" children (.recover (.string "n/a") (some display)) none ∈ root.parts ∧
      (Node.composite "FailNextTo" children (.recover (.string "n/a") (some display)) none).wrap
        .identity (.string " ") scope { app := {} } =
          (.ok (.array [.string " ", .string "n/a", .string "not_blank"]), s') := by
  intro display ds scope
  obtain ⟨first, w₁, found, runs, second, w₂, found', runs'⟩ : ∃ l w₁,
      Resolver.resolve {} (.node { identity := .given "t" Standard.trim }) ({} : Scripted.Form)
        { run := { app := {} } } = (.ok l, w₁) ∧
      l.step.run = Callable.asNode "Trim" (fun v scope => Standard.trim.apply v [] scope) ∧ ∃ l' w₂,
      Resolver.resolve {} (.node { identity := .given "b" Standard.notBlank })
        ({} : Scripted.Form) w₁ = (.ok l', w₂) ∧
      l'.step.run = Callable.asNode "NotBlank" fun v scope => Standard.notBlank.apply v [] scope :=
    ⟨_, _, rfl, rfl, _, _, rfl, rfl⟩
  let nodes : List (Node Scripted.Form Scripted.Desk) := [.leaf first, .leaf second]
  let guarded : Node Scripted.Form Scripted.Desk :=
    .fresh "FailNextTo" nodes (.recover (.string "n/a") (some display))
  let each : Node Scripted.Form Scripted.Desk := .fresh "Each" [guarded] .each
  let outer : Node Scripted.Form Scripted.Desk :=
    .fresh "ErrorTemplate" [each] (.replaceTemplate (some "outer") [])
  have leaves : Chain.Compiles {} ({} : Scripted.Form) .inbound (.exactly 2) 0 [] (ds.drop 3)
      { run := { app := {} } } nodes.reverse _ w₂ :=
    .node (by decide) found (.node (by decide) found' (.full 2 _ _ _))
  have inner : Chain.Compiles {} ({} : Scripted.Form) .inbound .all 0 [] (ds.drop 2)
      { run := { app := {} } } [guarded] _ w₂ :=
    .active nofun rfl rfl leaves rfl (.atEnd 1 _ _)
  have elements : Chain.Compiles {} ({} : Scripted.Form) .inbound .all 0 [] (ds.drop 1)
      { run := { app := {} } } [each] _ w₂ :=
    .active nofun rfl rfl inner rfl (.atEnd 1 _ _)
  have walk : Chain.Compiles {} ({} : Scripted.Form) .inbound .all 0 [] ds
      { run := { app := {} } } [outer] _ w₂ :=
    .active nofun rfl rfl elements rfl (.atEnd 1 _ _)
  have compiled : Chain.compile {} ⟨ds, 0⟩ ({} : Scripted.Form) .inbound .all
      { run := { app := {} } } = ((.ok (chain [outer]), _), w₂) :=
    Chain.compile_eq_ok.mpr ⟨[_], _, walk, rfl, rfl⟩
  have part : guarded ∈ (chain [outer]).parts := by
    simp [chain, outer, each, guarded, nodes, fresh, parts, partsOf]
  have failed : (chain nodes).compile (.string " ") scope ({ app := {} } : RunState Scripted.Desk) =
      (.error (.rejected { template := "not_blank", origin := some "NotBlank" }),
        { app := {} }) := by
    have trimmed : (chain [.leaf first]).compile (.string " ") scope
        ({ app := {} } : RunState Scripted.Desk) = (.ok (.string ""), { app := {} }) := by
      change first.step.run (.string " ") scope _ = _
      rw [runs]
      rfl
    have rejected : (leaf second).compile (.string "") scope
        ({ app := {} } : RunState Scripted.Desk) =
        (.error (.rejected { template := "not_blank", origin := some "NotBlank" }),
          { app := {} }) := by
      change second.step.run (.string "") scope _ = _
      rw [runs']
      rfl
    have fresh_ : AreFresh ([.leaf first] ++ .leaf second :: []) := ⟨trivial, trivial, trivial⟩
    exact chain_error fresh_ trimmed rejected
  obtain ⟨-, recovered, -⟩ :=
    protection_recovers ⟨_, _, _, _, _, _, _, _, compiled⟩ part
  obtain ⟨-, rejected⟩ := recovered .identity (.string " ") scope { app := {} } _ _ _ _ rfl failed
  obtain ⟨-, handled, -⟩ := rejected _ rfl
  obtain ⟨answer, -, -, -, outcome, came⟩ := handled display rfl
  exact ⟨_, _, _, nodes, _, compiled, part, outcome.trans came⟩

end Node

end FieldPipeline
