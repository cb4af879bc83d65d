import FieldPipeline.Proofs.Answers
import FieldPipeline.Proofs.Derivation
import FieldPipeline.Proofs.Supply

namespace FieldPipeline

open Outcome

variable {ρ σ α β : Type}

def Rejection.pathless (r : Rejection) : Rejection :=
  { r with path := none }

def Fault.pathless : Fault → Fault
  | rejected r => rejected r.pathless
  | fault => fault

namespace Rejection

theorem pathless_raisedAt {r r' : Rejection} (h : r.pathless = r'.pathless) (node : String) :
    (r.raisedAt node).pathless = (r'.raisedAt node).pathless := by
  cases r
  cases r'
  cases h
  rfl

theorem pathless_inElement {r r' : Rejection} (h : r.pathless = r'.pathless) (i : Nat) :
    (r.inElement i).pathless = (r'.inElement i).pathless := by
  cases r
  cases r'
  cases h
  rfl

theorem pathless_enrich {r r' : Rejection} (h : r.pathless = r'.pathless) (scope scope' : Scope ρ)
    (node : String) (path path' : List String) :
    (scope.enrich node path r).pathless = (scope'.enrich node path' r').pathless := by
  have own (scope : Scope ρ) (path : List String) (r : Rejection) :
      (scope.enrich node path r).pathless = (r.raisedAt node).pathless := by
    unfold Scope.enrich
    split <;> rfl
  rw [own, own, pathless_raisedAt h]

theorem pathless_retemplate {r r' : Rejection} (h : r.pathless = r'.pathless)
    (template : Option String) (pairs : List (String × String)) :
    (Strategy.retemplate template pairs r).pathless =
      (Strategy.retemplate template pairs r').pathless := by
  cases r
  cases r'
  cases h
  unfold Strategy.retemplate
  dsimp only
  split
  · rfl
  split <;> rfl

/-- The rejection for several failed attempts mentions templates, and no paths. -/
theorem allFailed_of_pathless {failures failures' : List Rejection}
    (h : failures.map pathless = failures'.map pathless) (attempts : Nat) :
    allFailed attempts failures = allFailed attempts failures' := by
  have templates (failures : List Rejection) :
      failures.map (fun f => Value.string f.template) =
        (failures.map pathless).map fun f => Value.string f.template := by
    rw [List.map_map]
    rfl
  rw [allFailed, allFailed, templates failures, templates failures', h]

end Rejection

/-- Results that are alike without paths are the same value, the same fault, or rejections. -/
theorem Fault.mapError_eq {result result' : Except Fault α}
    (h : result.mapError pathless = result'.mapError pathless) :
    (∃ a, result = .ok a ∧ result' = .ok a) ∨
      (∃ r r', result = .error (.rejected r) ∧ result' = .error (.rejected r') ∧
        r.pathless = r'.pathless) ∨
      ∃ fault, result = .error fault ∧ result' = .error fault ∧ ∀ r, fault ≠ .rejected r := by
  cases result with
  | ok a =>
    cases result' with
    | ok a' =>
      cases h
      exact .inl ⟨a, rfl, rfl⟩
    | error fault' => cases h
  | error fault =>
    cases result' with
    | ok a' => cases h
    | error fault' =>
      have same : fault.pathless = fault'.pathless := Except.error.inj h
      cases fault with
      | rejected r =>
        cases fault' with
        | rejected r' => exact .inr (.inl ⟨r, r', rfl, rfl, Fault.rejected.inj same⟩)
        | _ => cases same
      | _ =>
        cases fault' with
        | rejected r' => cases same
        | _ => exact .inr (.inr ⟨_, rfl, congrArg Except.error same.symm, nofun⟩)

namespace Act

/-- An outcome without the path of a rejection, and without the trace. -/
def seen (outcome : Except Fault α × RunState σ) : Except Fault α × σ :=
  (outcome.1.mapError Fault.pathless, outcome.2.app)

/-- Outcomes that are seen alike have the same value, or faults that differ in a path at most. -/
theorem seen_eq {outcome outcome' : Except Fault α × RunState σ}
    (h : seen outcome = seen outcome') :
    ∃ t t', t.app = t'.app ∧
      ((∃ a, outcome = (.ok a, t) ∧ outcome' = (.ok a, t')) ∨
        (∃ r r', outcome = (.error (.rejected r), t) ∧ outcome' = (.error (.rejected r'), t') ∧
          r.pathless = r'.pathless) ∨
        ∃ fault, outcome = (.error fault, t) ∧ outcome' = (.error fault, t') ∧
          ∀ r, fault ≠ .rejected r) := by
  obtain ⟨result, t⟩ := outcome
  obtain ⟨result', t'⟩ := outcome'
  obtain ⟨same, app⟩ := Prod.mk.inj h
  refine ⟨t, t', app, ?_⟩
  obtain ⟨a, rfl, rfl⟩ | ⟨r, r', rfl, rfl, alike⟩ | ⟨fault, rfl, rfl, hard⟩ :=
    Fault.mapError_eq same
  · exact .inl ⟨a, rfl, rfl⟩
  · exact .inr (.inl ⟨r, r', rfl, rfl, alike⟩)
  · exact .inr (.inr ⟨fault, rfl, rfl, hard⟩)

theorem seen_rejected {r r' : Rejection} (h : r.pathless = r'.pathless) {t t' : RunState σ}
    (app : t.app = t'.app) :
    seen ((.error (.rejected r), t) : Except Fault α × RunState σ) =
      seen (.error (.rejected r'), t') := by
  simp only [seen, Except.mapError, Fault.pathless, h, app]

/-- From states that differ in the trace at most, both come to outcomes that are seen alike. -/
def Agrees (body body' : Act σ α) : Prop :=
  ∀ s s', s.app = s'.app → seen (body s) = seen (body' s')

namespace Agrees

variable {body body' : Act σ α}

theorem pure (a : α) : Agrees (Pure.pure a : Act σ α) (Pure.pure a) :=
  fun _ _ app => congrArg (Prod.mk _) app

theorem bind {f f' : α → Act σ β} (h : body.Agrees body') (hf : ∀ a, (f a).Agrees (f' a)) :
    Agrees (body >>= f) (body' >>= f') := by
  intro s s' app
  rw [bind_run, bind_run]
  obtain ⟨t, t', app', ⟨a, e, e'⟩ | ⟨r, r', e, e', alike⟩ | ⟨fault, e, e', -⟩⟩ :=
    seen_eq (h s s' app) <;> rw [e, e']
  · exact hf a t t' app'
  · exact seen_rejected alike app'
  · exact congrArg (Prod.mk _) app'

theorem framed (h : body.Agrees body') (scope scope' : Scope ρ) (name : String) :
    Agrees (scope.framed name body) (scope'.framed name body') := by
  intro s s' app
  have inner := h (scope.enter name s) (scope'.enter name s')
    (by simp [app])
  have own (scope : Scope ρ) (body : Act σ α) (s : RunState σ) :
      seen (scope.framed name body s) = seen (body (scope.enter name s)) := by
    simp only [seen, Scope.framed_fst, Scope.framed_app]
  rw [own, own, inner]

theorem onRejection {change change' : List String → Rejection → Rejection}
    (hc : ∀ frames frames' r r', r.pathless = r'.pathless →
      (change frames r).pathless = (change' frames' r').pathless)
    (h : body.Agrees body') :
    Agrees (Act.onRejection change body) (Act.onRejection change' body') := by
  intro s s' app
  unfold Act.onRejection
  obtain ⟨t, t', app', ⟨a, e, e'⟩ | ⟨r, r', e, e', alike⟩ | ⟨fault, e, e', hard⟩⟩ :=
    seen_eq (h s s' app) <;> rw [e, e']
  · exact congrArg (Prod.mk _) app'
  · exact seen_rejected (hc _ _ r r' alike) app'
  · cases fault with
    | rejected r => exact absurd rfl (hard r)
    | _ => exact congrArg (Prod.mk _) app'

theorem orElseRejected {recover recover' : Rejection → Act σ α} (h : body.Agrees body')
    (hr : ∀ r r', r.pathless = r'.pathless → (recover r).Agrees (recover' r')) :
    Agrees (Act.orElseRejected body recover) (Act.orElseRejected body' recover') := by
  intro s s' app
  unfold Act.orElseRejected
  obtain ⟨t, t', app', ⟨a, e, e'⟩ | ⟨r, r', e, e', alike⟩ | ⟨fault, e, e', hard⟩⟩ :=
    seen_eq (h s s' app) <;> rw [e, e']
  · exact congrArg (Prod.mk _) app'
  · exact hr r r' alike t t' app'
  · cases fault with
    | rejected r => exact absurd rfl (hard r)
    | _ => exact congrArg (Prod.mk _) app'

end Agrees

end Act

/-- The same code in the same scope, with paths traced or not. -/
def Scope.tracing (scope : Scope ρ) (tracePaths : Bool) : Scope ρ :=
  { scope with tracePaths }

/-- Code that does the same whether or not paths are traced, whatever is on the trace. -/
def Callable.Oblivious (body : Callable ρ σ) : Prop :=
  ∀ v scope b, (body v scope).Agrees (body v (scope.tracing b))

theorem Callable.Oblivious.asNode {body : Callable ρ σ} (h : body.Oblivious) (name : String) :
    (body.asNode name).Oblivious := by
  intro v scope b
  refine .framed (.onRejection (fun frames frames' r r' alike => ?_) (h v scope b)) _ _ _
  exact Rejection.pathless_enrich alike ..

/-- A site without the path of the rejection that it was shown or that it raises. -/
def Site.pathless : Site ρ σ → Site ρ σ
  | handler fallback h v r => .handler fallback h v r.pathless
  | refusal node r => .refusal node r.pathless
  | site => site

/-- An answer without paths and without the trace. -/
def Answer.pathless (answer : Answer ρ σ) : Answer ρ σ where
  site := answer.site.pathless
  place := answer.place
  before := { app := answer.before.app }
  result := answer.result.mapError Fault.pathless
  after := { app := answer.after.app }

/-- Plans that differ in the paths of the rejections at their sites at most. All sites have the
property `P`. -/
inductive Plan.Like (P : Site ρ σ → Prop) : {α : Type} → Plan ρ σ α → Plan ρ σ α → Prop
  | done {α : Type} (a : α) : Like P (.done a) (.done a)
  | ask {site site' : Site ρ σ} (property : P site) (same : site.pathless = site'.pathless) :
    Like P (.ask site) (.ask site')
  | andThen {α β : Type} {first first' : Plan ρ σ α} {next next' : α → Plan ρ σ β}
      (before : Like P first first') (after : ∀ a, Like P (next a) (next' a)) :
    Like P (.andThen first next) (.andThen first' next')
  | element {inner inner' : Plan ρ σ Value} (i : Nat) (inside : Like P inner inner') :
    Like P (.element i inner) (.element i inner')
  | orElse {first first' : Plan ρ σ Value} {next next' : Rejection → Plan ρ σ Value}
      (before : Like P first first')
      (after : ∀ r r', r.pathless = r'.pathless → Like P (next r) (next' r')) :
    Like P (.orElse first next) (.orElse first' next')
  | retemplate {inner inner' : Plan ρ σ Value} (template : Option String)
      (pairs : List (String × String)) (inside : Like P inner inner') :
    Like P (.retemplate template pairs inner) (.retemplate template pairs inner')

section Like

variable {P : Site ρ σ → Prop}

namespace Plan

variable {inner : Value → Plan ρ σ Value} {branches : List (Value → Plan ρ σ Value)}

theorem elements_like (h : ∀ v, Like P (inner v) (inner v)) (i : Nat) (items : List Value) :
    Like P (elements inner i items) (elements inner i items) := by
  induction items generalizing i with
  | nil => exact .done _
  | cons v rest ih =>
    exact .andThen (.element i (h v)) fun _ => .andThen (ih (i + 1)) fun _ => .done _

theorem every_like (h : ∀ branch ∈ branches, ∀ v, Like P (branch v) (branch v)) (v : Value) :
    Like P (every v branches) (every v branches) := by
  induction branches with
  | nil => exact .done _
  | cons branch rest ih =>
    obtain ⟨first, others⟩ := List.forall_mem_cons.mp h
    exact .andThen (first v) fun _ => .andThen (ih others) fun _ => .done _

theorem firstOf_like (h : ∀ branch ∈ branches, ∀ v, Like P (branch v) (branch v))
    (own : ∀ attempts failures, P (.refusal "Any" (.allFailed attempts failures))) (v : Value)
    (attempts : Nat) {failures failures' : List Rejection}
    (same : failures.map Rejection.pathless = failures'.map Rejection.pathless) :
    Like P (firstOf v attempts failures branches) (firstOf v attempts failures' branches) := by
  induction branches generalizing failures failures' with
  | nil =>
    refine .ask (own attempts failures.reverse) ?_
    have reversed : failures.reverse.map Rejection.pathless =
        failures'.reverse.map Rejection.pathless := by
      rw [List.map_reverse, List.map_reverse, same]
    rw [Rejection.allFailed_of_pathless reversed]
  | cons branch rest ih =>
    obtain ⟨first, others⟩ := List.forall_mem_cons.mp h
    refine .orElse (first v) fun r r' alike => ih others ?_
    rw [List.map_cons, List.map_cons, same, alike]

end Plan

namespace Node

mutual

/-- What a node does depends on the paths of rejections at its sites only. -/
theorem plan_like {node : Node ρ σ} (h : ∀ part ∈ node.parts, ∀ site, part.Asks site → P site)
    (v : Value) : Plan.Like P (node.plan v) (node.plan v) := by
  cases node with
  | leaf l => exact .ask (h _ (mem_parts_self _) _ (.leaf l v)) rfl
  | composite name children strategy made =>
    have own := h _ (mem_parts_self _)
    have inner : ∀ part ∈ partsOf children, ∀ site, part.Asks site → P site :=
      fun part hp => h part (List.mem_cons_of_mem _ hp)
    rw [plan.eq_def]
    cases strategy with
    | pipe => exact planAll_like inner v
    | each =>
      cases v with
      | array items => exact .andThen (Plan.elements_like (planAll_like inner) 0 _) fun _ => .done _
      | object fields =>
        exact .andThen (Plan.elements_like (planAll_like inner) 0 _) fun _ => .done _
      | _ => exact .ask (own _ (.each _)) rfl
    | collect labels =>
      have each := plans_like inner
      cases labels with
      | none => exact .andThen (Plan.every_like each v) fun _ => .done _
      | some labels =>
        refine .andThen (Plan.every_like (fun branch hb => ?_) v) fun _ => .done _
        exact each branch (List.mem_of_mem_take hb)
    | firstSuccess =>
      simp only [Plan.firstSuccess]
      split
      · exact .done v
      · exact Plan.firstOf_like (plans_like inner)
          (fun attempts failures => own _ (.any attempts failures)) v _ rfl
    | allOf => exact .andThen (Plan.every_like (plans_like inner) v) fun _ => .done v
    | conditional predicate negate otherwise =>
      refine .andThen (.ask (own _ (.predicate v)) rfl) fun verdict => ?_
      split
      · exact planAll_like inner v
      · exact .done _
    | recover fallback handler =>
      refine .orElse (planAll_like inner v) fun r r' alike => ?_
      cases handler with
      | none => exact .done _
      | some handler =>
        exact .ask (own _ (.handler v r)) (congrArg (Site.handler fallback handler v) alike)
    | replaceTemplate template pairs => exact .retemplate _ _ (planAll_like inner v)

theorem planAll_like {nodes : List (Node ρ σ)}
    (h : ∀ part ∈ partsOf nodes, ∀ site, part.Asks site → P site) (v : Value) :
    Plan.Like P (planAll nodes v) (planAll nodes v) := by
  cases nodes with
  | nil =>
    rw [planAll]
    exact .done v
  | cons node rest =>
    rw [planAll]
    have first := fun part hp => h part (List.mem_append_left _ hp)
    have others := fun part hp => h part (List.mem_append_right _ hp)
    exact .andThen (plan_like first v) (planAll_like others)

theorem plans_like {nodes : List (Node ρ σ)}
    (h : ∀ part ∈ partsOf nodes, ∀ site, part.Asks site → P site) :
    ∀ branch ∈ plans nodes, ∀ v, Plan.Like P (branch v) (branch v) := by
  cases nodes with
  | nil => simp [plans]
  | cons node rest =>
    rw [plans, List.forall_mem_cons]
    have first := fun part hp => h part (List.mem_append_left _ hp)
    have others := fun part hp => h part (List.mem_append_right _ hp)
    exact ⟨plan_like first, plans_like others⟩

end

end Node

end Like

section Run

variable [Record ρ σ]

/-- A handler that does the same whatever the path of the rejection that it is shown. -/
def Handler.Oblivious (h : Handler ρ σ) : Prop :=
  ∀ fallback v scope r r', r.pathless = r'.pathless →
    (Strategy.fallbackFor fallback (some h) v scope r).Agrees
      (Strategy.fallbackFor fallback (some h) v scope r')

namespace Site

def Oblivious : Site ρ σ → Prop
  | leaf l _ => l.step.run.Oblivious
  | predicate run _ => run.Oblivious
  | handler _ h _ _ => h.Oblivious
  | refusal .. => True

theorem Oblivious.run {site site' : Site ρ σ} (h : site.Oblivious)
    (same : site.pathless = site'.pathless) (scope : Scope ρ) (b : Bool) :
    (site.run scope).Agrees (site'.run (scope.tracing b)) := by
  cases site with
  | leaf l v =>
    cases site' <;> cases same
    exact h v scope b
  | predicate run v =>
    cases site' <;> cases same
    exact h v scope b
  | handler fallback handler v r =>
    cases site' with
    | handler fallback' handler' v' r' =>
      obtain ⟨rfl, rfl, rfl, alike⟩ := Site.handler.inj same
      have again : Strategy.fallbackFor fallback (some handler) v (scope.tracing b) r' =
          Strategy.fallbackFor fallback (some handler) v scope r' := by
        cases handler <;> rfl
      rw [Site.run, Site.run, again]
      exact h fallback v scope r r' alike
    | _ => cases same
  | refusal node r =>
    cases site' with
    | refusal node' r' =>
      obtain ⟨rfl, alike⟩ := Site.refusal.inj same
      intro s s' app
      exact Act.seen_rejected (Rejection.pathless_enrich alike ..) app
    | _ => cases same

end Site

namespace Plan.Like

variable {plan plan' : Plan ρ σ α} (h : Like Site.Oblivious plan plan') (scope : Scope ρ) (b : Bool)

include h

theorem run : (plan.run scope).Agrees (plan'.run (scope.tracing b)) := by
  induction h with
  | done a => exact .pure a
  | ask oblivious same => exact oblivious.run same scope b
  | andThen before after ihb iha => exact ihb.bind iha
  | element i inside ih =>
    refine .framed (.onRejection (fun frames frames' r r' alike => ?_) ih) _ _ _
    exact Rejection.pathless_inElement alike i
  | orElse before after ihb iha => exact ihb.orElseRejected iha
  | retemplate template pairs inside ih =>
    refine .onRejection (fun frames frames' r r' alike => ?_) ih
    exact Rejection.pathless_retemplate alike template pairs

theorem answers (place : List Nat) {s s' : RunState σ} (app : s.app = s'.app) :
    (plan.answers scope place s).map Answer.pathless =
      (plan'.answers (scope.tracing b) place s').map Answer.pathless := by
  induction h generalizing place s s' with
  | done a => rfl
  | @ask site site' oblivious same =>
    have outcome := oblivious.run same scope b s s' app
    obtain ⟨result, left⟩ := Prod.mk.inj outcome
    simp only [Plan.answers, List.map_singleton, Answer.pathless, same, app, result, left]
  | @andThen α β first first' next next' before after ihb iha =>
    rw [Plan.answers, Plan.answers, List.map_append, List.map_append, ihb place app]
    obtain ⟨t, t', app', ⟨a, e, e'⟩ | ⟨r, r', e, e', -⟩ | ⟨fault, e, e', -⟩⟩ :=
      Act.seen_eq (before.run scope b s s' app) <;> rw [e, e']
    · rw [iha a place app']
  | element i inside ih =>
    refine ih (place ++ [i]) ?_
    simp [app]
  | @orElse first first' next next' before after ihb iha =>
    rw [Plan.answers, Plan.answers, List.map_append, List.map_append, ihb place app]
    obtain ⟨t, t', app', ⟨a, e, e'⟩ | ⟨r, r', e, e', alike⟩ | ⟨fault, e, e', hard⟩⟩ :=
      Act.seen_eq (before.run scope b s s' app) <;> rw [e, e']
    · rw [iha r r' alike place app']
    · cases fault with
      | rejected r => exact absurd rfl (hard r)
      | _ => rfl
  | retemplate template pairs inside ih => exact ih place app

end Plan.Like

end Run

/-- The handlers of a tree have the property `H`. -/
def Node.HandledBy (H : Handler ρ σ → Prop) (root : Node ρ σ) : Prop :=
  ∀ fallback h v r, root.MayAsk (.handler fallback h v r) → H h

def Strategy.handler? : Strategy ρ σ → Option (Handler ρ σ)
  | recover _ handler => handler
  | _ => none

section Handled

variable {H : Handler ρ σ → Prop}

theorem Node.handledBy_leaf (l : Leaf ρ σ) : (leaf l).HandledBy H := by
  intro fallback h v r asked
  obtain ⟨input, same⟩ := mayAsk_leaf.mp asked
  cases same

theorem Node.handledBy_fresh {name : String} {children : List (Node ρ σ)}
    {strategy : Strategy ρ σ} (inner : ∀ child ∈ children, child.HandledBy H)
    (own : ∀ h, strategy.handler? = some h → H h) : (fresh name children strategy).HandledBy H := by
  intro fallback h v r asked
  rcases mayAsk_fresh.mp asked with asks | ⟨child, hc, asked⟩
  · cases asks with
    | handler v r => exact own h rfl
  · exact inner child hc fallback h v r asked

namespace Chain

variable [Record ρ σ] {r : Resolver ρ σ} {owner : ρ} {direction : Direction} {take : Take}

/-- A group hands its handler on to the composite that it becomes. -/
theorem join_handler {g : Grouping ρ σ} {children : List (Node ρ σ)} {node : Node ρ σ}
    {w w' : Workspace ρ σ} (h : join r owner g children w = (.ok node, w')) :
    ∃ name strategy, node = .fresh name children strategy ∧
      strategy.handler? = (Declaration.group g).handler? := by
  cases g with
  | when condition negate count otherwise =>
    obtain ⟨predicate, w₁, -, e⟩ := bind_eq_ok.mp h
    cases e
    exact ⟨_, _, rfl, rfl⟩
  | collect shape =>
    cases shape <;>
    · cases h
      exact ⟨_, _, rfl, rfl⟩
  | _ =>
    cases h
    exact ⟨_, _, rfl, rfl⟩

theorem Compiles.handledBy {taken used : Nat} {done done' : List (Node ρ σ)}
    {ds : List (Declaration ρ σ)} {w w' : Workspace ρ σ}
    (h : Compiles r owner direction take taken done ds w done' used w')
    (declared : ∀ d ∈ ds, ∀ h, d.handler? = some h → H h)
    (before : ∀ node ∈ done, node.HandledBy H) : ∀ node ∈ done', node.HandledBy H := by
  induction h with
  | full | atEnd => exact before
  | @node _ _ _ _ _ request rest _ _ _ l open_ resolved after ih =>
    obtain ⟨-, others⟩ := List.forall_mem_cons.mp declared
    exact ih others (List.forall_mem_cons.mpr ⟨Node.handledBy_leaf l, before⟩)
  | failTo open_ handled after ih =>
    obtain ⟨own, others⟩ := List.forall_mem_cons.mp declared
    obtain ⟨last, before⟩ := List.forall_mem_cons.mp before
    refine ih others (List.forall_mem_cons.mpr ⟨Node.handledBy_fresh ?_ own, before⟩)
    exact List.forall_mem_singleton.mpr last
  | active open_ switched opened body joined after ihb iha =>
    obtain ⟨own, others⟩ := List.forall_mem_cons.mp declared
    obtain ⟨name, strategy, rfl, same⟩ := join_handler joined
    have inner := ihb others nofun
    refine iha (fun d hd => others d (List.mem_of_mem_drop hd))
      (List.forall_mem_cons.mpr ⟨?_, before⟩)
    exact Node.handledBy_fresh (fun node hn => inner node (List.mem_reverse.mp hn)) (same ▸ own)
  | inactive open_ switched body after ih =>
    obtain ⟨-, others⟩ := List.forall_mem_cons.mp declared
    refine ih (fun d hd => others d (List.mem_of_mem_drop hd))
      (List.forall_mem_cons.mpr ⟨?_, before⟩)
    exact Node.handledBy_fresh nofun nofun

/-- The handlers in a compiled tree are those of its declarations. -/
theorem compile_handledBy {q q' : Queue ρ σ} {root : Node ρ σ} {w w' : Workspace ρ σ}
    (built : compile r q owner direction take w = ((.ok root, q'), w'))
    (declared : ∀ d ∈ q.rest, ∀ h, d.handler? = some h → H h) : root.HandledBy H := by
  obtain ⟨children, used, walk, rfl, -⟩ := compile_eq_ok.mp built
  have inner := walk.handledBy declared nofun
  exact Node.handledBy_fresh (fun node hn => inner node (List.mem_reverse.mpr hn)) nofun

end Chain

end Handled

section Tree

variable [Record ρ σ] {root : Node ρ σ} (does : root.Does Callable.Oblivious)
  (handled : root.HandledBy Handler.Oblivious)

include does handled

theorem Node.plan_oblivious (v : Value) :
    Plan.Like Site.Oblivious (root.plan v) (root.plan v) := by
  refine plan_like (fun part hp site asks => ?_) v
  have asked : root.MayAsk site := ⟨part, hp, asks⟩
  cases site with
  | leaf l v =>
    obtain ⟨name, body, runs, oblivious⟩ := does _ asked
    rw [Site.Oblivious, runs]
    exact oblivious.asNode name
  | predicate run v =>
    obtain ⟨name, body, rfl, oblivious⟩ := does _ asked
    exact oblivious.asNode name
  | handler fallback h v r => exact handled fallback h v r asked
  | refusal node r => trivial

/-- A tree of oblivious code is oblivious. -/
theorem Node.compile_oblivious (isFresh : root.IsFresh) : root.compile.Oblivious := by
  intro v scope b
  rw [compile_plan isFresh]
  exact (plan_oblivious does handled v).run scope b

/-- Tracing paths changes nothing about what a tree of oblivious code turns to. -/
theorem Node.answers_oblivious (v : Value) (scope : Scope ρ) (b : Bool) {s s' : RunState σ}
    (app : s.app = s'.app) :
    (root.answers v scope s).map Answer.pathless =
      (root.answers v (scope.tracing b) s').map Answer.pathless :=
  (plan_oblivious does handled v).answers scope b [] app

end Tree

end FieldPipeline
