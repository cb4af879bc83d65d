import FieldPipeline.Proofs.Oblivious

namespace FieldPipeline

open Outcome

variable {ρ σ α β : Type}

namespace Act

/-- Both come to one result, whatever the application's state is, and leave the trace as they find
it. -/
def Same (body body' : Act σ α) : Prop :=
  ∀ s s', s.trace = s'.trace →
    (body s).1 = (body' s').1 ∧ (body s).2.trace = s.trace ∧ (body' s').2.trace = s'.trace

namespace Same

variable {body body' body'' : Act σ α}

theorem ran (h : body.Same body') {s s' : RunState σ} (aligned : s.trace = s'.trace) :
    ∃ result t t', body s = (result, t) ∧ body' s' = (result, t') ∧ t.trace = s.trace ∧
      t'.trace = s'.trace := by
  obtain ⟨same, left, left'⟩ := h s s' aligned
  exact ⟨(body s).1, (body s).2, (body' s').2, rfl, Prod.ext same.symm rfl, left, left'⟩

theorem symm (h : body.Same body') : body'.Same body := by
  intro s s' aligned
  obtain ⟨same, left, left'⟩ := h s' s aligned.symm
  exact ⟨same.symm, left', left⟩

theorem trans (h : body.Same body') (h' : body'.Same body'') : body.Same body'' := by
  intro s s' aligned
  obtain ⟨same, left, -⟩ := h s s' aligned
  obtain ⟨same', -, left'⟩ := h' s' s' rfl
  exact ⟨same.trans same', left, left'⟩

theorem pure (a : α) : Same (Pure.pure a : Act σ α) (Pure.pure a) :=
  fun _ _ _ => ⟨rfl, rfl, rfl⟩

theorem bind {f f' : α → Act σ β} (h : body.Same body') (hf : ∀ a, (f a).Same (f' a)) :
    Same (body >>= f) (body' >>= f') := by
  intro s s' aligned
  obtain ⟨result, t, t', e, e', left, left'⟩ := h.ran aligned
  rw [bind_run, bind_run, e, e']
  cases result with
  | error fault => exact ⟨rfl, left, left'⟩
  | ok a =>
    obtain ⟨same, last, last'⟩ := hf a t t' (left.trans (aligned.trans left'.symm))
    exact ⟨same, last.trans left, last'.trans left'⟩

theorem onRejection {change change' : List String → Rejection → Rejection}
    (hc : ∀ frames r, change frames r = change' frames r) (h : body.Same body') :
    Same (Act.onRejection change body) (Act.onRejection change' body') := by
  intro s s' aligned
  obtain ⟨result, t, t', e, e', left, left'⟩ := h.ran aligned
  have frames : t.trace.frames = t'.trace.frames := by rw [left, left', aligned]
  rw [Act.onRejection, Act.onRejection, e, e']
  cases result with
  | ok a => exact ⟨rfl, left, left'⟩
  | error fault =>
    cases fault with
    | rejected r =>
      dsimp only
      rw [frames, hc]
      exact ⟨rfl, left, left'⟩
    | _ => exact ⟨rfl, left, left'⟩

theorem orElseRejected {recover recover' : Rejection → Act σ α} (h : body.Same body')
    (hr : ∀ r, (recover r).Same (recover' r)) :
    Same (Act.orElseRejected body recover) (Act.orElseRejected body' recover') := by
  intro s s' aligned
  obtain ⟨result, t, t', e, e', left, left'⟩ := h.ran aligned
  rw [Act.orElseRejected, Act.orElseRejected, e, e']
  cases result with
  | ok a => exact ⟨rfl, left, left'⟩
  | error fault =>
    cases fault with
    | rejected r =>
      obtain ⟨same, last, last'⟩ := hr r t t' (left.trans (aligned.trans left'.symm))
      exact ⟨same, last.trans left, last'.trans left'⟩
    | _ => exact ⟨rfl, left, left'⟩

end Same

end Act

/-- Scopes that differ in their records at most, which are both of the set `like`. -/
structure Scope.Like (like : ρ → Prop) (a b : Scope ρ) : Prop where
  left : like a.record
  right : like b.record
  context : a.context = b.context
  direction : a.direction = b.direction
  tracePaths : a.tracePaths = b.tracePaths

section Scopes

variable {like : ρ → Prop} {scope scope' : Scope ρ}

theorem Scope.Like.symm (h : scope.Like like scope') : scope'.Like like scope :=
  ⟨h.right, h.left, h.context.symm, h.direction.symm, h.tracePaths.symm⟩

theorem Scope.Like.refl_right (h : scope.Like like scope') : scope'.Like like scope' :=
  ⟨h.right, h.right, rfl, rfl, rfl⟩

variable (alike : scope.Like like scope')

include alike

theorem Scope.Like.enter {s s' : RunState σ} (aligned : s.trace = s'.trace) (name : String) :
    (scope.enter name s).trace = (scope'.enter name s').trace := by
  unfold Scope.enter
  rw [alike.tracePaths]
  split
  · exact congrArg (Trace.push · name) aligned
  · exact aligned

theorem Scope.Like.framed {body body' : Act σ α} (h : body.Same body') (name : String) :
    Act.Same (scope.framed name body) (scope'.framed name body') := by
  intro s s' aligned
  obtain ⟨same, left, left'⟩ := h _ _ (alike.enter aligned name)
  refine ⟨?_, Scope.framed_trace left, Scope.framed_trace left'⟩
  simp [same]

theorem Scope.Like.enrich (node : String) (frames : List String) (r : Rejection) :
    scope.enrich node frames r = scope'.enrich node frames r := by
  unfold Scope.enrich
  rw [alike.tracePaths]

theorem Scope.Like.reject (node : String) (r : Rejection) :
    Act.Same (scope.reject node r : Act σ α) (scope'.reject node r) := by
  intro s s' aligned
  refine ⟨?_, rfl, rfl⟩
  rw [Scope.reject, Scope.reject, aligned, alike.enrich]

end Scopes

/-- Both do the same for all records of the set `like`. -/
def Callable.Same (like : ρ → Prop) (f f' : Callable ρ σ) : Prop :=
  ∀ v scope scope', scope.Like like scope' → (f v scope).Same (f' v scope')

variable {like : ρ → Prop}

namespace Callable.Same

variable {f f' f'' g g' : Callable ρ σ}

theorem symm (h : f.Same like f') : f'.Same like f :=
  fun v _ _ alike => (h v _ _ alike.symm).symm

theorem trans (h : f.Same like f') (h' : f'.Same like f'') : f.Same like f'' :=
  fun v _ _ alike => (h v _ _ alike).trans (h' v _ _ alike.refl_right)

theorem identity : Callable.Same like (Callable.identity : Callable ρ σ) Callable.identity :=
  fun v _ _ _ => .pure v

theorem andThen (h : f.Same like f') (next : g.Same like g') :
    (f.andThen g).Same like (f'.andThen g') :=
  fun v _ _ alike => .bind (h v _ _ alike) fun a => next a _ _ alike

theorem asNode (h : f.Same like f') (name : String) :
    (f.asNode name).Same like (f'.asNode name) :=
  fun v _ _ alike => alike.framed (.onRejection (alike.enrich name) (h v _ _ alike)) name

end Callable.Same

/-- What handles a failure does the same for all records of the set `like`. -/
def Handler.Impartial [Record ρ σ] (like : ρ → Prop) (h : Handler ρ σ) : Prop :=
  ∀ fallback r, Callable.Same like (fun v scope => Strategy.fallbackFor fallback (some h) v scope r)
    fun v scope => Strategy.fallbackFor fallback (some h) v scope r

namespace Strategy

variable {inner inner' : Callable ρ σ} {branches branches' : List (Callable ρ σ)}
  {scope scope' : Scope ρ}

theorem elements_same (h : inner.Same like inner') (alike : scope.Like like scope') (i : Nat)
    (items : List Value) :
    (elements inner scope i items).Same (elements inner' scope' i items) := by
  induction items generalizing i with
  | nil => exact .pure []
  | cons v rest ih =>
    have first : (element inner scope i v).Same (element inner' scope' i v) :=
      alike.framed (.onRejection (fun _ _ => rfl) (h v _ _ alike)) _
    exact .bind first fun _ => .bind (ih (i + 1)) fun _ => .pure _

theorem runEach_same (h : inner.Same like inner') :
    Callable.Same like (runEach inner) (runEach inner') := by
  intro v scope scope' alike
  cases v with
  | array items => exact .bind (elements_same h alike 0 items) fun _ => .pure _
  | object fields => exact .bind (elements_same h alike 0 _) fun _ => .pure _
  | _ => exact alike.reject _ _

theorem runAll_same (h : List.Forall₂ (Callable.Same like) branches branches')
    (alike : scope.Like like scope') (v : Value) :
    (runAll v scope branches).Same (runAll v scope' branches') := by
  induction h with
  | nil => exact .pure []
  | cons first others ih => exact .bind (first v _ _ alike) fun _ => .bind ih fun _ => .pure _

theorem runCollect_same (h : List.Forall₂ (Callable.Same like) branches branches')
    (labels : Option (List String)) :
    Callable.Same like (runCollect labels branches) (runCollect labels branches') := by
  intro v scope scope' alike
  cases labels with
  | none => exact .bind (runAll_same h alike v) fun _ => .pure _
  | some labels => exact .bind (runAll_same (List.forall₂_take _ h) alike v) fun _ => .pure _

theorem firstOf_same (h : List.Forall₂ (Callable.Same like) branches branches')
    (alike : scope.Like like scope') (v : Value) (attempts : Nat) (failures : List Rejection) :
    (firstOf v scope attempts failures branches).Same
      (firstOf v scope' attempts failures branches') := by
  induction h generalizing failures with
  | nil => exact alike.reject _ _
  | cons first others ih => exact .orElseRejected (first v _ _ alike) fun r => ih (r :: failures)

theorem runFirstSuccess_same (h : List.Forall₂ (Callable.Same like) branches branches') :
    Callable.Same like (runFirstSuccess branches) (runFirstSuccess branches') := by
  intro v scope scope' alike
  cases h with
  | nil => exact .pure v
  | cons first others =>
    have all := List.Forall₂.cons first others
    rw [runFirstSuccess, runFirstSuccess, all.length_eq]
    exact firstOf_same all alike v _ []

theorem runAllOf_same (h : List.Forall₂ (Callable.Same like) branches branches') :
    Callable.Same like (runAllOf branches) (runAllOf branches') :=
  fun v _ _ alike => .bind (runAll_same h alike v) fun _ => .pure v

theorem runConditional_same {predicate predicate' : Callable ρ σ}
    (own : predicate.Same like predicate') (h : inner.Same like inner') (negate : Bool)
    (otherwise : Option Value) :
    Callable.Same like (runConditional predicate negate otherwise inner)
      (runConditional predicate' negate otherwise inner') := by
  intro v scope scope' alike
  refine .bind (own v _ _ alike) fun verdict => ?_
  split
  · exact h v _ _ alike
  · exact .pure _

theorem runRecover_same [Record ρ σ] {handler : Option (Handler ρ σ)}
    (own : ∀ h, handler = some h → h.Impartial like) (h : inner.Same like inner')
    (fallback : Arg) : Callable.Same like (runRecover fallback handler inner)
      (runRecover fallback handler inner') := by
  intro v scope scope' alike
  refine .orElseRejected (h v _ _ alike) fun r => ?_
  cases handler with
  | none => exact .pure _
  | some handler => exact own handler rfl fallback r v _ _ alike

theorem runReplaceTemplate_same (h : inner.Same like inner') (template : Option String)
    (pairs : List (String × String)) : Callable.Same like (runReplaceTemplate template pairs inner)
      (runReplaceTemplate template pairs inner') :=
  fun v _ _ alike => .onRejection (fun _ _ => rfl) (h v _ _ alike)

/-- One way to join children, with code that does the same. -/
inductive Same [Record ρ σ] (like : ρ → Prop) : Strategy ρ σ → Strategy ρ σ → Prop
  | refl {strategy : Strategy ρ σ} (does : strategy.Does fun f => f.Same like f)
      (handled : ∀ h, strategy.handler? = some h → h.Impartial like) : Same like strategy strategy
  | conditional {predicate predicate' : Callable ρ σ} (own : predicate.Same like predicate')
      (negate : Bool) (otherwise : Option Value) :
      Same like (.conditional predicate negate otherwise) (.conditional predicate' negate otherwise)

end Strategy

theorem Strategy.Same.pipe [Record ρ σ] :
    (Strategy.pipe : Strategy ρ σ).Same like .pipe := by
  refine .refl trivial fun h found => ?_
  cases found

namespace Node

variable [Record ρ σ]

/-- Nodes that do the same with whatever does the same before them. -/
def Same (like : ρ → Prop) (node node' : Node ρ σ) : Prop :=
  ∀ feed feed', Callable.Same like feed feed' → (node.wrap feed).Same like (node'.wrap feed')

variable {children children' : List (Node ρ σ)}

theorem wrapAll_same (h : List.Forall₂ (Same like) children children')
    {feed feed' : Callable ρ σ} (first : feed.Same like feed') :
    (wrapAll feed children).Same like (wrapAll feed' children') := by
  induction h generalizing feed feed' with
  | nil =>
    rw [wrapAll, wrapAll]
    exact first
  | cons own others ih =>
    rw [wrapAll, wrapAll]
    exact ih (own _ _ first)

theorem branches_same (h : List.Forall₂ (Same like) children children') :
    List.Forall₂ (Callable.Same like) (branches children) (branches children') := by
  induction h with
  | nil =>
    rw [branches]
    exact .nil
  | cons own others ih =>
    rw [branches, branches]
    exact .cons (own _ _ .identity) ih

theorem leaf_same {l l' : Leaf ρ σ} (h : l.step.run.Same like l'.step.run) :
    (leaf l).Same like (leaf l') := by
  intro feed feed' first
  rw [wrap, wrap]
  exact first.andThen h

/-- Composites of nodes that do the same do the same, whatever their names are. -/
theorem fresh_same {strategy strategy' : Strategy ρ σ}
    (inner : List.Forall₂ (Same like) children children') (own : strategy.Same like strategy')
    (name name' : String) :
    (fresh name children strategy).Same like (fresh name' children' strategy') := by
  intro feed feed' first
  have sequence := wrapAll_same inner .identity
  have each := branches_same inner
  cases own with
  | conditional own negate otherwise =>
    rw [fresh, fresh, wrap, wrap]
    exact first.andThen (Strategy.runConditional_same own sequence negate otherwise)
  | refl does handled =>
    rw [fresh, fresh, wrap.eq_def, wrap.eq_def]
    cases strategy with
    | pipe => exact wrapAll_same inner first
    | each => exact first.andThen (Strategy.runEach_same sequence)
    | collect labels => exact first.andThen (Strategy.runCollect_same each labels)
    | firstSuccess => exact first.andThen (Strategy.runFirstSuccess_same each)
    | allOf => exact first.andThen (Strategy.runAllOf_same each)
    | conditional predicate negate otherwise =>
      exact first.andThen (Strategy.runConditional_same does sequence negate otherwise)
    | recover fallback handler =>
      exact first.andThen (Strategy.runRecover_same handled sequence fallback)
    | replaceTemplate template pairs =>
      exact first.andThen (Strategy.runReplaceTemplate_same sequence template pairs)

theorem compile_same {node node' : Node ρ σ} (h : node.Same like node') :
    node.compile.Same like node'.compile :=
  h _ _ .identity

end Node

end FieldPipeline
