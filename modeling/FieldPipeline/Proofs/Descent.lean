import FieldPipeline.Proofs.Enrichment
import FieldPipeline.Proofs.Succession
import FieldPipeline.Proofs.Turns

namespace FieldPipeline

open Outcome

variable {ρ σ : Type}

namespace Fault

theorem mapRejection_nil (fault : Fault) : fault.mapRejection (Layer.passAll []) = fault := by
  cases fault <;> rfl

theorem mapRejection_cons (fault : Fault) (layer : Layer) (layers : List Layer) :
    (fault.mapRejection (Layer.passAll layers)).mapRejection layer.pass =
      fault.mapRejection (Layer.passAll (layer :: layers)) := by
  cases fault <;> rfl

end Fault

/-- What is run under a frame comes to the same result, in the same state but for the frames. -/
theorem Scope.framed_result {α : Type} {scope : Scope ρ} {name : String} {body : Act σ α}
    {s s' : RunState σ} {result : Except Fault α}
    (ran : body (scope.enter name s) = (result, s')) :
    ∃ after, scope.framed name body s = (result, after) ∧ after.app = s'.app := by
  have came := scope.framed_fst name body s
  have kept := scope.framed_app name body s
  rw [ran] at came kept
  exact ⟨(scope.framed name body s).2, Prod.ext_iff.mpr ⟨came, rfl⟩, kept⟩

variable [Record ρ σ]

namespace Node

variable {name : String} {children before after : List (Node ρ σ)} {child : Node ρ σ}
  {v input : Value} {scope : Scope ρ} {s s₁ s' : RunState σ} {fault : Fault}

theorem compile_pipe (name : String) (nodes : List (Node ρ σ)) :
    (fresh name nodes .pipe).compile = (chain nodes).compile := by
  simp only [chain, fresh, compile, wrap]

theorem compile_chain_cons (h : AreFresh after) :
    (chain (child :: after)).compile = child.compile.andThen (chain after).compile := by
  simp only [chain, fresh, compile, wrap, wrapAll]
  exact wrapAll_eq_andThen h _

/-- A chain that gets to a child fails with the faults of that child. -/
theorem chain_error (h : AreFresh (before ++ child :: after))
    (ran : (chain before).compile v scope s = (.ok input, s₁))
    (failed : child.compile input scope s₁ = (.error fault, s')) :
    (chain (before ++ child :: after)).compile v scope s = (.error fault, s') := by
  have rest : AreFresh (child :: after) :=
    areFresh_iff.mpr fun node mem => areFresh_iff.mp h node (List.mem_append_right before mem)
  have split : (chain (before ++ child :: after)).compile =
      (chain before).compile.andThen (chain (child :: after)).compile := compile_chain_append rest
  rw [split, Callable.andThen_run, ran]
  dsimp only
  rw [compile_chain_cons rest.2, Callable.andThen_run, failed]

/-- A conditional group whose condition holds runs its sub-chain. -/
theorem conditional_run {predicate : Callable ρ σ} {negate : Bool}
    {otherwise : Option Value} {verdict : Value}
    (ran : predicate v scope s = (.ok verdict, s₁)) (holds : verdict.truthy ≠ negate) :
    (fresh name children (.conditional predicate negate otherwise)).compile v scope s =
      (chain children).compile v scope s₁ := by
  simp only [chain, fresh, compile, wrap, Callable.identity_andThen]
  rw [Strategy.runConditional, bind_of_ok ran, if_pos holds]

/-- An error template changes the rejections of its sub-chain. -/
theorem replaceTemplate_error (general : Option String) (pairs : List (String × String))
    (failed : (chain children).compile v scope s = (.error fault, s')) :
    (fresh name children (.replaceTemplate general pairs)).compile v scope s =
      (.error (fault.mapRejection (Strategy.retemplate general pairs)), s') := by
  simp only [chain, fresh, compile, wrap, Callable.identity_andThen] at failed ⊢
  rw [Strategy.runReplaceTemplate, Act.onRejection_eq, failed]
  rfl

/-- A protected sub-chain that is rejected gives way to the fallback. -/
theorem recover_rejected (fallback : Arg) (handler : Option (Handler ρ σ)) {r : Rejection}
    (failed : (chain children).compile v scope s = (.error (.rejected r), s')) :
    (fresh name children (.recover fallback handler)).compile v scope s =
      Strategy.fallbackFor fallback handler v scope r s' := by
  simp only [chain, fresh, compile, wrap, Callable.identity_andThen] at failed ⊢
  rw [Strategy.runRecover, Act.orElseRejected, failed]

/-- A run of the tree on `v` from `s` gets to `part`, which it runs on `x` from `t`. The layers
around `part` are given with the outermost first; no group around it deals with rejections. -/
inductive Descends (scope : Scope ρ) : Node ρ σ → Value → RunState σ → List Layer →
    Node ρ σ → Value → RunState σ → Prop
  | here (node : Node ρ σ) (v : Value) (s : RunState σ) : Descends scope node v s [] node v s
  | pipe {name : String} {before after : List (Node ρ σ)} {child part : Node ρ σ}
    {v input x : Value} {s s₁ t : RunState σ} {layers : List Layer}
    (ran : (chain before).compile v scope s = (.ok input, s₁))
    (inside : Descends scope child input s₁ layers part x t) :
    Descends scope (.fresh name (before ++ child :: after) .pipe) v s layers part x t
  | element {name : String} {children : List (Node ρ σ)} {part : Node ρ σ} {v item x : Value}
    {done rest outs : List Value} {asked : List (Answer ρ σ)} {s s₁ t : RunState σ}
    {layers : List Layer} (collection : v.elements? = some (done ++ item :: rest))
    (ran : Succeeding ((chain children).elementTurns scope done) s outs asked s₁)
    (inside : Descends scope (chain children) item
      (scope.enter ("[" ++ toString done.length ++ "]") s₁) layers part x t) :
    Descends scope (.fresh name children .each) v s (.element done.length :: layers) part x t
  | branch {name : String} {before after : List (Node ρ σ)} {child part : Node ρ σ}
    {strategy : Strategy ρ σ} {v x : Value} {outs : List Value} {asked : List (Answer ρ σ)}
    {s s₁ t : RunState σ} {layers : List Layer}
    (gathers : strategy.Gathers (before ++ child :: after).length)
    (ran : Succeeding (before.map (·.turn v scope)) s outs asked s₁)
    (inside : Descends scope child v s₁ layers part x t) :
    Descends scope (.fresh name (before ++ child :: after) strategy) v s layers part x t
  | conditional {name : String} {children : List (Node ρ σ)} {part : Node ρ σ}
    {predicate : Callable ρ σ} {negate : Bool} {otherwise : Option Value} {v verdict x : Value}
    {s s₁ t : RunState σ} {layers : List Layer}
    (ran : predicate v scope s = (.ok verdict, s₁)) (holds : verdict.truthy ≠ negate)
    (inside : Descends scope (chain children) v s₁ layers part x t) :
    Descends scope (.fresh name children (.conditional predicate negate otherwise)) v s layers
      part x t
  | template {name : String} {children : List (Node ρ σ)} {part : Node ρ σ}
    {general : Option String} {pairs : List (String × String)} {v x : Value} {s t : RunState σ}
    {layers : List Layer} (inside : Descends scope (chain children) v s layers part x t) :
    Descends scope (.fresh name children (.replaceTemplate general pairs)) v s
      (.template general pairs :: layers) part x t

/-- The first child of a chain gets the input of the chain. -/
theorem Descends.head {part : Node ρ σ} {x : Value} {t : RunState σ} {layers : List Layer}
    (inside : child.Descends scope v s layers part x t) :
    (chain (child :: after)).Descends scope v s layers part x t :=
  have ran : (chain []).compile v scope s = (.ok v, s) := rfl
  .pipe ran inside

/-- Nothing runs before the first element. -/
theorem Descends.firstElement {part : Node ρ σ} {item x : Value} {rest : List Value}
    {t : RunState σ} {layers : List Layer} (collection : v.elements? = some (item :: rest))
    (inside : (chain children).Descends scope item (scope.enter "[0]" s) layers part x t) :
    (fresh name children .each).Descends scope v s (.element 0 :: layers) part x t :=
  have ran : Succeeding ((chain children).elementTurns scope []) s [] [] s := .nil s
  .element collection ran inside

/-- A tree fails with the fault of a part that its run gets to. A rejection has passed the layers
around the part, and nothing was run after the part. -/
theorem Descends.error {node part : Node ρ σ} {x : Value} {t t' : RunState σ}
    {layers : List Layer} (h : node.Descends scope v s layers part x t) (fresh_ : node.IsFresh)
    (failed : part.compile x scope t = (.error fault, t')) :
    ∃ s', node.compile v scope s = (.error (fault.mapRejection (Layer.passAll layers)), s') ∧
      s'.app = t'.app := by
  induction h with
  | here node v s => exact ⟨t', by rw [failed, Fault.mapRejection_nil], rfl⟩
  | pipe ran inside ih =>
    have inner := isFresh_fresh.mp fresh_
    obtain ⟨s', ended, app⟩ := ih (areFresh_iff.mp inner _ (by simp)) failed
    exact ⟨s', by rw [compile_pipe, chain_error inner ran ended], app⟩
  | @element name children _ _ item _ done rest outs asked _ s₁ _ layers collection ran inside ih =>
    -- The element ran under a frame, which is gone when the fault comes out.
    have inner := isFresh_fresh.mp fresh_
    obtain ⟨s', ended, app⟩ := ih (isFresh_fresh.mpr inner) failed
    obtain ⟨after, turned, kept⟩ := Scope.framed_result ended
    refine ⟨after, (each_error inner collection ran turned).1.trans ?_, kept.trans app⟩
    rw [← Fault.mapRejection_cons]
    rfl
  | branch gathers ran inside ih =>
    have inner := isFresh_fresh.mp fresh_
    obtain ⟨s', ended, app⟩ := ih (areFresh_iff.mp inner _ (by simp)) failed
    exact ⟨s', (gathers_error inner gathers ran ended).1, app⟩
  | conditional ran holds inside ih =>
    obtain ⟨s', ended, app⟩ := ih (isFresh_fresh.mpr (isFresh_fresh.mp fresh_)) failed
    exact ⟨s', by rw [conditional_run ran holds, ended], app⟩
  | @template _ _ _ general pairs _ _ _ _ layers inside ih =>
    obtain ⟨s', ended, app⟩ := ih (isFresh_fresh.mpr (isFresh_fresh.mp fresh_)) failed
    refine ⟨s', (replaceTemplate_error general pairs ended).trans ?_, app⟩
    rw [← Fault.mapRejection_cons]
    rfl

end Node

end FieldPipeline
