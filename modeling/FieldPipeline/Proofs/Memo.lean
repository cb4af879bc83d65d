import FieldPipeline.Proofs.Collecting
import FieldPipeline.Proofs.PipelineKey
import FieldPipeline.Proofs.Recompilation
import Mathlib.Data.List.Induction

namespace FieldPipeline

open Outcome

variable {ρ σ : Type}

/-- What a pipeline is asked for. -/
structure Lookup (ρ σ : Type) where
  record : ρ
  field : FieldDeclarations ρ σ
  direction : Direction

namespace Lookup

variable [Record ρ σ]

def key (l : Lookup ρ σ) : String :=
  Processor.pipelineKey l.record l.field.field l.direction

/-- One record type, field and direction, and the same active groups in any order. -/
structure Same (a b : Lookup ρ σ) : Prop where
  typeName : Record.typeName a.record = Record.typeName b.record
  field : a.field = b.field
  direction : a.direction = b.direction
  groups : ∀ name, name ∈ Record.activeGroups a.record a.direction ↔
    name ∈ Record.activeGroups b.record b.direction

theorem Same.refl (a : Lookup ρ σ) : a.Same a :=
  ⟨rfl, rfl, rfl, fun _ => Iff.rfl⟩

theorem Same.symm {a b : Lookup ρ σ} (h : a.Same b) : b.Same a :=
  ⟨h.typeName.symm, h.field.symm, h.direction.symm, fun name => (h.groups name).symm⟩

theorem Same.key {a b : Lookup ρ σ} (h : a.Same b) : a.key = b.key := by
  unfold Lookup.key Processor.pipelineKey
  rw [h.typeName, h.field, h.direction]
  exact Processor.keyOf_congr _ _ _ (h.direction ▸ h.groups)

theorem Same.alike {a b : Lookup ρ σ} (h : a.Same b)
    (arity : ∀ method, Record.arity? a.record method = Record.arity? b.record method) :
    Chain.Alike b.direction a.record b.record where
  typeName := h.typeName
  arity := arity
  groups := h.direction ▸ h.groups

end Lookup

/-- What an application does with a processor and its cache. -/
inductive Call (ρ σ : Type) where
  | pipeline (l : Lookup ρ σ)
  | process (record : ρ) (direction : Direction)
  | clear
  | clearKey (key : String)
  /-- Something that concerns neither. -/
  | other (change : RunState σ → RunState σ)

namespace Processor

variable [Record ρ σ]

/-- The workspace after a call. -/
def afterCall (p : Processor ρ σ) (w : Workspace ρ σ) : Call ρ σ → Workspace ρ σ
  | .pipeline l => (p.pipeline l.record l.field l.direction w).2
  | .process record direction => (p.process record direction w).2
  | .clear => { w with cache := w.cache.clear }
  | .clearKey key => { w with cache := (w.cache.drop key).2 }
  | .other change => { w with run := change w.run }

/-- A call that starts with `w` comes to the lookup `l` with `u`. -/
inductive CallLooksUp (p : Processor ρ σ) (w : Workspace ρ σ) :
    Call ρ σ → Lookup ρ σ → Workspace ρ σ → Prop
  | pipeline (l : Lookup ρ σ) : CallLooksUp p w (.pipeline l) l w
  | process {record current : ρ} {direction : Direction} {d : FieldDeclarations ρ σ}
      {u : Workspace ρ σ}
      (reached : p.Reaches (Record.context record) direction
        (p.metadata.fields (Record.typeName record) direction) record w d current u)
      (filled : Record.isFilled current d.field = true) :
      CallLooksUp p w (.process record direction) ⟨current, d, direction⟩ u

/-- A run of calls that starts with `w` comes to the lookup `l` with `u`. -/
def CallsLookUp (p : Processor ρ σ) (w : Workspace ρ σ) (calls : List (Call ρ σ)) (l : Lookup ρ σ)
    (u : Workspace ρ σ) : Prop :=
  ∃ before call after, calls = before ++ call :: after ∧
    p.CallLooksUp (before.foldl p.afterCall w) call l u

/-- Every pipeline in a cache was compiled for one of these lookups, and the cache has grown since.
-/
def Justified (p : Processor ρ σ) (asked : Lookup ρ σ → Prop) (c : Cache ρ σ) : Prop :=
  ∀ key made, c.pipeline? key = some made → ∃ l w w', asked l ∧ l.key = key ∧
    Chain.compileAll p.resolver l.field.declarations l.record l.direction w = (.ok made, w') ∧
    w'.cache.Grows c

section Justified

variable {p : Processor ρ σ} {asked : Lookup ρ σ → Prop} {w w' : Workspace ρ σ}

theorem Justified.of_empty {c : Cache ρ σ} (h : c.pipelines = []) : p.Justified asked c := by
  intro key made kept
  rw [Cache.pipeline?, h] at kept
  cases kept

theorem Justified.grown {c c' : Cache ρ σ} (h : p.Justified asked c) (e : c.Extends c') :
    p.Justified asked c' := by
  intro key made kept
  rw [Cache.pipeline?, e.pipelines] at kept
  obtain ⟨l, w, w', hl, hk, compiled, grown⟩ := h key made kept
  exact ⟨l, w, w', hl, hk, compiled, grown.trans e.grows⟩

theorem justified_pipeline {l : Lookup ρ σ} {result : Except Fault (Compiled ρ σ)}
    (h : p.Justified asked w.cache) (hl : asked l)
    (ran : p.pipeline l.record l.field l.direction w = (result, w')) :
    p.Justified asked w'.cache := by
  cases there : w.cache.pipeline? l.key with
  | some made =>
    rw [pipeline_of_some there] at ran
    cases ran
    exact h
  | none =>
    rw [pipeline_of_none there] at ran
    rcases e : Chain.compileAll p.resolver l.field.declarations l.record l.direction w with
      ⟨fault | made, w₁⟩
    · rw [e] at ran
      cases ran
      exact h.grown ((Chain.lossless_compileAll ..).after e)
    · rw [e] at ran
      cases ran
      have grown := w₁.cache.grows_keepPipeline l.key made
      have extended := (Chain.lossless_compileAll ..).after e
      intro key kept hk
      change (w₁.cache.keepPipeline l.key made).2.pipeline? key = some kept at hk
      obtain before | ⟨-, own, rfl⟩ := Cache.keepPipeline_cases hk
      · obtain ⟨l', v, v', hl', hk', compiled, grown'⟩ := h.grown extended key kept before
        exact ⟨l', v, v', hl', hk', compiled, grown'.trans grown⟩
      · exact ⟨l, w, w₁, hl, own.symm, e, grown⟩

/-- Running a callable leaves the cache alone. -/
theorem runField_cache {made : Compiled ρ σ} {record : ρ} {field : String} {context : Value}
    {direction : Direction} {result : Except Fault Value}
    (ran : p.runField made record field context direction w = (result, w')) :
    w'.cache = w.cache := by
  have left := congrArg Prod.snd ran
  rw [← show _ = w' from left]
  rfl

theorem Handles.justified {context : Value} {direction : Direction} {f : FieldDeclarations ρ σ}
    {record left : ρ} {verdict : Verdict}
    (step : p.Handles context direction f record w verdict left w')
    (h : p.Justified asked w.cache)
    (hl : Record.isFilled record f.field = true → asked ⟨record, f, direction⟩) :
    p.Justified asked w'.cache := by
  cases step with
  | absent => exact h
  | unbuilt filled built => exact justified_pipeline h (hl filled) built
  | processed filled built ran | collected filled built ran | refused filled built ran
  | broken filled built ran =>
    rw [runField_cache ran]
    exact justified_pipeline h (hl filled) built

/-- However far a run over fields has come, its cache is justified by the lookups that it comes to.
-/
theorem justified_processFields {context : Value} {direction : Direction} {record : ρ}
    (before after : List (FieldDeclarations ρ σ)) (h : p.Justified asked w.cache)
    (reached : ∀ d current u, p.Reaches context direction (before ++ after) record w d current u →
      Record.isFilled current d.field = true → asked ⟨current, d, direction⟩) :
    p.Justified asked (p.processFields context direction before record {} w).2.cache := by
  induction before using List.reverseRecOn generalizing after with
  | nil => exact h
  | append_singleton before d ih =>
    rw [List.append_assoc, List.singleton_append] at reached
    have here := ih (d :: after) reached
    rw [processFields_append]
    rcases ran : p.processFields context direction before record {} w with
      ⟨⟨fault | report, current⟩, u⟩
    · rw [ran] at here
      exact here
    rw [ran] at here
    obtain ⟨verdict, left, w', step⟩ := p.exists_handles context direction d current u
    have next := step.justified here fun filled =>
      reached d current u ⟨before, after, report, rfl, ran⟩ filled
    simp only [step.processFields_cons]
    cases verdict.enter d.field report with
    | error fault => exact next
    | ok report' => exact next

theorem justified_afterCall {call : Call ρ σ} (h : p.Justified asked w.cache)
    (looked : ∀ l u, p.CallLooksUp w call l u → asked l) :
    p.Justified asked (p.afterCall w call).cache := by
  cases call with
  | pipeline l => exact justified_pipeline h (looked l w (.pipeline l)) rfl
  | process record direction =>
    refine justified_processFields _ [] h fun d current u reached filled => ?_
    rw [List.append_nil] at reached
    exact looked _ u (.process reached filled)
  | clear => exact .of_empty rfl
  | clearKey key =>
    change p.Justified asked (w.cache.drop key).2
    unfold Cache.drop
    split
    · exact .of_empty rfl
    · exact h
  | other change => exact h

theorem justified_calls {calls after : List (Call ρ σ)} (h : p.Justified asked w.cache)
    (looked : ∀ l u, p.CallsLookUp w (calls ++ after) l u → asked l) :
    p.Justified asked (calls.foldl p.afterCall w).cache := by
  induction calls using List.reverseRecOn generalizing after with
  | nil => exact h
  | append_singleton calls call ih =>
    rw [List.append_assoc, List.singleton_append] at looked
    rw [List.foldl_concat]
    exact justified_afterCall (ih looked) fun l u one => looked l u ⟨calls, call, after, rfl, one⟩

/-- The cache in which a run comes to a lookup is justified. -/
theorem CallsLookUp.justified {calls : List (Call ρ σ)} {l : Lookup ρ σ} {u : Workspace ρ σ}
    (h : p.CallsLookUp w calls l u) (empty : w.cache.pipelines = []) :
    p.Justified (fun l => ∃ u, p.CallsLookUp w calls l u) u.cache := by
  obtain ⟨before, call, after, rfl, one⟩ := h
  have start : p.Justified (fun l => ∃ u, p.CallsLookUp w (before ++ call :: after) l u)
      (before.foldl p.afterCall w).cache :=
    justified_calls (.of_empty empty) fun l u found => ⟨u, found⟩
  cases one with
  | pipeline l => exact start
  | @process record current direction d u reached filled =>
    obtain ⟨done, rest, report, fields, ran⟩ := reached
    have there := justified_processFields done (d :: rest) start
      fun d' current' u' reached' filled' =>
        ⟨u', before, _, after, rfl, .process (fields ▸ reached') filled'⟩
    rw [ran] at there
    exact there

end Justified

theorem callsLookUp_cons_iff {p : Processor ρ σ} {w u : Workspace ρ σ} {call : Call ρ σ}
    {calls : List (Call ρ σ)} {l : Lookup ρ σ} :
    p.CallsLookUp w (call :: calls) l u ↔
      p.CallLooksUp w call l u ∨ p.CallsLookUp (p.afterCall w call) calls l u := by
  constructor
  · rintro ⟨before, one, after, e, found⟩
    cases before with
    | nil =>
      cases e
      exact .inl found
    | cons first rest =>
      cases e
      exact .inr ⟨rest, one, after, rfl, found⟩
  · rintro (found | ⟨before, one, after, rfl, found⟩)
    · exact ⟨[], call, calls, rfl, found⟩
    · exact ⟨call :: before, one, after, rfl, found⟩

/-- A pipeline from the cache is the one that would be compiled now. -/
theorem pipeline_memoized {p : Processor ρ σ} {w u : Workspace ρ σ} {calls : List (Call ρ σ)}
    (steady : ∀ a b : ρ, p.resolver.SteadyFor a b) (empty : w.cache.pipelines = [])
    (uniform : ∀ a v b v', p.CallsLookUp w calls a v → p.CallsLookUp w calls b v' →
      Record.typeName a.record = Record.typeName b.record →
      ∀ method, Record.arity? a.record method = Record.arity? b.record method)
    (apart : ∀ a v b v', p.CallsLookUp w calls a v → p.CallsLookUp w calls b v' → a.key = b.key →
      a.Same b)
    {l : Lookup ρ σ} (asked : p.CallsLookUp w calls l u) {made : Compiled ρ σ}
    (hit : u.cache.pipeline? l.key = some made) :
    (∀ l' : Lookup ρ σ, l.Same l' →
      p.pipeline l'.record l'.field l'.direction u = (.ok made, u)) ∧
    ∃ again u', Chain.compileAll p.resolver l.field.declarations l.record l.direction u =
        (.ok again, u') ∧
      u'.cache = u.cache ∧ p.resolver.Asks u.run u'.run ∧ again.run = made.run := by
  constructor
  · intro l' same
    rw [same.key] at hit
    exact pipeline_of_some hit
  · obtain ⟨first, v, v', ⟨t, looked⟩, key, compiled, grown⟩ := asked.justified empty l.key made hit
    have same := apart first t l u looked asked key
    have alike := same.alike (uniform first t l u looked asked same.typeName)
    rw [same.direction, same.field] at compiled
    obtain ⟨again, u', ran, run, idle⟩ := Chain.compileAll_again (steady _ _) alike compiled grown
    exact ⟨again, u', ran, idle.cache, idle.asks, run⟩

/-- A pipeline with an optional part, asked for once more by a record that lists the same groups in
another order. -/
theorem pipeline_memoized_shuffled :
    let p : Processor Scripted.Form Scripted.Desk :=
      { resolver.fallback := some fun _ _ _ => pure (some (.callable fun v _ _ => pure v)) }
    let d : FieldDeclarations Scripted.Form Scripted.Desk :=
      ⟨"name", [.group (.groups ["b"] none), .node { identity := .named "Echo" }]⟩
    let l : Lookup Scripted.Form Scripted.Desk := ⟨{ groups := ["a", "b"] }, d, .inbound⟩
    let l' : Lookup Scripted.Form Scripted.Desk := ⟨{ groups := ["b", "a", "b"] }, d, .inbound⟩
    let w : Workspace Scripted.Form Scripted.Desk := { run := { app := {} } }
    ∃ made u again u', p.pipeline l.record d .inbound w = (.ok made, u) ∧
      p.CallsLookUp w [.clear, .clearKey "x", .pipeline l, .pipeline l'] l' u ∧
      p.pipeline l'.record d .inbound u = (.ok made, u) ∧
      Chain.compileAll p.resolver d.declarations l'.record .inbound u = (.ok again, u') ∧
      u'.cache = u.cache ∧ again.run = made.run := by
  intro p d l l' w
  have same : l.Same l' := by
    refine ⟨rfl, rfl, rfl, fun name => ?_⟩
    change name ∈ ["a", "b"] ↔ name ∈ ["b", "a", "b"]
    simp only [List.mem_cons, List.not_mem_nil, or_false]
    constructor
    · exact .inr
    · rintro (hb | both)
      · exact .inr hb
      · exact both
  -- The first lookup compiles a group with one leaf.
  obtain ⟨leaf, w₁, resolved⟩ : ∃ leaf w₁, p.resolver.resolve (.node { identity := .named "Echo" })
      l.record w = (.ok leaf, w₁) :=
    Resolver.resolve_callable rfl rfl rfl rfl (fun _ => rfl) w
  have inside : Chain.Compiles p.resolver l.record .inbound .all 0 []
      [.node { identity := .named "Echo" }] w [.leaf leaf] (1 + 0) w₁ :=
    .node Take.noConfusion resolved (.atEnd 1 _ _)
  have walk : Chain.Compiles p.resolver l.record .inbound .all 0 [] d.declarations w
      [.fresh "Groups" [.leaf leaf] .pipe] (1 + 1 + 0) w₁ :=
    .active Take.noConfusion (by decide) rfl inside rfl (.atEnd 1 _ _)
  have compiled := Chain.compileAll_eq_ok.mpr ⟨[_], _, w₁, walk, rfl, rfl⟩
  obtain ⟨made, u, first⟩ : ∃ made u, p.pipeline l.record d .inbound w = (.ok made, u) :=
    ⟨_, _, pipeline_compiled rfl compiled⟩
  have asked : p.CallsLookUp w [.clear, .clearKey "x", .pipeline l, .pipeline l'] l' u := by
    refine ⟨[.clear, .clearKey "x", .pipeline l], .pipeline l', [], rfl, ?_⟩
    have before : [.clear, .clearKey "x", .pipeline l].foldl p.afterCall w = u :=
      congrArg Prod.snd first
    rw [before]
    exact .pipeline l'
  have only {a : Lookup Scripted.Form Scripted.Desk} {v : Workspace Scripted.Form Scripted.Desk}
      (h : p.CallsLookUp w [.clear, .clearKey "x", .pipeline l, .pipeline l'] a v) :
      a = l ∨ a = l' := by
    simp only [callsLookUp_cons_iff] at h
    rcases h with h | h | h | h | ⟨before, one, after, e, -⟩
    · cases h
    · cases h
    · cases h
      exact .inl rfl
    · cases h
      exact .inr rfl
    · cases before <;> cases e
  have hit := pipeline_keeps first
  change u.cache.pipeline? l.key = some made at hit
  rw [same.key] at hit
  have memoized := pipeline_memoized (p := p) (fun a b resolve given name request s s' => by
      cases given
      rfl) rfl
    (fun a v b v' ha hb _ method => by
      rcases only ha with rfl | rfl <;> rcases only hb with rfl | rfl <;> rfl)
    (fun a v b v' ha hb _ => by
      rcases only ha with rfl | rfl <;> rcases only hb with rfl | rfl
      · exact .refl l
      · exact same
      · exact same.symm
      · exact .refl l') asked hit
  obtain ⟨found, again, u', ran, cache, -, run⟩ := memoized
  exact ⟨made, u, again, u', first, asked, found l' (.refl l'), ran, cache, run⟩

end Processor

end FieldPipeline
