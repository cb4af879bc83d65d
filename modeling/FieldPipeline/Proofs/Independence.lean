import FieldPipeline.Proofs.Aborting
import FieldPipeline.Proofs.Congruence
import FieldPipeline.Proofs.Tracing

namespace FieldPipeline

open Outcome

variable {ρ σ : Type}

/-- What a record may become while its fields are set and unfilled. -/
inductive Record.Becomes [Record ρ σ] (start : ρ) : ρ → Prop
  | start : Becomes start start
  | set {r : ρ} (field : String) (v : Value) (before : Becomes start r) :
      Becomes start (Record.set r field v)
  | unfill {r : ρ} (field : String) (before : Becomes start r) :
      Becomes start (Record.unfill r field)

/-- What a pipeline may ask of a record does not depend on its fields, and what becomes of a field
that is set or unfilled does not depend on the other fields. -/
structure Record.Separable [Record ρ σ] (record : ρ) (direction : Direction) : Prop where
  alike : ∀ a, Becomes record a → Chain.Alike direction record a
  set_own : ∀ {a b field} (v : Value), Becomes record a → Becomes record b → SameAt a b field →
    SameAt (Record.set a field v) (Record.set b field v) field
  unfill_own : ∀ {a b field}, Becomes record a → Becomes record b → SameAt a b field →
    SameAt (Record.unfill a field) (Record.unfill b field) field

/-- Setting or unfilling a field of a form changes nothing else than the fields. -/
theorem Scripted.Form.becomes {form a : Scripted.Form} (h : Record.Becomes form a) :
    a.typeName = form.typeName ∧ a.methods = form.methods ∧ a.bare = form.bare ∧
      a.groups = form.groups ∧ a.groupsOut = form.groupsOut := by
  induction h with
  | start => exact ⟨rfl, rfl, rfl, rfl, rfl⟩
  | @set r field v before ih =>
    change (r.set field v).typeName = _ ∧ (r.set field v).methods = _ ∧ (r.set field v).bare = _ ∧
      (r.set field v).groups = _ ∧ (r.set field v).groupsOut = _
    unfold Scripted.Form.set
    dsimp only
    split <;> exact ih
  | @unfill r field before ih =>
    change (r.unfill field).typeName = _ ∧ (r.unfill field).methods = _ ∧
      (r.unfill field).bare = _ ∧ (r.unfill field).groups = _ ∧ (r.unfill field).groupsOut = _
    unfold Scripted.Form.unfill
    split <;> exact ih

/-- The fields of a form do not touch each other. -/
theorem Scripted.Form.separable (form : Scripted.Form) (direction : Direction) :
    Record.Separable form direction where
  alike a h := by
    obtain ⟨typeName, methods, bare, groups, groupsOut⟩ := Scripted.Form.becomes h
    refine ⟨⟨typeName.symm, fun method => ?_⟩, fun name => ?_⟩
    · simp only [Record.arity?, Scripted.Form.method?, bare, methods]
    · simp only [Record.activeGroups, bare, groups, groupsOut]
  set_own {a b field} v _ _ _ := by
    constructor
    · change (a.set field v).get? field = (b.set field v).get? field
      simp
    · change (a.set field v).isFilled field = (b.set field v).isFilled field
      simp [Scripted.Form.isFilled_set]
  unfill_own {a b field} h h' same := by
    obtain ⟨-, -, bare, -⟩ := Scripted.Form.becomes h
    obtain ⟨-, -, bare', -⟩ := Scripted.Form.becomes h'
    have value : a.get? field = b.get? field := same.1
    constructor
    · change (a.unfill field).get? field = (b.unfill field).get? field
      simp [bare, bare', value]
    · change (a.unfill field).isFilled field = (b.unfill field).isFilled field
      simp [Scripted.Form.isFilled_unfill]

namespace Verdict

def done (field : String) : Verdict → List String
  | processed _ => [field]
  | _ => []

def failed : Verdict → List Rejection
  | collected r => [r]
  | _ => []

/-- A report gets what the verdict adds to it. -/
theorem enter_adds {verdict : Verdict} {field : String} {report report' : Report}
    (h : verdict.enter field report = .ok report') :
    report'.processed = report.processed ++ verdict.done field ∧
      report'.errors = report.errors ++ verdict.failed := by
  cases verdict with
  | ended fault => cases h
  | absent | processed v | collected r =>
    cases h
    simp [done, failed]

end Verdict

namespace Processor

variable [Record ρ σ]

/-- What the fields of a record are resolved with in a run from a cache. -/
def setting (p : Processor ρ σ) (record : ρ) (direction : Direction) (c : Cache ρ σ) :
    Setting ρ σ where
  resolver := p.resolver
  owner := record
  like := Record.Becomes record
  asked q := ∃ f ∈ p.metadata.fields (Record.typeName record) direction,
    ∃ d ∈ f.declarations, .node q ∈ d.requests
  cache := c

/-- All code behind the fields of a record depends on values, arguments and the context only, and so
do the pipelines that the cache has for them. -/
structure Impartial (p : Processor ρ σ) (record : ρ) (direction : Direction) (c : Cache ρ σ) :
    Prop where
  requests : (p.setting record direction c).Impartial
  handlers : ∀ f ∈ p.metadata.fields (Record.typeName record) direction, ∀ d ∈ f.declarations,
    ∀ h, d.handler? = some h → h.Impartial (Record.Becomes record)
  pipelines : ∀ f ∈ p.metadata.fields (Record.typeName record) direction, ∀ made,
    c.pipeline? (pipelineKey record f.field direction) = some made →
      made.run.Same (Record.Becomes record) made.run

/-- A pipeline that a field may have in a run from a cache. -/
def MayCompileTo (p : Processor ρ σ) (record : ρ) (direction : Direction) (c : Cache ρ σ)
    (f : FieldDeclarations ρ σ) (made : Compiled ρ σ) : Prop :=
  c.pipeline? (pipelineKey record f.field direction) = some made ∨
    c.pipeline? (pipelineKey record f.field direction) = none ∧
      ∃ owner w w', Record.Becomes record owner ∧
        (p.setting record direction c).GrownByResolution w.cache ∧
        Chain.compileAll p.resolver f.declarations owner direction w = (.ok made, w')

/-- A workspace that a run may come to from another one. -/
structure MayReach (p : Processor ρ σ) (record : ρ) (direction : Direction)
    (start w : Workspace ρ σ) : Prop where
  grown : (p.setting record direction start.cache).GrownByResolution w.cache
  trace : w.run.trace = start.run.trace
  kept : ∀ {key made}, start.cache.pipeline? key = some made → w.cache.pipeline? key = some made
  pipes : ∀ f ∈ p.metadata.fields (Record.typeName record) direction, ∀ made,
    w.cache.pipeline? (pipelineKey record f.field direction) = some made →
      p.MayCompileTo record direction start.cache f made

/-- A field comes to a verdict, in a run that goes on from there. -/
def HasVerdict (p : Processor ρ σ) (record : ρ) (direction : Direction) (start : Workspace ρ σ)
    (f : FieldDeclarations ρ σ) (verdict : Verdict) (left : ρ) : Prop :=
  ∃ current w w', Record.Becomes record current ∧ p.MayReach record direction start w ∧
    Record.SameAt current record f.field ∧
    p.Handles (Record.context record) direction f current w verdict left w' ∧
    ∀ fault, verdict ≠ .ended fault

/-- What a field that was supplied comes to with the result of its pipeline, unless the run ends. -/
def settle (mode : ErrorMode) (record : ρ) (field : String) :
    Except Fault Value → Option (Verdict × ρ)
  | .ok v => some (.processed v, Record.set record field v)
  | .error (.rejected r) =>
    (afterRejection mode record field).map (.collected { r with property := some field }, ·)
  | .error _ => none

variable {p : Processor ρ σ} {record current left left' : ρ} {direction : Direction}
  {start w w' : Workspace ρ σ} {f : FieldDeclarations ρ σ} {verdict verdict' : Verdict}
  {made made' : Compiled ρ σ}

theorem pipelineKey_alike {a b : ρ} (alike : Chain.Alike direction a b) (field : String) :
    pipelineKey a field direction = pipelineKey b field direction := by
  rw [pipelineKey, pipelineKey, alike.typeName]
  exact keyOf_congr _ _ _ alike.groups

/-- The pipelines of one record tell its fields apart. -/
theorem pipelineKey_inj {field field' : String}
    (same : pipelineKey record field direction = pipelineKey record field' direction) :
    field = field' := by
  have texts := congrArg String.toList same
  rw [pipelineKey, pipelineKey, keyOf_toList, keyOf_toList] at texts
  have names := List.append_cancel_left (List.append_cancel_right texts)
  exact String.toList_inj.mp (List.cons.inj names).2

theorem Handles.settled {context : Value}
    (h : p.Handles context direction f current w verdict left w')
    (going : ∀ fault, verdict ≠ .ended fault)
    (filled : Record.isFilled current f.field = true) :
    ∃ made u result, p.pipeline current f direction w = (.ok made, u) ∧
      p.runField made current f.field context direction u = (result, w') ∧
      settle p.options.errorMode current f.field result = some (verdict, left) := by
  cases h with
  | absent empty => cases filled.symm.trans empty
  | unbuilt | refused | broken => exact absurd rfl (going _)
  | processed _ built ran => exact ⟨_, _, _, built, ran, rfl⟩
  | collected _ built ran mode => exact ⟨_, _, _, built, ran, by rw [settle, mode]; rfl⟩

theorem Handles.unfilled {context : Value}
    (h : p.Handles context direction f current w verdict left w')
    (empty : Record.isFilled current f.field = false) :
    verdict = .absent ∧ left = current ∧ w' = w := by
  cases h with
  | absent => exact ⟨rfl, rfl, rfl⟩
  | unbuilt filled | processed filled | collected filled | refused filled | broken filled =>
    cases filled.symm.trans empty

theorem settle_sameAt (separable : Record.Separable record direction) {mode : ErrorMode} {a b : ρ}
    {field : String} {result : Except Fault Value} (like : Record.Becomes record a)
    (like' : Record.Becomes record b) (same : Record.SameAt a b field)
    (h : settle mode a field result = some (verdict, left))
    (h' : settle mode b field result = some (verdict', left')) :
    verdict = verdict' ∧ Record.SameAt left left' field := by
  have null := separable.set_own .null like like' same
  cases result with
  | ok v =>
    cases h
    cases h'
    exact ⟨rfl, separable.set_own v like like' same⟩
  | error fault =>
    cases fault with
    | rejected r =>
      cases mode with
      | failFast => cases h
      | collectFailToInput =>
        cases h
        cases h'
        exact ⟨rfl, same⟩
      | collectFailToNull =>
        cases h
        cases h'
        exact ⟨rfl, null⟩
      | collectNone =>
        cases h
        cases h'
        exact ⟨rfl, separable.unfill_own (.set _ _ like) (.set _ _ like') null⟩
    | _ => cases h

theorem becomes_closed (a : ρ) (field : String) (v : Value) (h : Record.Becomes record a) :
    Record.Becomes record (Record.set a field v) ∧ Record.Becomes record (Record.unfill a field) :=
  ⟨.set field v h, .unfill field h⟩

section Run

variable (separable : Record.Separable record direction)
  (impartial : p.Impartial record direction start.cache)
  (declared : f ∈ p.metadata.fields (Record.typeName record) direction)

theorem covers {c : Cache ρ σ} (impartial : p.Impartial record direction c)
    (declared : f ∈ p.metadata.fields (Record.typeName record) direction) :
    (p.setting record direction c).Covers f.declarations :=
  ⟨fun d hd _ asks => ⟨f, declared, d, hd, asks⟩, impartial.handlers f declared⟩

include separable impartial declared in
theorem MayCompileTo.same (unmixed : (p.setting record direction start.cache).Unmixed)
    (h : p.MayCompileTo record direction start.cache f made)
    (h' : p.MayCompileTo record direction start.cache f made') :
    made.run.Same (Record.Becomes record) made'.run := by
  obtain there | ⟨absent, owner, u, u', like, grown, compiled⟩ := h
  · obtain there' | ⟨absent, -⟩ := h'
    · cases there.symm.trans there'
      exact impartial.pipelines f declared made there
    · cases there.symm.trans absent
  · obtain there' | ⟨-, owner', v, v', like', grown', compiled'⟩ := h'
    · cases absent.symm.trans there'
    · exact Setting.compileAll_same impartial.requests separable.alike unmixed like like' grown
        grown' (covers impartial declared) compiled compiled'

include separable impartial declared in
theorem MayReach.pipeline (reach : p.MayReach record direction start w)
    (distinct : ((p.metadata.fields (Record.typeName record) direction).map (·.field)).Nodup)
    (like : Record.Becomes record current)
    (built : p.pipeline current f direction w = (.ok made, w')) :
    p.MayReach record direction start w' ∧ p.MayCompileTo record direction start.cache f made := by
  have key := pipelineKey_alike (separable.alike current like) f.field
  cases there : w.cache.pipeline? (pipelineKey record f.field direction) with
  | some kept =>
    rw [key] at there
    cases built.symm.trans (pipeline_of_some there)
    rw [← key] at there
    exact ⟨reach, reach.pipes f declared _ there⟩
  | none =>
    have new : start.cache.pipeline? (pipelineKey record f.field direction) = none := by
      rw [Option.eq_none_iff_forall_ne_some]
      intro kept first
      cases there.symm.trans (reach.kept first)
    rw [key] at there
    rw [pipeline_of_none there] at built
    rcases compiled : Chain.compileAll p.resolver f.declarations current direction w with
      ⟨fault | own, u⟩
    · rw [compiled] at built
      cases built
    rw [compiled] at built
    cases built
    rw [← key] at there ⊢
    have pipelines (key : String) : u.cache.pipeline? key = w.cache.pipeline? key := by
      rw [Cache.pipeline?, ((Chain.lossless_compileAll ..).after compiled).pipelines,
        ← Cache.pipeline?]
    obtain ⟨children, used, u', walk, rfl, rfl⟩ := Chain.compileAll_eq_ok.mp compiled
    obtain ⟨grown, trace⟩ := reach.grown.compiles impartial.requests separable.alike like
      (covers impartial declared) walk
    have pipes : p.MayCompileTo record direction start.cache f _ :=
      .inr ⟨new, current, w, _, like, reach.grown, compiled⟩
    refine ⟨⟨grown.moved (Cache.grows_keepPipeline ..) (fun _ => rfl) fun _ _ => rfl,
      trace.trans reach.trace, ?_, ?_⟩, pipes⟩
    · intro k kept first
      rw [Cache.pipeline?_keepPipeline]
      split
      · next own =>
        subst own
        cases new.symm.trans first
      · rw [pipelines]
        exact reach.kept first
    · intro g declared' kept found
      obtain before | ⟨-, own, rfl⟩ := Cache.keepPipeline_cases found
      · rw [pipelines] at before
        exact reach.pipes g declared' kept before
      · obtain rfl : g = f :=
          List.inj_on_of_nodup_map distinct declared' declared (pipelineKey_inj own)
        exact pipes

variable (distinct : ((p.metadata.fields (Record.typeName record) direction).map (·.field)).Nodup)
  (unmixed : (p.setting record direction start.cache).Unmixed)

include separable impartial declared distinct unmixed

/-- A run that goes on after a field has not left its track. -/
theorem Handles.reach {context : Value}
    (h : p.Handles context direction f current w verdict left w')
    (going : ∀ fault, verdict ≠ .ended fault) (like : Record.Becomes record current)
    (reach : p.MayReach record direction start w) : p.MayReach record direction start w' := by
  cases filled : Record.isFilled current f.field with
  | false =>
    obtain ⟨-, -, rfl⟩ := h.unfilled filled
    exact reach
  | true =>
    obtain ⟨made, u, result, built, ran, -⟩ := h.settled going filled
    obtain ⟨reach', pipes⟩ := reach.pipeline separable impartial declared distinct like built
    have own := pipes.same separable impartial declared unmixed pipes
    have scope : Scope.Like (Record.Becomes record)
        { record := current, context, direction, tracePaths := p.options.tracePaths }
        { record := current, context, direction, tracePaths := p.options.tracePaths } :=
      ⟨like, like, rfl, rfl, rfl⟩
    obtain ⟨-, balanced, -⟩ :=
      own ((Record.get? current f.field).getD .null) _ _ scope u.run u.run rfl
    cases ran
    exact ⟨reach'.grown, balanced.trans reach'.trace, reach'.kept, reach'.pipes⟩

/-- What a field comes to does not depend on the run. -/
theorem HasVerdict.unique (h : p.HasVerdict record direction start f verdict left)
    (h' : p.HasVerdict record direction start f verdict' left') :
    verdict = verdict' ∧ Record.SameAt left left' f.field := by
  obtain ⟨a, w, w', like, reach, same, handles, going⟩ := h
  obtain ⟨b, v, v', like', reach', same', handles', going'⟩ := h'
  have alike : Record.SameAt a b f.field := same.trans same'.symm
  cases filled : Record.isFilled a f.field with
  | false =>
    obtain ⟨rfl, rfl, -⟩ := handles.unfilled filled
    obtain ⟨rfl, rfl, -⟩ := handles'.unfilled (alike.2.symm.trans filled)
    exact ⟨rfl, alike⟩
  | true =>
    obtain ⟨made, u, result, built, ran, settled⟩ := handles.settled going filled
    obtain ⟨made', u', result', built', ran', settled'⟩ :=
      handles'.settled going' (alike.2.symm.trans filled)
    obtain ⟨onward, pipes⟩ := reach.pipeline separable impartial declared distinct like built
    obtain ⟨onward', pipes'⟩ := reach'.pipeline separable impartial declared distinct like' built'
    have does := pipes.same separable impartial declared unmixed pipes'
    have scope : Scope.Like (Record.Becomes record)
        { record := a, context := Record.context record, direction,
          tracePaths := p.options.tracePaths }
        { record := b, context := Record.context record, direction,
          tracePaths := p.options.tracePaths } :=
      ⟨like, like', rfl, rfl, rfl⟩
    obtain ⟨results, -, -⟩ := does ((Record.get? a f.field).getD .null) _ _ scope u.run u'.run
      (onward.trace.trans onward'.trace.symm)
    rw [runField, alike.1] at ran
    rw [runField] at ran'
    have first := congrArg Prod.fst ran
    have second := congrArg Prod.fst ran'
    rw [alike.1] at results
    obtain rfl : result = result' := first.symm.trans (results.trans second)
    exact settle_sameAt separable like like' alike settled settled'

omit declared

/-- A run that does not end early comes to the verdict of each field, in the order of the fields,
and leaves each as its verdict says. -/
theorem processFields_hasVerdict [LocalRecord ρ] {verdicts : FieldDeclarations ρ σ → Verdict}
    (settled : ∀ f ∈ p.metadata.fields (Record.typeName record) direction, ∀ verdict left,
      p.HasVerdict record direction start f verdict left → verdict = verdicts f)
    {fields : List (FieldDeclarations ρ σ)}
    (declared : ∀ f ∈ fields, f ∈ p.metadata.fields (Record.typeName record) direction)
    (names : (fields.map (·.field)).Nodup) {report report' : Report} {final : ρ}
    (like : Record.Becomes record current) (reach : p.MayReach record direction start w)
    (same : ∀ f ∈ fields, Record.SameAt current record f.field)
    (ran : p.processFields (Record.context record) direction fields current report w =
      ((.ok report', final), w')) :
    report'.processed = report.processed ++ fields.flatMap (fun f => (verdicts f).done f.field) ∧
      report'.errors = report.errors ++ fields.flatMap (fun f => (verdicts f).failed) ∧
      ∀ f ∈ fields, ∃ left, p.HasVerdict record direction start f (verdicts f) left ∧
        Record.SameAt final left f.field := by
  induction fields generalizing current report w with
  | nil =>
    cases ran
    simp
  | cons f rest ih =>
    obtain ⟨verdict, left, u, step⟩ :=
      p.exists_handles (Record.context record) direction f current w
    rw [step.processFields_cons] at ran
    cases entered : verdict.enter f.field report with
    | error fault =>
      rw [entered] at ran
      cases ran
    | ok next =>
      rw [entered] at ran
      dsimp only at ran
      obtain ⟨first, others⟩ := List.forall_mem_cons.mp declared
      obtain ⟨own, later⟩ := List.forall_mem_cons.mp same
      rw [List.map_cons, List.nodup_cons] at names
      have going : ∀ fault, verdict ≠ .ended fault := by
        rintro fault rfl
        cases entered
      have comes : p.HasVerdict record direction start f verdict left :=
        ⟨current, w, u, like, reach, own, step, going⟩
      obtain rfl := settled f first verdict left comes
      have untouched : ∀ g ∈ rest, Record.SameAt left record g.field := by
        intro g hg
        refine (step.sameAt ?_).trans (later g hg)
        intro again
        exact names.1 (again ▸ List.mem_map_of_mem hg)
      obtain ⟨done, failed, each⟩ := ih others names.2 (step.closed becomes_closed like)
        (step.reach separable impartial first distinct unmixed going like reach) untouched ran
      obtain ⟨done', failed'⟩ := Verdict.enter_adds entered
      refine ⟨by rw [done, done', List.append_assoc]; rfl,
        by rw [failed, failed', List.append_assoc]; rfl, ?_⟩
      refine List.forall_mem_cons.mpr ⟨⟨left, comes, ?_⟩, each⟩
      have kept := p.processFields_sameAt (Record.context record) direction rest left next u names.1
      rw [ran] at kept
      exact kept

end Run

/-- Fields can be processed in any order. Two runs over the same fields from one record and one
cache, neither of which ends early, leave the same fields in the record, and report the same, if not
in the same order. -/
theorem process_perm [LocalRecord ρ] {order : Metadata ρ σ} {final final' : ρ}
    {report report' : Report} {v v' : Workspace ρ σ}
    (distinct : ((p.metadata.fields (Record.typeName record) direction).map (·.field)).Nodup)
    (separable : Record.Separable record direction)
    (impartial : p.Impartial record direction w.cache)
    (unmixed : (p.setting record direction w.cache).Unmixed)
    (perm : (order.fields (Record.typeName record) direction).Perm
      (p.metadata.fields (Record.typeName record) direction))
    (cache : v.cache = w.cache) (trace : v.run.trace = w.run.trace)
    (ran : p.process record direction w = ((.ok report, final), w'))
    (ran' : ({ p with metadata := order } : Processor ρ σ).process record direction v =
      ((.ok report', final'), v')) :
    (∀ name, Record.SameAt final final' name) ∧ report.processed.Perm report'.processed ∧
      report.errors.Perm report'.errors := by
  have verdict (f : FieldDeclarations ρ σ) : ∃ verdict, ∀ other left,
      f ∈ p.metadata.fields (Record.typeName record) direction →
      p.HasVerdict record direction w f other left → other = verdict := by
    by_cases comes : ∃ verdict left, p.HasVerdict record direction w f verdict left
    · obtain ⟨verdict, left, comes⟩ := comes
      exact ⟨verdict, fun other left declared comes' =>
        (comes'.unique separable impartial declared distinct unmixed comes).1⟩
    · exact ⟨.absent, fun other left _ comes' => absurd ⟨other, left, comes'⟩ comes⟩
  choose verdicts settled using verdict
  have settled : ∀ f ∈ p.metadata.fields (Record.typeName record) direction, ∀ verdict left,
      p.HasVerdict record direction w f verdict left → verdict = verdicts f :=
    fun f declared verdict left => settled f verdict left declared
  have reach {u : Workspace ρ σ} (cache : u.cache = w.cache)
      (trace : u.run.trace = w.run.trace) : p.MayReach record direction w u := by
    refine ⟨?_, trace, ?_, ?_⟩ <;> rw [cache]
    · exact (p.setting record direction w.cache).grownByResolution_refl
    · exact id
    · exact fun f _ made there => .inl there
  have same (fields : List (FieldDeclarations ρ σ)) :
      ∀ f ∈ fields, Record.SameAt record record f.field :=
    fun _ _ => ⟨rfl, rfl⟩
  rw [process] at ran
  rw [process, processFields_metadata] at ran'
  have names := (perm.map (·.field)).nodup_iff.mpr distinct
  obtain ⟨done, failed, each⟩ := processFields_hasVerdict separable impartial distinct unmixed
    settled (fun _ => id) distinct .start (reach rfl rfl) (same _) ran
  obtain ⟨done', failed', each'⟩ := processFields_hasVerdict separable impartial distinct unmixed
    settled (fun _ => perm.mem_iff.mp) names .start (reach cache trace) (same _) ran'
  refine ⟨fun name => ?_, ?_, ?_⟩
  · by_cases there : name ∈ (p.metadata.fields (Record.typeName record) direction).map (·.field)
    · obtain ⟨f, declared, rfl⟩ := List.mem_map.mp there
      obtain ⟨left, comes, own⟩ := each f declared
      obtain ⟨left', comes', own'⟩ := each' f (perm.mem_iff.mpr declared)
      have one := (comes.unique separable impartial declared distinct unmixed comes').2
      exact own.trans (one.trans own'.symm)
    · have kept := p.processFields_sameAt (Record.context record) direction _ record {} w there
      have kept' := p.processFields_sameAt (Record.context record) direction _ record {} v
        (mt (perm.map (·.field)).mem_iff.mp there)
      rw [ran] at kept
      rw [ran'] at kept'
      exact kept.trans kept'.symm
  · rw [done, done']
    exact (perm.flatMap_right _).symm
  · rw [failed, failed']
    exact (perm.flatMap_right _).symm

/-- The pipeline of a field with one node. -/
theorem pipeline_leaf (p : Processor ρ σ) {owner : ρ} {direction : Direction} {field : String}
    {node : Request ρ σ} {l : Leaf ρ σ} {w w₁ : Workspace ρ σ}
    (new : w.cache.pipeline? (pipelineKey owner field direction) = none)
    (resolved : p.resolver.resolve (.node node) owner w = (.ok l, w₁)) :
    let made : Compiled ρ σ := ⟨w₁.issued, (Node.fresh "Chain" [.leaf l] .pipe).compile⟩
    p.pipeline owner ⟨field, [.node node]⟩ direction w = (.ok made, { w₁ with
      cache := (w₁.cache.keepPipeline (pipelineKey owner field direction) made).2
      issued := w₁.issued + 1 }) :=
  pipeline_compiled (f := ⟨field, _⟩) new (Chain.compileAll_eq_ok.mpr
    ⟨[.leaf l], _, w₁, .node Take.noConfusion resolved (.atEnd 1 _ w₁), rfl, rfl⟩)

end Processor

namespace Scripted

/-- A node that gives back what it gets. -/
def copy : Transformer Form Desk :=
  { name := "Copy", apply := fun v _ _ => pure v }

def copyRequest : Request Form Desk :=
  { identity := .named "Copy" }

def copyLeaf : Leaf Form Desk :=
  { step := ⟨1, Callable.asNode "Copy" (copy.code [])⟩
    backing := some ⟨.made 0, copy⟩
    className := "Copy" }

/-- The callable of a field with that node alone. -/
def copyItem (number : Nat) : Compiled Form Desk :=
  ⟨number, (Node.fresh "Chain" [.leaf copyLeaf] .pipe).compile⟩

def copyProcessor (fields : List (FieldDeclarations Form Desk)) : Processor Form Desk :=
  { resolver := { registry := some (Registry.add [] "Copy" fun _ => pure copy) }
    metadata := [(("Doc", .inbound), fields)]
    options := { errorMode := .collectNone } }

/-- Where the node is resolved already. -/
def copySpace (issued : Nat) (pipelines : Table String (Compiled Form Desk)) :
    Workspace Form Desk :=
  { cache :=
    { entries := [(Resolver.typeKey "Copy" none,
        { backing := some ⟨.made 0, copy⟩, steps := [(Arg.key [], copyLeaf.step)] })]
      pipelines, booted := [.made 0], instantiations := 1 }
    run := { app := {} }
    issued }

open Processor

variable {fields : List (FieldDeclarations Form Desk)} {form current : Form}
  {field other : String} {n : Nat} {pipelines : Table String (Compiled Form Desk)}
  {w : Workspace Form Desk}

theorem resolve_copy_first :
    (copyProcessor fields).resolver.resolve (.node copyRequest) form { run := { app := {} } } =
      (.ok copyLeaf, copySpace 2 []) :=
  rfl

theorem resolve_copy :
    (copyProcessor fields).resolver.resolve (.node copyRequest) form (copySpace n pipelines) =
      (.ok copyLeaf, copySpace n pipelines) :=
  rfl

/-- The pipeline of another field is not that of a field. -/
theorem copySpace_absent {made : Compiled Form Desk} (differ : field ≠ other)
    (before : (copySpace n pipelines).cache.pipeline? (pipelineKey form field .inbound) = none) :
    (copySpace (n + 1)
      (Table.putNew (pipelineKey form other .inbound) made pipelines)).cache.pipeline?
        (pipelineKey form field .inbound) = none := by
  rw [← before]
  exact (Table.get?_putNew ..).trans (if_neg fun same => differ (pipelineKey_inj same))

def Copies (d : Declaration Form Desk) : Prop :=
  d = .node copyRequest ∨ d = .group (.each (some 0))

section Copies

variable (doc : form.typeName = "Doc")
  (copies : ∀ f ∈ fields, ∀ d ∈ f.declarations, Copies d)

include doc copies

theorem copies_declared {f : FieldDeclarations Form Desk} {d : Declaration Form Desk}
    (hf : f ∈ (copyProcessor fields).metadata.fields (Record.typeName form) .inbound)
    (hd : d ∈ f.declarations) : Copies d := by
  change f ∈ Metadata.fields _ form.typeName .inbound at hf
  rw [doc] at hf
  exact copies f hf d hd

theorem asked_copy {c : Cache Form Desk} {r : Request Form Desk}
    (h : ((copyProcessor fields).setting form .inbound c).asked r) : r = copyRequest := by
  obtain ⟨f, hf, d, hd, asks⟩ := h
  obtain rfl | rfl := copies_declared doc copies hf hd
  · exact Declaration.node.inj (List.mem_singleton.mp asks)
  · cases asks

theorem impartial_copy : (copyProcessor fields).Impartial form .inbound {} := by
  refine ⟨.of_registered rfl rfl ?_ ?_, ?_, ?_⟩
  · intro r hr
    cases asked_copy doc copies hr
    exact ⟨"Copy", rfl, rfl⟩
  · intro r name registry hr identity registered
    cases asked_copy doc copies hr
    cases identity
    cases registered
    exact ⟨copy, fun _ => .identity, ⟨fun _ _ _ => rfl, fun _ _ => rfl⟩, fun _ => rfl⟩
  · intro f hf d hd h handler
    obtain rfl | rfl := copies_declared doc copies hf hd <;> cases handler
  · intro f _ made there
    cases there

theorem unmixed_copy {c : Cache Form Desk} :
    ((copyProcessor fields).setting form .inbound c).Unmixed := by
  refine ⟨⟨fun _ => copy, fun r hr => ?_⟩, fun hr hr' _ _ => ?_, fun hr hr' _ _ _ => ?_⟩
  · cases asked_copy doc copies hr
    refine ⟨?_, ?_⟩
    · intro args given
      cases given
    · intro label t identity
      cases identity
  · rw [asked_copy doc copies hr, asked_copy doc copies hr']
  · rw [asked_copy doc copies hr, asked_copy doc copies hr']

end Copies

variable (like : Record.Becomes form current)
  (new : w.cache.pipeline? (pipelineKey form field .inbound) = none)
  (filled : Record.isFilled current field = true)

include like new filled

theorem handles_copy {v : Value}
    (resolved : (copyProcessor fields).resolver.resolve (.node copyRequest) current w =
      (.ok copyLeaf, copySpace n pipelines)) (value : Record.get? current field = some v) :
    (copyProcessor fields).Handles .null .inbound ⟨field, [.node copyRequest]⟩ current w
      (.processed v) (Record.set current field v)
      (copySpace (n + 1)
        (Table.putNew (pipelineKey form field .inbound) (copyItem n) pipelines)) := by
  rw [pipelineKey_alike ((form.separable .inbound).alike current like)] at new ⊢
  exact .processed filled ((copyProcessor fields).pipeline_leaf new resolved)
    (by rw [runField, value]; rfl)

/-- A field that has to be a list and is a text. -/
theorem handles_text {text : String} (there : w = copySpace n pipelines)
    (value : Record.get? current field = some (.string text)) :
    (copyProcessor fields).Handles .null .inbound ⟨field, [.group (.each (some 0))]⟩ current w
      (.collected { template := Rejection.notIterable, params := [("type", .string "string")]
                    origin := some "Each", property := some field })
      (Record.unfill (Record.set current field .null) field)
      (copySpace (n + 1)
        (Table.putNew (pipelineKey form field .inbound) (eachItem n) pipelines)) := by
  subst there
  rw [pipelineKey_alike ((form.separable .inbound).alike current like)] at new ⊢
  have ran (u : Workspace Form Desk) :
      (copyProcessor fields).runField (eachItem n) current field .null .inbound u =
        (.error (.rejected { template := Rejection.notIterable
                             params := [("type", .string "string")]
                             origin := some "Each" }), u) := by
    rw [runField, value]
    rfl
  exact .collected filled ((copyProcessor fields).pipeline_each new) (ran _) rfl

end Scripted

namespace Processor

open Scripted in
/-- Two fields that share a node, with one between them that is rejected, forwards and backwards. -/
theorem process_perm_copy :
    let tags : FieldDeclarations Form Desk := ⟨"tags", [.node copyRequest]⟩
    let age : FieldDeclarations Form Desk := ⟨"age", [.group (.each (some 0))]⟩
    let note : FieldDeclarations Form Desk := ⟨"note", [.node copyRequest]⟩
    let form : Form :=
      { fields := [("tags", .array []), ("age", .string "x"), ("note", .null)]
        filled := ["tags", "age", "note"] }
    let start : Workspace Form Desk := { run := { app := {} } }
    ∃ report final w report' final' w',
      (copyProcessor [tags, age, note]).process form .inbound start = ((.ok report, final), w) ∧
      (copyProcessor [note, age, tags]).process form .inbound start =
        ((.ok report', final'), w') ∧
      report.processed = ["tags", "note"] ∧ report'.processed = ["note", "tags"] ∧
      report.errors.map (·.property) = [some "age"] ∧
      (∀ name, Record.SameAt final final' name) ∧ report.processed.Perm report'.processed ∧
      report.errors.Perm report'.errors := by
  intro tags age note form start
  let p := copyProcessor [tags, age, note]
  let q := copyProcessor [note, age, tags]
  let failed : Rejection :=
    { template := Rejection.notIterable, params := [("type", .string "string")]
      origin := some "Each", property := some "age" }
  let early (field : String) : Table String (Compiled Form Desk) :=
    Table.putNew (pipelineKey form field .inbound) (copyItem 2) []
  let later (field : String) : Table String (Compiled Form Desk) :=
    Table.putNew (pipelineKey form "age" .inbound) (eachItem 3) (early field)
  have age_absent {field : String} (differ : "age" ≠ field) :
      (copySpace 3 (early field)).cache.pipeline? (pipelineKey form "age" .inbound) = none :=
    copySpace_absent (n := 2) differ rfl
  have absent {field field' : String} (differ : field ≠ field') (apart : field ≠ "age") :
      (copySpace 4 (later field')).cache.pipeline? (pipelineKey form field .inbound) = none :=
    copySpace_absent (n := 3) apart (copySpace_absent (n := 2) differ rfl)
  have tags₁ : p.Handles .null .inbound tags form start (.processed (.array [])) _
      (copySpace 3 (early "tags")) :=
    handles_copy .start rfl rfl resolve_copy_first rfl
  have age₁ : p.Handles .null .inbound age _ (copySpace 3 (early "tags")) (.collected failed) _
      (copySpace 4 (later "tags")) :=
    handles_text (.set "tags" (.array []) .start) (age_absent (by decide)) rfl rfl rfl
  have note₁ : p.Handles .null .inbound note _ (copySpace 4 (later "tags")) (.processed .null)
      _ _ :=
    handles_copy (.unfill "age" (.set "age" .null (.set "tags" (.array []) .start)))
      (absent (by decide) (by decide)) rfl resolve_copy rfl
  have ran : p.process form .inbound start = _ :=
    (tags₁.processFields_cons [age, note] {}).trans
      ((age₁.processFields_cons [note] { processed := ["tags"] }).trans
        (note₁.processFields_cons [] { processed := ["tags"], errors := [failed] }))
  have note₂ : q.Handles .null .inbound note form start (.processed .null) _
      (copySpace 3 (early "note")) :=
    handles_copy .start rfl rfl resolve_copy_first rfl
  have age₂ : q.Handles .null .inbound age _ (copySpace 3 (early "note")) (.collected failed) _
      (copySpace 4 (later "note")) :=
    handles_text (.set "note" .null .start) (age_absent (by decide)) rfl rfl rfl
  have tags₂ : q.Handles .null .inbound tags _ (copySpace 4 (later "note"))
      (.processed (.array [])) _ _ :=
    handles_copy (.unfill "age" (.set "age" .null (.set "note" .null .start)))
      (absent (by decide) (by decide)) rfl resolve_copy rfl
  have ran' : q.process form .inbound start = _ :=
    (note₂.processFields_cons [age, tags] {}).trans
      ((age₂.processFields_cons [tags] { processed := ["note"] }).trans
        (tags₂.processFields_cons [] { processed := ["note"], errors := [failed] }))
  have copies : ∀ f ∈ [tags, age, note], ∀ d ∈ f.declarations, Copies d := by
    simp [Copies, tags, age, note]
  have perm : (q.metadata.fields (Record.typeName form) .inbound).Perm
      (p.metadata.fields (Record.typeName form) .inbound) :=
    List.reverse_perm [tags, age, note]
  exact ⟨_, _, _, _, _, _, ran, ran', rfl, rfl, rfl, process_perm (p := p) (by decide)
    (form.separable .inbound) (impartial_copy rfl copies) (unmixed_copy rfl copies) perm rfl rfl
    ran ran'⟩

end Processor

end FieldPipeline
