import FieldPipeline.Proofs.Sharing

namespace FieldPipeline

open Outcome

variable {ρ σ : Type}

/-- The instance that was booted, if that went well. -/
def Visit.booted (visit : Visit ρ σ) : Option InstanceId :=
  match visit.boot, visit.reached with
  | some (.ok ()), some (_, i) => some i.id
  | _, _ => none

theorem Visit.booted_eq_some {visit : Visit ρ σ} {id : InstanceId} (h : visit.booted = some id) :
    visit.boot = some (.ok ()) ∧ ∃ key i, visit.reached = some (key, i) ∧ i.id = id := by
  unfold booted at h
  split at h
  · next key i boot reached =>
    cases h
    exact ⟨boot, key, i, reached, rfl⟩
  · cases h

namespace Resolver

variable {r : Resolver ρ σ} {owner : ρ} {w w' start : Workspace ρ σ} {i : Instance ρ σ}
  {outcome : Option (Except Fault Unit)} {visit : Visit ρ σ} {past : List (Visit ρ σ)}

/-- An instance is left alone if and only if it has its mark. -/
theorem Boots.none_iff (h : Boots i owner w outcome w') :
    outcome = none ↔ w.cache.isBooted i.id = true := by
  cases h with
  | before booted => exact iff_of_true rfl booted
  | succeeded new | failed new => simp [new]

theorem Boots.marked (h : Boots i owner w outcome w') (fine : outcome.getD (.ok ()) = .ok ()) :
    w'.cache.isBooted i.id = true := by
  cases h with
  | before booted => exact booted
  | succeeded new ran => exact w.cache.isBooted_noteBooted i.id
  | failed new ran => cases fine

variable [Record ρ σ]

omit [Record ρ σ] in
theorem Steps.booted {key argsKey : String} {s : Compiled ρ σ} (h : Steps key argsKey w s w') :
    w'.cache.booted = w.cache.booted := by
  cases h <;> rfl

theorem Offers.booted {request : Request ρ σ} {key : String}
    {constructed : Option (String × String)} (h : Offers r owner request w key i constructed w') :
    (w'.store key i).2.cache.booted = w.cache.booted := by
  cases h <;> rfl

/-- The instance that a resolution comes to is booted in its course, before anything is yielded. -/
theorem Course.boots {key : String} (h : Course r w visit w')
    (reached : visit.reached = some (key, i)) :
    ∃ u u', u.cache.booted = w.cache.booted ∧ Boots i visit.owner u visit.boot u' ∧
      w'.cache.booted = u'.cache.booted := by
  cases h with
  | backed className offers boots fine steps =>
    cases reached
    exact ⟨_, _, offers.booted, boots, steps.booted⟩
  | unbooted offers boots =>
    cases reached
    exact ⟨_, _, offers.booted, boots, rfl⟩
  | bare => cases reached
  | failed => cases reached

/-- A boot that goes well, and nothing else, is noted. -/
theorem Course.booted (h : Course r w visit w') :
    w'.cache.booted = visit.booted.toList ++ w.cache.booted := by
  cases reached : visit.reached with
  | none =>
    cases h with
    | backed | unbooted => cases reached
    | bare nothing unknown steps => exact steps.booted
    | failed => rfl
  | some place =>
    obtain ⟨key, i⟩ := place
    obtain ⟨u, u', before, boots, after⟩ := h.boots reached
    rw [after, ← before, Visit.booted, reached]
    generalize visit.boot = outcome at boots
    cases boots <;> rfl

theorem Course.booted_new {id : InstanceId} (h : Course r w visit w')
    (booted : visit.booted = some id) : id ∉ w.cache.booted := by
  obtain ⟨boot, key, i, reached, rfl⟩ := visit.booted_eq_some booted
  obtain ⟨u, u', before, boots, -⟩ := h.boots reached
  rw [boot] at boots
  have unmarked := mt boots.none_iff.mpr nofun
  rw [Cache.isBooted, before] at unmarked
  exact fun marked => unmarked (decide_eq_true marked)

/-- The marks are the boots of a run that went well, the last one first. -/
theorem Runs.booted (h : Runs r start past w) :
    w.cache.booted = (past.filterMap Visit.booted).reverse ++ start.cache.booted := by
  induction h with
  | none => rfl
  | @call past visit w w' before ran course ih =>
    have one : visit.booted.toList.reverse = visit.booted.toList := by cases visit.booted <;> rfl
    rw [course.booted, ih, filterMap_append_singleton, List.reverse_append, one,
      List.append_assoc]
  | other before state ih => exact ih

theorem Runs.booted_nodup (h : Runs r start past w) (once : start.cache.booted.Nodup) :
    w.cache.booted.Nodup := by
  induction h with
  | none => exact once
  | @call past visit w w' before ran course ih =>
    rw [course.booted]
    cases booted : visit.booted with
    | none => exact ih
    | some id => exact List.nodup_cons.mpr ⟨course.booted_new booted, ih⟩
  | other before state ih => exact ih

theorem Runs.isBooted_iff (h : Runs r start past w) (id : InstanceId) :
    w.cache.isBooted id = true ↔
      (∃ visit ∈ past, visit.booted = some id) ∨ start.cache.isBooted id = true := by
  rw [Cache.isBooted, Cache.isBooted, h.booted, decide_eq_true_iff, decide_eq_true_iff,
    List.mem_append, List.mem_reverse, List.mem_filterMap]

/-- What a resolution yields has its mark. -/
theorem Course.leaf_marked {l : Leaf ρ σ} (h : Course r w visit w') (result : visit.result = .ok l)
    (backing : l.backing = some i) : w'.cache.isBooted i.id = true := by
  cases h with
  | backed className offers boots fine steps =>
    cases result
    cases backing
    rw [Cache.isBooted, steps.booted]
    exact boots.marked fine
  | unbooted => cases result
  | bare =>
    cases result
    cases backing
  | failed => cases result

/-- An instance whose boot fails has no mark, and gets none. -/
theorem Course.unmarked {key : String} {fault : Fault} (h : Course r w visit w')
    (reached : visit.reached = some (key, i)) (failed : visit.boot = some (.error fault)) :
    w'.cache.isBooted i.id = false := by
  obtain ⟨u, u', -, boots, after⟩ := h.boots reached
  rw [failed] at boots
  cases boots with
  | failed new ran =>
    rw [Cache.isBooted, after]
    exact new

/-- A resolution comes to an entry, or would if it is for a ready-made node or a type. -/
def Approaches (r : Resolver ρ σ) (visit : Visit ρ σ) (key : String) : Prop :=
  (∃ i, visit.reached = some (key, i)) ∨
    ∃ request, visit.declaration = .node request ∧ HasInstanceKey r request key

theorem Course.approached {key : String} (h : Course r w visit w') (near : Approaches r visit key)
    (there : w.cache.instance? key = some i) :
    visit.reached = some (key, i) ∧ visit.constructed = none := by
  obtain ⟨j, reached⟩ : ∃ j, visit.reached = some (key, j) := by
    obtain reached | ⟨request, declared, keyed⟩ := near
    · exact reached
    · obtain ⟨j, reached, -⟩ := h.reached_key declared keyed (.inl ⟨i, there⟩)
      exact ⟨j, reached⟩
  obtain ⟨rfl, unconstructed⟩ := h.kept reached there
  exact ⟨reached, unconstructed⟩

/-- After a boot that failed, the entry has the same instance, and that is booted again if it has
not been booted in between. -/
theorem Course.after_failure {between : List (Visit ρ σ)} {failed next : Visit ρ σ}
    {u u' v v' : Workspace ρ σ} {key : String} {fault : Fault} (course : Course r u failed u')
    (run : Runs r u' between v) (course' : Course r v next v')
    (reached : failed.reached = some (key, i)) (boot : failed.boot = some (.error fault))
    (near : Approaches r next key) :
    next.reached = some (key, i) ∧ next.constructed = none ∧
      (next.boot = none ↔ ∃ visit ∈ between, visit.booted = some i.id) := by
  obtain ⟨reached', unconstructed⟩ :=
    course'.approached near (run.grows.instances (course.stored reached))
  obtain ⟨t, t', before, boots, -⟩ := course'.boots reached'
  refine ⟨reached', unconstructed, ?_⟩
  rw [boots.none_iff, Cache.isBooted, before, ← Cache.isBooted, run.isBooted_iff,
    course.unmarked reached boot]
  simp only [Bool.false_eq_true, or_false]

/-- A constructed instance is booted in no other entry. -/
theorem Runs.booted_reached {visit' : Visit ρ σ} {key : String} {n : Nat} (h : Runs r start past w)
    (held : start.Numbered) (mem : visit ∈ past) (reached : visit.reached = some (key, i))
    (made : i.id = .made n) (mem' : visit' ∈ past) (booted : visit'.booted = some i.id) :
    ∃ j, visit'.reached = some (key, j) := by
  obtain ⟨-, key', j, reached', same⟩ := visit'.booted_eq_some booted
  obtain ⟨u, u', course, grows⟩ := h.holds mem
  obtain ⟨v, v', course', grows'⟩ := h.holds mem'
  obtain rfl := (h.numbered held).instance_key (grows.instances (course.stored reached))
    (grows'.instances (course'.stored reached')) made (same.trans made)
  exact ⟨j, reached'⟩

/-- An instance is booted before anything is yielded for it, until that goes well once. After a boot
that failed, what comes to its entry next boots it again, unless an instance that the application
keeps was booted in another entry in between. -/
theorem resolve_boots (fresh : start.cache = {}) (run : Runs r start past w) :
    (∀ before visit after l i, past = before ++ visit :: after → visit.result = .ok l →
      l.backing = some i → ∃ earlier ∈ before ++ [visit], earlier.booted = some i.id) ∧
    (past.filterMap Visit.booted).Nodup ∧
    (∀ before failed between next after key i fault,
      past = before ++ failed :: (between ++ next :: after) →
      failed.reached = some (key, i) → failed.boot = some (.error fault) →
      Approaches r next key →
      next.reached = some (key, i) ∧ next.constructed = none ∧
        (next.boot = none ↔ ∃ visit ∈ between, visit.booted = some i.id) ∧
        ((∃ n, i.id = .made n) → (∀ visit ∈ between, ∀ j, visit.reached ≠ some (key, j)) →
          next.boot ≠ none)) ∧
    w.cache.listing.booted = (past.filterMap Visit.booted).dedup.length := by
  have marks := run.booted
  rw [fresh, List.append_nil] at marks
  have once : (past.filterMap Visit.booted).Nodup := by
    have nodup := run.booted_nodup (by rw [fresh]; exact List.nodup_nil)
    rwa [marks, List.nodup_reverse] at nodup
  refine ⟨?_, once, ?_, ?_⟩
  · intro before visit after l i split result backing
    subst split
    obtain ⟨u, u', first, ran, course, -⟩ := run.at_visit
    have marked := course.leaf_marked result backing
    rw [(Runs.call first ran course).isBooted_iff, fresh] at marked
    exact marked.resolve_right nofun
  · intro before failed between next after key i fault split reached boot near
    subst split
    obtain ⟨u, u', -, -, course, rest⟩ := run.at_visit
    obtain ⟨v, v', middle, -, course', -⟩ := rest.at_visit
    obtain ⟨reached', unconstructed, again⟩ :=
      course.after_failure middle course' reached boot near
    refine ⟨reached', unconstructed, again, ?_⟩
    rintro ⟨n, made⟩ elsewhere skipped
    obtain ⟨visit, mem, booted⟩ := again.mp skipped
    have first : failed ∈ before ++ failed :: (between ++ next :: after) := by simp
    have later : visit ∈ before ++ failed :: (between ++ next :: after) := by simp [mem]
    have numbered : start.Numbered := .of_empty (congrArg Cache.entries fresh)
    obtain ⟨j, reached''⟩ := run.booted_reached numbered first reached made later booted
    exact elsewhere visit mem j reached''
  · rw [once.dedup]
    exact (congrArg List.length marks).trans (List.length_reverse ..)

/-- A node that could not be booted for one record is booted for the next one. -/
theorem resolve_boots_retried :
    let fault : Fault := .configuration (.unregistered "Plain")
    let node : Transformer Scripted.Form Scripted.Desk :=
      { name := "Plain", apply := fun v _ _ => pure v
        boot := fun owner => if owner.bare then throw fault else pure () }
    let r : Resolver Scripted.Form Scripted.Desk :=
      { registry := some (Registry.add [] "Plain" fun _ => pure node) }
    let request : Request Scripted.Form Scripted.Desk := { identity := .named "Plain" }
    let start : Workspace Scripted.Form Scripted.Desk := { run := { app := {} } }
    ∃ failed next i l w, Runs r start [failed, next] w ∧
      failed.reached = some (typeKey "Plain" none, i) ∧ failed.boot = some (.error fault) ∧
      next.declaration = .node request ∧ next.reached = some (typeKey "Plain" none, i) ∧
      next.constructed = none ∧ next.result = .ok l ∧ next.booted = some i.id ∧
      w.cache.listing.booted = 1 := by
  intro fault node r request start
  let i : Instance Scripted.Form Scripted.Desk := ⟨.made 0, node⟩
  let made : Workspace Scripted.Form Scripted.Desk :=
    { start with cache := start.cache.countInstantiation, issued := 1 }
  let stored := (made.store (typeKey "Plain" none) i).2
  have offers : Offers r { bare := true } request start (typeKey "Plain" none) i
      (some ("Plain", constructorKey none)) made :=
    .constructed rfl rfl rfl rfl rfl rfl rfl
  have boots : Boots (made.store (typeKey "Plain" none) i).1 { bare := true } stored
      (some (.error fault)) stored :=
    .failed rfl rfl
  have ran : r.resolve (.node request) { bare := true } start = (.error fault, stored) := rfl
  obtain ⟨failed, course, reached, boot, declared, owner, result⟩ : ∃ visit,
      Course r start visit stored ∧ visit.reached = some (typeKey "Plain" none, i) ∧
      visit.boot = some (.error fault) ∧ visit.declaration = .node request ∧
      visit.owner = { bare := true } ∧ visit.result = .error fault :=
    ⟨_, .unbooted offers boots, rfl, rfl, rfl, rfl, rfl⟩
  obtain ⟨next, w, declared', owner', course', ran'⟩ :=
    r.exists_course (.node request) {} stored
  have run : Runs r start [failed, next] w := by
    refine .call (.call .none ?_ course) ?_ course'
    · rw [declared, owner, result, ran]
    · rw [declared', owner', ran']
  obtain ⟨l, ok⟩ : ∃ l, next.result = .ok l := ⟨_, (congrArg Prod.fst ran').symm.trans rfl⟩
  have keyed : HasInstanceKey r request (typeKey "Plain" none) := .type rfl ⟨_, rfl, rfl⟩
  obtain ⟨before, -, after, count⟩ := resolve_boots rfl run
  obtain ⟨reached', unconstructed, -, -⟩ :=
    after [] failed [] next [] _ i fault rfl reached boot (.inr ⟨request, declared', keyed⟩)
  obtain ⟨j, place, backing⟩ := course'.reached_key declared' keyed (.inr ⟨l, ok⟩)
  cases reached'.symm.trans place
  -- The first boot failed, so that it is the second one that went well.
  have unbooted : failed.booted = none := by rw [Visit.booted, boot]
  have booted : next.booted = some i.id := by
    obtain ⟨visit, mem, booted⟩ := before [failed] next [] l i rfl ok (backing l ok)
    simp only [List.cons_append, List.nil_append, List.mem_cons, List.not_mem_nil, or_false] at mem
    obtain rfl | rfl := mem
    · cases unbooted.symm.trans booted
    · exact booted
  refine ⟨failed, next, i, l, w, run, reached, boot, declared', reached', unconstructed, ok,
    booted, ?_⟩
  rw [count]
  simp [unbooted, booted]

end Resolver

end FieldPipeline
