import FieldPipeline.Proofs.Course
import FieldPipeline.Proofs.EntryKey
import FieldPipeline.Scripted.Form

namespace FieldPipeline

open Outcome

variable {ρ σ : Type}

/-- The numbers of constructed instances and of steps were issued before, each for one key. -/
structure Workspace.Numbered (w : Workspace ρ σ) : Prop where
  instances : ∀ {key i n}, w.cache.instance? key = some i → i.id = .made n → n < w.issued
  instance_key : ∀ {key key' i i' n}, w.cache.instance? key = some i →
    w.cache.instance? key' = some i' → i.id = .made n → i'.id = .made n → key = key'
  steps : ∀ {key argsKey s}, w.cache.step? key argsKey = some s → s.number < w.issued
  step_key : ∀ {key argsKey s key' argsKey' s'}, w.cache.step? key argsKey = some s →
    w.cache.step? key' argsKey' = some s' → s.number = s'.number → key = key' ∧ argsKey = argsKey'

namespace Workspace.Numbered

variable {w : Workspace ρ σ}

theorem of_empty (h : w.cache.entries = []) : w.Numbered := by
  have none_ (key : String) : w.cache.entry key = {} := by
    rw [Cache.entry, h]
    rfl
  refine ⟨?_, ?_, ?_, ?_⟩
  · intro key i n found
    rw [Cache.instance?, none_] at found
    cases found
  · intro key key' i i' n found
    rw [Cache.instance?, none_] at found
    cases found
  · intro key argsKey s found
    rw [Cache.step?, none_] at found
    cases found
  · intro key argsKey s key' argsKey' s' found
    rw [Cache.step?, none_] at found
    cases found

/-- More numbers may have been issued than there are in the cache. -/
theorem issue (h : w.Numbered) (c : Cache ρ σ) (entries : c.entries = w.cache.entries)
    (state : RunState σ) (n : Nat) :
    ({ cache := c, run := state, issued := w.issued + n } : Workspace ρ σ).Numbered := by
  have same (key : String) : c.entry key = w.cache.entry key := by
    rw [Cache.entry, entries]
    rfl
  have instances (key : String) : c.instance? key = w.cache.instance? key := by
    rw [Cache.instance?, same]
    rfl
  have steps (key argsKey : String) : c.step? key argsKey = w.cache.step? key argsKey := by
    rw [Cache.step?, same]
    rfl
  refine ⟨?_, ?_, ?_, ?_⟩ <;> simp only [instances, steps]
  · intro key i m found made
    exact (h.instances found made).trans_le (Nat.le_add_right ..)
  · exact h.instance_key
  · intro key argsKey s found
    exact (h.steps found).trans_le (Nat.le_add_right ..)
  · exact h.step_key

/-- A new instance may be stored if its number was issued and is not in use. -/
theorem store (h : w.Numbered) {key : String} {i : Instance ρ σ}
    (fresh : w.cache.instance? key = none → ∀ n, i.id = .made n → n < w.issued ∧
      ∀ k j, w.cache.instance? k = some j → j.id ≠ .made n) :
    (w.store key i).2.Numbered := by
  have steps (k argsKey : String) :
      (w.store key i).2.cache.step? k argsKey = w.cache.step? k argsKey :=
    w.cache.step?_keepInstance key k argsKey i
  refine ⟨?_, ?_, ?_, ?_⟩
  · intro k j n stored made
    obtain there | ⟨absent, -, rfl⟩ := Cache.keepInstance_cases stored
    · exact h.instances there made
    · exact (fresh absent n made).1
  · intro k k' j j' n stored stored' made made'
    obtain there | ⟨absent, own, rfl⟩ := Cache.keepInstance_cases stored <;>
      obtain there' | ⟨absent', own', rfl⟩ := Cache.keepInstance_cases stored'
    · exact h.instance_key there there' made made'
    · exact absurd made ((fresh absent' n made').2 _ _ there)
    · exact absurd made' ((fresh absent n made).2 _ _ there')
    · exact own.trans own'.symm
  · intro k argsKey s stored
    rw [steps] at stored
    exact h.steps stored
  · intro k argsKey s k' argsKey' s' stored stored'
    rw [steps] at stored stored'
    exact h.step_key stored stored'

variable {key key' : String}

/-- A constructed instance is under one key. -/
theorem instance_shared {i i' : Instance ρ σ} (h : w.Numbered)
    (there : w.cache.instance? key = some i) (there' : w.cache.instance? key' = some i')
    (made : ∃ n, i.id = .made n) : (i.id = i'.id ↔ key = key') ∧ (i.id = i'.id → i = i') := by
  obtain ⟨n, made⟩ := made
  have one (ids : i.id = i'.id) : key = key' :=
    h.instance_key there there' made (ids.symm.trans made)
  have same (keys : key = key') : i = i' := by
    subst keys
    exact Option.some.inj (there.symm.trans there')
  exact ⟨⟨one, fun keys => congrArg Instance.id (same keys)⟩, fun ids => same (one ids)⟩

/-- A step is under one key. -/
theorem step_shared {argsKey argsKey' : String} {s s' : Compiled ρ σ} (h : w.Numbered)
    (there : w.cache.step? key argsKey = some s) (there' : w.cache.step? key' argsKey' = some s') :
    (s.number = s'.number ↔ key = key' ∧ argsKey = argsKey') ∧
      (s.number = s'.number → s = s') := by
  have same (keys : key = key' ∧ argsKey = argsKey') : s = s' := by
    obtain ⟨rfl, rfl⟩ := keys
    exact Option.some.inj (there.symm.trans there')
  exact ⟨⟨h.step_key there there', fun keys => congrArg Compiled.number (same keys)⟩,
    fun numbers => same (h.step_key there there' numbers)⟩

end Workspace.Numbered

namespace Resolver

variable {r : Resolver ρ σ} {owner : ρ} {w w' : Workspace ρ σ}

theorem Boots.numbered {i : Instance ρ σ} {outcome : Option (Except Fault Unit)}
    (h : Boots i owner w outcome w') (held : w.Numbered) : w'.Numbered := by
  cases h with
  | before => exact held
  | succeeded => exact held.issue (w.cache.noteBooted i.id) rfl _ 0
  | failed => exact held.issue _ rfl _ 0

theorem Steps.numbered {key argsKey : String} {s : Compiled ρ σ} (h : Steps key argsKey w s w')
    (held : w.Numbered) : w'.Numbered := by
  cases h with
  | cached => exact held
  | compiled run new =>
    have instances (k : String) : (w.cache.keepStep key argsKey ⟨w.issued, run⟩).2.instance? k =
        w.cache.instance? k := w.cache.instance?_keepStep ..
    refine ⟨?_, ?_, ?_, ?_⟩
    · intro k j n stored made
      rw [instances] at stored
      exact (held.instances stored made).trans (Nat.lt_succ_self _)
    · intro k k' j j' n stored stored'
      rw [instances] at stored stored'
      exact held.instance_key stored stored'
    · intro k args s stored
      obtain there | ⟨-, -, rfl⟩ := Cache.keepStep_cases stored
      · exact (held.steps there).trans (Nat.lt_succ_self _)
      · exact Nat.lt_succ_self _
    · intro k args s k' args' s' stored stored' same
      obtain there | ⟨-, own, rfl⟩ := Cache.keepStep_cases stored <;>
        obtain there' | ⟨-, own', rfl⟩ := Cache.keepStep_cases stored'
      · exact held.step_key there there' same
      · exact absurd same (held.steps there).ne
      · exact absurd same (held.steps there').ne'
      · exact ⟨own.1.trans own'.1.symm, own.2.trans own'.2.symm⟩

variable [Record ρ σ]

theorem Offers.numbered {request : Request ρ σ} {key : String} {i : Instance ρ σ}
    {constructed : Option (String × String)} (h : Offers r owner request w key i constructed w')
    (held : w.Numbered) : (w'.store key i).2.Numbered := by
  -- The number of a new instance is the next one, which nothing in the cache has.
  have next (k : String) (j : Instance ρ σ) (stored : w.cache.instance? k = some j) :
      j.id ≠ .made w.issued :=
    fun made => (held.instances stored made).false
  cases h with
  | given identity => exact held.store nofun
  | cached identity type there => exact held.store fun new => nomatch there.symm.trans new
  | constructed identity registered known isNode new declared made =>
    refine Workspace.Numbered.store (held.issue w.cache.countInstantiation rfl _ 1) fun _ n id => ?_
    cases id
    exact ⟨Nat.lt_succ_self _, next⟩
  | answered identity unknown free last answer =>
    refine Workspace.Numbered.store (held.issue _ rfl _ 1) fun _ n id => ?_
    cases id
    exact ⟨Nat.lt_succ_self _, next⟩
  | kept identity unknown free last answer =>
    exact Workspace.Numbered.store (held.issue _ rfl _ 0) nofun

theorem Course.numbered {visit : Visit ρ σ} (h : Course r w visit w') (held : w.Numbered) :
    w'.Numbered := by
  cases h with
  | backed className offers boots fine steps =>
    exact steps.numbered (boots.numbered (offers.numbered held))
  | unbooted offers boots => exact boots.numbered (offers.numbered held)
  | bare nothing unknown steps => exact steps.numbered (held.issue _ rfl _ 0)
  | failed nothing => exact held.issue _ rfl _ 0

variable {start : Workspace ρ σ} {past : List (Visit ρ σ)} {visit : Visit ρ σ}

theorem Runs.numbered (h : Runs r start past w) (held : start.Numbered) : w.Numbered := by
  induction h with
  | none => exact held
  | call before ran course ih => exact course.numbered ih
  | other before state ih => exact ih.issue _ rfl _ 0

/-- Identities and labels stand for addresses, and every label for that of one node. -/
structure Known (nodes : String → Transformer ρ σ) (request : Request ρ σ) : Prop where
  args : Addressed request.constructorArgs
  label : ∀ label t, request.identity = .given label t → '@' ∉ label.toList ∧ t = nodes label

/-- In an entry for a type there is a constructed instance, and in one for a ready-made node there
is that node. -/
structure Fits (nodes : String → Transformer ρ σ) (key : String) (i : Instance ρ σ) : Prop where
  type : ∀ name args, key = typeKey name args → ∃ n, i.id = .made n
  ready : ∀ name label, '@' ∉ label.toList → key = instanceKey name (.given label) →
    i = ⟨.given label, nodes label⟩

theorem Offers.fits {nodes : String → Transformer ρ σ} {request : Request ρ σ} {key : String}
    {i : Instance ρ σ} {constructed : Option (String × String)}
    (h : Offers r owner request w key i constructed w') (known : Known nodes request) :
    w.cache.instance? key = some i ∨ Fits nodes key i := by
  cases h with
  | @given label t identity =>
    obtain ⟨plain, rfl⟩ := known.label _ _ identity
    refine .inr ⟨?_, ?_⟩
    · intro name args same
      exact (typeKey_ne_instanceKey _ _ _ _ same.symm).elim
    · intro name label' plain' same
      obtain rfl := instanceKey_inj plain plain' same
      rfl
  | cached identity type there => exact .inl there
  | constructed =>
    refine .inr ⟨fun _ _ _ => ⟨_, rfl⟩, ?_⟩
    intro name label plain same
    exact (typeKey_ne_instanceKey _ _ _ _ same).elim
  | answered =>
    refine .inr ⟨fun _ _ _ => ⟨_, rfl⟩, ?_⟩
    intro name label plain same
    exact (instanceKey_ne_fallbackKey _ _ _ _ same.symm).elim
  | kept =>
    refine .inr ⟨?_, ?_⟩
    · intro name args same
      exact (typeKey_ne_fallbackKey _ _ _ _ same.symm).elim
    · intro name label plain same
      exact (instanceKey_ne_fallbackKey _ _ _ _ same.symm).elim

/-- Whatever a run has put into an entry fits. -/
theorem Runs.fits {nodes : String → Transformer ρ σ} (h : Runs r start past w)
    (fresh : start.cache = {}) (known : ∀ visit ∈ past, ∀ request,
      visit.declaration = .node request → Known nodes request)
    {key : String} {i : Instance ρ σ} (found : w.cache.instance? key = some i) :
    Fits nodes key i := by
  induction h with
  | none =>
    rw [fresh] at found
    cases found
  | call before ran course ih =>
    rw [List.forall_mem_append, List.forall_mem_singleton] at known
    obtain ⟨earlier, last⟩ := known
    obtain there | ⟨request, constructed, w₁, declared, offers⟩ := course.instance?_cases found
    · exact ih earlier there
    · exact (offers.fits (last request declared)).elim (ih earlier) id
  | other before state ih => exact ih known found

/-- What a resolution came to is in its entry from then on. -/
theorem Runs.holds (h : Runs r start past w) (mem : visit ∈ past) :
    ∃ u u', Course r u visit u' ∧ u'.cache.Grows w.cache := by
  obtain ⟨before, after, rfl⟩ := List.append_of_mem mem
  obtain ⟨u, u', -, -, course, rest⟩ := h.at_visit
  exact ⟨u, u', course, rest.grows⟩

/-- A leaf for a ready-made node or a type has the instance of its entry and a step of it. -/
theorem Runs.yields {request : Request ρ σ} {key : String} {l : Leaf ρ σ}
    (h : Runs r start past w) (mem : visit ∈ past) (declared : visit.declaration = .node request)
    (keyed : HasInstanceKey r request key) (ok : visit.result = .ok l) :
    ∃ i, l.backing = some i ∧ w.cache.instance? key = some i ∧
      w.cache.step? key (Arg.key request.callArgs) = some l.step := by
  obtain ⟨u, u', course, grows⟩ := h.holds mem
  obtain ⟨i, reached, backing⟩ := course.reached_key declared keyed (.inr ⟨l, ok⟩)
  obtain ⟨request', key', declared', reached', step⟩ := course.backed_reached ok (backing l ok)
  cases declared.symm.trans declared'
  cases reached.symm.trans reached'
  exact ⟨i, backing l ok, grows.instances (course.stored reached), grows.steps step⟩

/-- An instance is constructed for a type, whose entry has none before. -/
theorem Course.constructed_new {p : String × String} (h : Course r w visit w')
    (constructed : visit.constructed = some p) :
    w.cache.instance? ("type:" ++ p.1 ++ "|" ++ p.2) = none ∧
      ∃ i, visit.reached = some ("type:" ++ p.1 ++ "|" ++ p.2, i) := by
  have place {request : Request ρ σ} {key : String} {i : Instance ρ σ} {w₁ : Workspace ρ σ}
      {owner : ρ} (offers : Offers r owner request w key i (some p) w₁) :
      key = "type:" ++ p.1 ++ "|" ++ p.2 := by
    cases offers
    rfl
  cases h with
  | backed className offers boots fine steps =>
    cases constructed
    obtain rfl := place offers
    exact ⟨offers.constructed_new, _, rfl⟩
  | unbooted offers boots =>
    cases constructed
    obtain rfl := place offers
    exact ⟨offers.constructed_new, _, rfl⟩
  | bare => cases constructed
  | failed => cases constructed

omit [Record ρ σ] in
theorem Boots.instantiations {i : Instance ρ σ} {outcome : Option (Except Fault Unit)}
    (h : Boots i owner w outcome w') : w'.cache.instantiations = w.cache.instantiations := by
  cases h <;> rfl

omit [Record ρ σ] in
theorem Steps.instantiations {key argsKey : String} {s : Compiled ρ σ}
    (h : Steps key argsKey w s w') : w'.cache.instantiations = w.cache.instantiations := by
  cases h <;> rfl

theorem Offers.instantiations {request : Request ρ σ} {key : String} {i : Instance ρ σ}
    {constructed : Option (String × String)} (h : Offers r owner request w key i constructed w') :
    w'.cache.instantiations = w.cache.instantiations + constructed.toList.length := by
  cases h <;> rfl

theorem Course.instantiations (h : Course r w visit w') :
    w'.cache.instantiations = w.cache.instantiations + visit.constructed.toList.length := by
  cases h with
  | backed className offers boots fine steps =>
    rw [steps.instantiations, boots.instantiations]
    exact offers.instantiations
  | unbooted offers boots =>
    rw [boots.instantiations]
    exact offers.instantiations
  | bare nothing unknown steps => exact steps.instantiations
  | failed => rfl

theorem Runs.instantiations (h : Runs r start past w) : w.cache.instantiations =
    start.cache.instantiations + (past.filterMap Visit.constructed).length := by
  induction h with
  | none => rfl
  | call before ran course ih =>
    rw [course.instantiations, ih, filterMap_append_singleton, List.length_append, Nat.add_assoc]
  | other before state ih => exact ih

/-- No type is constructed twice with arguments of one key. -/
theorem Runs.constructed_nodup (h : Runs r start past w) :
    (past.filterMap Visit.constructed).Nodup := by
  induction h with
  | none => exact List.nodup_nil
  | @call past visit w w' before ran course ih =>
    rw [filterMap_append_singleton]
    have single : visit.constructed.toList.Nodup := by cases visit.constructed <;> simp
    refine List.nodup_append'.mpr ⟨ih, single, fun p earlier last => ?_⟩
    -- The first construction left an instance, so that there is no second one.
    obtain ⟨first, mem, constructed⟩ := List.mem_filterMap.mp earlier
    obtain ⟨u, u', course', grows⟩ := before.holds mem
    obtain ⟨-, i, reached⟩ := course'.constructed_new constructed
    obtain ⟨new, -⟩ := course.constructed_new (Option.mem_toList.mp last)
    cases (grows.instances (course'.stored reached)).symm.trans new
  | other before state ih => exact ih

/-- A resolution for a name of a registered type that succeeds. -/
structure Yields (r : Resolver ρ σ) (visit : Visit ρ σ) (name : String) (request : Request ρ σ)
    (l : Leaf ρ σ) : Prop where
  declared : visit.declaration = .node request
  identity : request.identity = .named name
  type : r.IsType name
  ok : visit.result = .ok l

/-- Resolutions share instances and steps exactly by their keys, and every instance that the
resolver constructs is counted, whether or not it boots. -/
theorem resolve_shares {nodes : String → Transformer ρ σ} (fresh : start.cache = {})
    (run : Runs r start past w) (known : ∀ visit ∈ past, ∀ request,
      visit.declaration = .node request → Known nodes request) :
    (∀ visit ∈ past, ∀ visit' ∈ past, ∀ name request l name' request' l',
      r.Yields visit name request l → r.Yields visit' name' request' l' →
      ∃ i i', l.backing = some i ∧ l'.backing = some i' ∧
        (i.id = i'.id ↔ name = name' ∧
          constructorKey request.constructorArgs = constructorKey request'.constructorArgs) ∧
        (i.id = i'.id → i = i') ∧
        (l.step.number = l'.step.number ↔ name = name' ∧
          constructorKey request.constructorArgs = constructorKey request'.constructorArgs ∧
          Arg.key request.callArgs = Arg.key request'.callArgs) ∧
        (l.step.number = l'.step.number → l.step = l'.step)) ∧
    (∀ args, constructorKey none ≠ constructorKey (some args)) ∧
    (∀ visit ∈ past, ∀ request label t l, visit.declaration = .node request →
      request.identity = .given label t → visit.result = .ok l →
      l.backing = some ⟨.given label, t⟩) ∧
    w.cache.instantiations = (past.filterMap Visit.constructed).dedup.length := by
  refine ⟨?_, constructorKey_none, ?_, ?_⟩
  · intro visit mem visit' mem' name request l name' request' l' yields yields'
    obtain ⟨i, backing, there, step⟩ :=
      run.yields mem yields.declared (.type yields.identity yields.type) yields.ok
    obtain ⟨i', backing', there', step'⟩ :=
      run.yields mem' yields'.declared (.type yields'.identity yields'.type) yields'.ok
    have numbered := run.numbered (.of_empty (congrArg Cache.entries fresh))
    have keys : typeKey name request.constructorArgs = typeKey name' request'.constructorArgs ↔ _ :=
      typeKey_eq_iff (known visit mem request yields.declared).args
        (known visit' mem' request' yields'.declared).args
    have made := (run.fits fresh known there).type _ _ rfl
    obtain ⟨ids, instances⟩ := numbered.instance_shared there there' made
    obtain ⟨numbers, steps⟩ := numbered.step_shared step step'
    rw [keys] at ids numbers
    exact ⟨i, i', backing, backing', ids, instances, numbers.trans and_assoc, steps⟩
  · intro visit mem request label t l declared identity ok
    obtain ⟨i, backing, there, -⟩ := run.yields mem declared (.given identity) ok
    obtain ⟨plain, rfl⟩ := (known visit mem request declared).label _ _ identity
    rw [backing, (run.fits fresh known there).ready _ _ plain rfl]
  · rw [run.instantiations, fresh, run.constructed_nodup.dedup]
    exact Nat.zero_add _

/-- Two calls of one type with different arguments share the instance, and not the step. -/
theorem resolve_shares_twice :
    let node : Transformer Scripted.Form Scripted.Desk :=
      { name := "Plain", apply := fun v _ _ => pure v }
    let r : Resolver Scripted.Form Scripted.Desk :=
      { registry := some (Registry.add [] "Plain" fun _ => pure node) }
    let request : Request Scripted.Form Scripted.Desk := { identity := .named "Plain" }
    let other : Request Scripted.Form Scripted.Desk := { request with callArgs := [.null] }
    let start : Workspace Scripted.Form Scripted.Desk := { run := { app := {} } }
    ∃ first second w l l' i i', Runs r start [first, second] w ∧
      first.declaration = .node request ∧ first.result = .ok l ∧ l.backing = some i ∧
      second.declaration = .node other ∧ second.result = .ok l' ∧ l'.backing = some i' ∧
      i.id = i'.id ∧ l.step.number ≠ l'.step.number ∧
      ([first, second].filterMap Visit.constructed).dedup.length = 1 := by
  intro node r request other start
  obtain ⟨first, u, declared, owner, course, ran⟩ := r.exists_course (.node request) {} start
  obtain ⟨second, w, declared', owner', course', ran'⟩ := r.exists_course (.node other) {} u
  have runs : Runs r start [first, second] w := by
    refine .call (.call .none ?_ course) ?_ course'
    · rw [declared, owner, ran]
    · rw [declared', owner', ran']
  obtain rfl : (r.resolve (.node request) {} start).2 = u := by rw [ran]
  obtain rfl : (r.resolve (.node other) {} (r.resolve (.node request) {} start).2).2 = w := by
    rw [ran']
  obtain ⟨l, ok⟩ : ∃ l, first.result = .ok l := ⟨_, (congrArg Prod.fst ran).symm.trans rfl⟩
  obtain ⟨l', ok'⟩ : ∃ l', second.result = .ok l' := ⟨_, (congrArg Prod.fst ran').symm.trans rfl⟩
  have known : ∀ visit ∈ [first, second], ∀ request, visit.declaration = .node request →
      Known (fun _ => node) request := by
    have plain : Known (fun _ => node) request := ⟨nofun, nofun⟩
    have plain' : Known (fun _ => node) other := ⟨nofun, nofun⟩
    simp [declared, declared', plain, plain']
  have type : r.IsType "Plain" := ⟨_, rfl, rfl⟩
  obtain ⟨shared, -, -, count⟩ := resolve_shares rfl runs known
  obtain ⟨i, i', backing, backing', ids, -, numbers, -⟩ :=
    shared first (by simp) second (by simp) _ _ _ _ _ _ ⟨declared, rfl, type, ok⟩
      ⟨declared', rfl, type, ok'⟩
  have apart : l.step.number ≠ l'.step.number := by
    rw [Ne, numbers]
    rintro ⟨-, -, same⟩
    revert same
    decide
  refine ⟨first, second, _, l, l', i, i', runs, declared, ok, backing, declared', ok', backing',
    ids.mpr ⟨rfl, rfl⟩, apart, ?_⟩
  rw [← count]
  rfl

end Resolver

end FieldPipeline
