import FieldPipeline.Proofs.Upkeep

namespace FieldPipeline

open Outcome

variable {ρ σ ε α β : Type}

@[simp, grind =] theorem Table.get?_putNew {κ : Type} [DecidableEq κ] (key k : κ) (a : α)
    (t : Table κ α) :
    get? k (putNew key a t) = if k = key then some ((get? key t).getD a) else get? k t := by
  unfold putNew has
  cases e : get? key t with
  | none => simp
  | some b =>
    by_cases hk : k = key
    · subst hk
      simp [e]
    · simp [hk]

theorem Table.put_of_get? {κ α : Type} [DecidableEq κ] {key : κ} {a : α} {t : Table κ α}
    (h : get? key t = some a) : put key a t = t := by
  induction t with
  | nil => cases h
  | cons p rest ih =>
    obtain ⟨k, b⟩ := p
    unfold get? at h
    unfold put
    by_cases hk : k = key
    · rw [if_pos hk] at h ⊢
      cases h
      rfl
    · rw [if_neg hk] at h ⊢
      rw [ih h]

namespace Cache

/-- No instance, step or boot mark is lost or replaced. -/
structure Grows (c c' : Cache ρ σ) : Prop where
  instances : ∀ {key i}, c.instance? key = some i → c'.instance? key = some i
  steps : ∀ {key argsKey s}, c.step? key argsKey = some s → c'.step? key argsKey = some s
  boots : ∀ {id}, c.isBooted id = true → c'.isBooted id = true

theorem Grows.refl (c : Cache ρ σ) : c.Grows c :=
  ⟨id, id, id⟩

theorem Grows.trans {c c' c'' : Cache ρ σ} (h : c.Grows c') (h' : c'.Grows c'') : c.Grows c'' :=
  ⟨fun hi => h'.instances (h.instances hi), fun hs => h'.steps (h.steps hs),
    fun hb => h'.boots (h.boots hb)⟩

/-- What is not in a cache was not there before. -/
theorem Grows.instance_absent {c c' : Cache ρ σ} (h : c.Grows c') {key : String}
    (absent : c'.instance? key = none) : c.instance? key = none := by
  rw [Option.eq_none_iff_forall_ne_some]
  intro i there
  cases absent.symm.trans (h.instances there)

theorem Grows.step_absent {c c' : Cache ρ σ} (h : c.Grows c') {key argsKey : String}
    (absent : c'.step? key argsKey = none) : c.step? key argsKey = none := by
  rw [Option.eq_none_iff_forall_ne_some]
  intro s there
  cases absent.symm.trans (h.steps there)

/-- What resolution may do to a cache: it grows, and its pipelines stay as they are. -/
structure Extends (c c' : Cache ρ σ) : Prop where
  grows : c.Grows c'
  pipelines : c'.pipelines = c.pipelines

theorem Extends.refl (c : Cache ρ σ) : c.Extends c :=
  ⟨.refl c, rfl⟩

theorem Extends.trans {c c' c'' : Cache ρ σ} (h : c.Extends c') (h' : c'.Extends c'') :
    c.Extends c'' :=
  ⟨h.grows.trans h'.grows, h'.pipelines.trans h.pipelines⟩

@[simp, grind =] theorem entry_setEntry (c : Cache ρ σ) (key k : String) (e : CacheEntry ρ σ) :
    (c.setEntry key e).entry k = if k = key then e else c.entry k := by
  unfold entry setEntry
  rw [Table.get?_put]
  split <;> rfl

@[simp, grind =] theorem keepInstance_fst (c : Cache ρ σ) (key : String) (i : Instance ρ σ) :
    (c.keepInstance key i).1 = (c.instance? key).getD i := rfl

@[simp, grind =] theorem keepStep_fst (c : Cache ρ σ) (key argsKey : String) (s : Compiled ρ σ) :
    (c.keepStep key argsKey s).1 = (c.step? key argsKey).getD s := rfl

@[simp, grind =] theorem keepPipeline_fst (c : Cache ρ σ) (key : String) (s : Compiled ρ σ) :
    (c.keepPipeline key s).1 = (c.pipeline? key).getD s := rfl

@[simp, grind =] theorem instance?_keepInstance (c : Cache ρ σ) (key k : String)
    (i : Instance ρ σ) :
    (c.keepInstance key i).2.instance? k =
      if k = key then some (c.keepInstance key i).1 else c.instance? k := by
  unfold instance? keepInstance
  rw [entry_setEntry]
  split <;> rfl

@[simp, grind =] theorem step?_keepInstance (c : Cache ρ σ) (key k argsKey : String)
    (i : Instance ρ σ) :
    (c.keepInstance key i).2.step? k argsKey = c.step? k argsKey := by
  unfold step? keepInstance
  rw [entry_setEntry]
  split
  · next hk => rw [hk]
  · rfl

@[simp, grind =] theorem instance?_keepStep (c : Cache ρ σ) (key k argsKey : String)
    (s : Compiled ρ σ) :
    (c.keepStep key argsKey s).2.instance? k = c.instance? k := by
  unfold instance? keepStep
  rw [entry_setEntry]
  split
  · next hk => rw [hk]
  · rfl

@[simp, grind =] theorem step?_keepStep (c : Cache ρ σ) (key k argsKey args : String)
    (s : Compiled ρ σ) :
    (c.keepStep key argsKey s).2.step? k args =
      if k = key ∧ args = argsKey then some (c.keepStep key argsKey s).1 else c.step? k args := by
  unfold step? keepStep
  rw [entry_setEntry]
  by_cases hk : k = key
  · subst hk
    simp only [if_true, true_and]
    exact Table.get?_putNew argsKey args s _
  · rw [if_neg hk, if_neg fun h => hk h.1]

@[simp, grind =] theorem pipeline?_keepPipeline (c : Cache ρ σ) (key k : String)
    (s : Compiled ρ σ) :
    (c.keepPipeline key s).2.pipeline? k =
      if k = key then some (c.keepPipeline key s).1 else c.pipeline? k :=
  Table.get?_putNew key k s c.pipelines

/-- An instance that is found after one was kept was there before, or is the one that was kept. -/
theorem keepInstance_cases {c : Cache ρ σ} {key k : String} {i j : Instance ρ σ}
    (found : (c.keepInstance key i).2.instance? k = some j) :
    c.instance? k = some j ∨ c.instance? key = none ∧ k = key ∧ i = j := by
  cases there : c.instance? key <;> grind

theorem keepStep_cases {c : Cache ρ σ} {key argsKey k args : String} {s t : Compiled ρ σ}
    (found : (c.keepStep key argsKey s).2.step? k args = some t) :
    c.step? k args = some t ∨ c.step? key argsKey = none ∧ (k = key ∧ args = argsKey) ∧ s = t := by
  cases there : c.step? key argsKey <;> grind

theorem keepPipeline_cases {c : Cache ρ σ} {key k : String} {s t : Compiled ρ σ}
    (found : (c.keepPipeline key s).2.pipeline? k = some t) :
    c.pipeline? k = some t ∨ c.pipeline? key = none ∧ k = key ∧ s = t := by
  cases there : c.pipeline? key <;> grind

/-- Keeping an instance where there is one changes nothing. -/
theorem keepInstance_of_some {c : Cache ρ σ} {key : String} {kept : Instance ρ σ}
    (h : c.instance? key = some kept) (i : Instance ρ σ) : c.keepInstance key i = (kept, c) := by
  have backed : (c.entry key).backing = some kept := h
  cases there : Table.get? key c.entries with
  | none =>
    have empty : c.entry key = {} := by rw [entry, there]; rfl
    rw [empty] at backed
    cases backed
  | some e =>
    have own : c.entry key = e := by rw [entry, there]; rfl
    rw [own] at backed
    have same : ({ e with backing := some kept } : CacheEntry ρ σ) = e := by rw [← backed]
    have put : c.setEntry key e = c := by rw [setEntry, Table.put_of_get? there]
    rw [keepInstance, own, backed, Option.getD_some, same, put]

theorem grows_keepInstance (c : Cache ρ σ) (key : String) (i : Instance ρ σ) :
    c.Grows (c.keepInstance key i).2 where
  instances h := by grind
  steps h := by simp [h]
  boots h := h

theorem grows_keepStep (c : Cache ρ σ) (key argsKey : String) (s : Compiled ρ σ) :
    c.Grows (c.keepStep key argsKey s).2 where
  instances h := by simp [h]
  steps h := by grind
  boots h := h

theorem grows_keepPipeline (c : Cache ρ σ) (key : String) (s : Compiled ρ σ) :
    c.Grows (c.keepPipeline key s).2 :=
  ⟨id, id, id⟩

theorem grows_noteBooted (c : Cache ρ σ) (id : InstanceId) : c.Grows (c.noteBooted id) where
  instances h := h
  steps h := h
  boots h := by
    simp only [isBooted, decide_eq_true_eq] at h
    simp [isBooted, noteBooted, h]

@[simp] theorem isBooted_noteBooted (c : Cache ρ σ) (id : InstanceId) :
    (c.noteBooted id).isBooted id = true := by
  simp [isBooted, noteBooted]

end Cache

/-- That a cache comes from another one and extends it is an invariant, whatever is supplied. -/
def Upkeep.growth (c : Cache ρ σ) : Upkeep ρ σ where
  holds := c.Extends
  uses _ := True
  code _ := True
  step _ := True
  tree _ := True
  instances _ _ _ _ := trivial
  steps _ _ _ := trivial
  keepInstance h _ _ := h.trans ⟨Cache.grows_keepInstance .., rfl⟩
  keepStep h _ _ := h.trans ⟨Cache.grows_keepStep .., rfl⟩
  noteBooted h := h.trans ⟨Cache.grows_noteBooted .., rfl⟩
  countInstantiation h := h.trans ⟨⟨id, id, id⟩, rfl⟩
  asNode _ := trivial
  leaf _ := trivial
  fresh _ _ := trivial

/-- A step that loses nothing from the cache and leaves its pipelines alone, however it ends. -/
structure Lossless (step : Workspace ρ σ → α × Workspace ρ σ) : Prop where
  extends_ : ∀ w : Workspace ρ σ, w.cache.Extends (step w).2.cache

namespace Lossless

theorem after {step : Workspace ρ σ → α × Workspace ρ σ} (h : Lossless step)
    {w w' : Workspace ρ σ} {a : α} (e : step w = (a, w')) : w.cache.Extends w'.cache := by
  have extended := h.extends_ w
  rw [e] at extended
  exact extended

theorem of_keeps {Q : Cache ρ σ → α → Prop} {step : ExceptT ε (StateM (Workspace ρ σ)) α}
    (h : ∀ c, (Upkeep.growth c).Keeps (Q c) step) : Lossless step :=
  ⟨fun w => ((h w.cache).after (.refl w.cache)).1⟩

end Lossless

namespace Resolver

theorem lossless_boot (i : Instance ρ σ) (owner : ρ) : Lossless (boot i owner) :=
  .of_keeps fun _ => keeps_boot i owner

variable [Record ρ σ]

theorem suppliesName_growth (r : Resolver ρ σ) (owner : ρ) (c : Cache ρ σ) (name : String)
    (request : Request ρ σ) : r.SuppliesName owner (Upkeep.growth c).code name request where
  registered _ _ _ _ _ _ _ _ _ _ := trivial
  method _ _ _ := trivial
  fallback _ _ _ answer _ _ := by cases answer <;> exact fun _ => trivial

theorem supplies_growth (r : Resolver ρ σ) (owner : ρ) (c : Cache ρ σ) (d : Declaration ρ σ) :
    r.Supplies owner (Upkeep.growth c).code d := by
  unfold Supplies
  split
  · split
    · exact fun _ => trivial
    · exact suppliesName_growth r owner c _ _
  · trivial

theorem lossless_askFallback (r : Resolver ρ σ) (name : String) (request : Request ρ σ)
    (owner : ρ) : Lossless (r.askFallback name request owner) :=
  .of_keeps fun c => keeps_askFallback (suppliesName_growth r owner c name request) trivial

theorem lossless_leaf (r : Resolver ρ σ) (found : Resolution ρ σ) (name : String)
    (args : List Arg) (owner : ρ) : Lossless (r.leaf found name args owner) := by
  refine .of_keeps fun c => keeps_leaf ?_ name args owner
  cases found with
  | unresolved => trivial
  | _ => exact ⟨trivial, fun _ => trivial⟩

/-- Resolution loses nothing from the cache, also when it fails. -/
theorem lossless_resolve (r : Resolver ρ σ) (d : Declaration ρ σ) (owner : ρ) :
    Lossless (r.resolve d owner) :=
  .of_keeps fun c => keeps_resolve (supplies_growth r owner c d) fun _ _ => trivial

end Resolver

namespace Chain

variable [Record ρ σ]

theorem refers_growth (r : Resolver ρ σ) (owner : ρ) (c : Cache ρ σ) (d : Declaration ρ σ) :
    Refers (Upkeep.growth c) r owner d :=
  fun need _ => ⟨r.supplies_growth owner c need, fun _ _ => trivial⟩

theorem lossless_join (r : Resolver ρ σ) (owner : ρ) (g : Grouping ρ σ)
    (children : List (Node ρ σ)) : Lossless (join r owner g children) :=
  .of_keeps fun c => keeps_join (refers_growth r owner c (.group g)) fun _ _ => trivial

/-- Compilation loses nothing from the cache, also when it fails. -/
theorem lossless_compileAll (r : Resolver ρ σ) (ds : List (Declaration ρ σ)) (owner : ρ)
    (direction : Direction) : Lossless (compileAll r ds owner direction) :=
  .of_keeps fun c => keeps_compileAll (fun d _ => refers_growth r owner c d) direction

end Chain

end FieldPipeline
