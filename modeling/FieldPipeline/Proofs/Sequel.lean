import FieldPipeline.Proofs.Skipping

namespace FieldPipeline.Chain

open Outcome
open Declaration (AllCounted)

variable {ρ σ α β : Type}

/-- What a walk comes to, without the positions of its faults. -/
def unlocated (b : Compiling ρ σ α) : Build ρ σ α :=
  ExceptT.adapt Halt.fault b

theorem unlocated_run (b : Compiling ρ σ α) (w : Workspace ρ σ) :
    unlocated b w = ((b w).1.mapError Halt.fault, (b w).2) := rfl

@[simp] theorem unlocated_pure (a : α) : unlocated (pure a : Compiling ρ σ α) = pure a := rfl

@[simp] theorem unlocated_bind (x : Compiling ρ σ α) (f : α → Compiling ρ σ β) :
    unlocated (x >>= f) = unlocated x >>= fun a => unlocated (f a) := by
  funext w
  rw [unlocated_run, bind_run, bind_run, unlocated_run]
  rcases x w with ⟨halt | a, w'⟩ <;> rfl

@[simp] theorem unlocated_located (position : Nat) (b : Build ρ σ α) :
    unlocated (located position b) = b := by
  funext w
  have there : located position b w =
      ((b w).1.mapError fun fault => ⟨fault, position⟩, (b w).2) := rfl
  rw [unlocated_run, there]
  rcases b w with ⟨fault | a, w'⟩ <;> rfl

theorem unlocated_eq_ok {x : Compiling ρ σ α} {a : α} {w w' : Workspace ρ σ} :
    unlocated x w = (.ok a, w') ↔ x w = (.ok a, w') := by
  rw [unlocated_run]
  rcases x w with ⟨halt | b, t⟩
  · constructor <;> intro h <;> cases h
  · constructor <;> intro h <;> cases h <;> rfl

theorem unlocated_lift (x : Except Halt α) :
    unlocated (ExceptT.mk (pure x) : Compiling ρ σ α) =
      ExceptT.mk (pure (x.mapError Halt.fault)) := rfl

/-- Ends the build if there is a defect. -/
def demand : Option Misconfiguration → Build ρ σ Unit
  | none => pure ()
  | some m => Build.misconfigured m

@[simp] theorem unlocated_refuse (position : Nat) (defect : Option Misconfiguration) :
    unlocated (refuse position defect : Compiling ρ σ Unit) = demand defect := by
  cases defect with
  | none => rfl
  | some m => exact unlocated_located position _

/-- A likeness of walks that does not see at which positions faults are raised. -/
structure Overlooks (m : Type → Type) [Monad m] [MonadExcept Halt m]
    (Like : ∀ {α : Type}, m α → m α → Prop) : Prop where
  pure {α : Type} (a : α) : Like (pure a) (pure a)
  bind {α β : Type} {x y : m α} {f g : α → m β} (first : Like x y) (next : ∀ a, Like (f a) (g a)) :
    Like (x >>= f) (y >>= g)
  throw {α : Type} (fault : Fault) (position position' : Nat) :
    Like (throw ⟨fault, position⟩ : m α) (throw ⟨fault, position'⟩)

section Alike

variable {m : Type → Type} [Monad m] [MonadExcept Halt m]
  {Like : ∀ {α : Type}, m α → m α → Prop} {take : Take} {label label' : String}
  {bound bound' taken taken' position position' : Nat} {found found' : List String} {made : α}
  {visit : α → Declaration ρ σ → Nat → (rest : List (Declaration ρ σ)) → rest.length < bound →
    m (α × Bool × Nat)}
  {visit' : α → Declaration ρ σ → Nat → (rest : List (Declaration ρ σ)) → rest.length < bound' →
    m (α × Bool × Nat)}

/-- Loops that visit alike are alike. A loop to the end shows neither its label nor what it has
taken. -/
theorem consume_alike (overlooks : Overlooks m Like) {k : Nat} {ds : List (Declaration ρ σ)}
    (short : ds.length < k)
    (shown : take ≠ .all → label = label' ∧ taken = taken' ∧ found = found')
    (alike : ∀ made d position position' rest h h',
      Like (visit made d position rest h) (visit' made d position' rest h'))
    (fits : ds.length ≤ bound) (fits' : ds.length ≤ bound') :
    Like (consume take label bound visit taken found made position ds fits)
      (consume take label' bound' visit' taken' found' made position' ds fits') := by
  -- A group's body ends anywhere in the list, so the induction is on a bound of the length.
  induction k generalizing taken taken' found found' made position position' ds with
  | zero => exact absurd short (Nat.not_lt_zero _)
  | succ k ih =>
    by_cases full : take = .exactly taken
    · obtain ⟨rfl, rfl, rfl⟩ := shown (by simp [full])
      rw [consume_full fits full, consume_full fits' full]
      exact overlooks.pure _
    have open_ : take ≠ .exactly taken' := by
      intro full'
      obtain ⟨-, rfl, -⟩ := shown (by simp [full'])
      exact full full'
    cases ds with
    | nil =>
      cases take with
      | all =>
        rw [consume_atEnd, consume_atEnd]
        exact overlooks.pure _
      | exactly expected =>
        obtain ⟨rfl, rfl, rfl⟩ := shown nofun
        rw [consume_short fits (by simpa using full), consume_short fits' (by simpa using full)]
        exact overlooks.throw _ _ _
    | cons d rest =>
      rw [consume_cons fits full, consume_cons fits' open_]
      refine overlooks.bind (alike ..) fun seen => ?_
      refine overlooks.bind (ih ?_ (fun counted => ?_) _ _) fun tail => overlooks.pure _
      · rw [List.length_drop]
        simp only [List.length_cons] at short
        omega
      · obtain ⟨rfl, rfl, rfl⟩ := shown counted
        exact ⟨rfl, rfl, rfl⟩

end Alike

theorem overlooks_mapError :
    Overlooks (Except Halt) fun x y => x.mapError Halt.fault = y.mapError Halt.fault where
  pure _ := rfl
  throw _ _ _ := rfl
  bind {_ _ x y f g} first next := by
    cases x with
    | error halt =>
      cases y with
      | error halt' => exact congrArg Except.error (Except.error.inj first)
      | ok b => cases first
    | ok a =>
      cases y with
      | error halt' => cases first
      | ok b =>
        cases Except.ok.inj first
        exact next a

theorem overlooks_unlocated :
    Overlooks (Compiling ρ σ) fun x y => unlocated x = unlocated y where
  pure _ := rfl
  throw _ _ _ := rfl
  bind first next := by
    rw [unlocated_bind, unlocated_bind, first]
    exact congrArg _ (funext next)

theorem skip_eq_map (take : Take) (label : String) (position : Nat)
    (ds : List (Declaration ρ σ)) :
    skip take label position ds =
      (·.2) <$> consume take label ds.length (passOver _) 0 [] () position ds (Nat.le_refl _) := by
  rw [skip, map_eq_pure_bind]
  rfl

/-- Passing over declarations meets the same faults from every position. -/
theorem skip_alike {k : Nat} {ds : List (Declaration ρ σ)} (short : ds.length < k) (take : Take)
    (label : String) (position position' : Nat) :
    (skip take label position ds).mapError Halt.fault =
      (skip take label position' ds).mapError Halt.fault := by
  induction k generalizing ds take label position position' with
  | zero => exact absurd short (Nat.not_lt_zero _)
  | succ k ih =>
    rw [skip_eq_map, skip_eq_map, map_eq_pure_bind, map_eq_pure_bind]
    refine overlooks_mapError.bind (x := consume ..) (y := consume ..)
      (consume_alike overlooks_mapError (Nat.lt_succ_self _) (fun _ => ⟨rfl, rfl, rfl⟩) ?_ _ _)
      fun _ => rfl
    intro made d p p' rest h h'
    cases d with
    | node | failTo => rfl
    | group g => exact overlooks_mapError.bind (ih (by omega) ..) fun _ => rfl

section Compile

variable [Record ρ σ] {r : Resolver ρ σ} {owner : ρ} {direction : Direction}

theorem compileChildren_eq_map (take : Take) (label : String) (position : Nat)
    (ds : List (Declaration ρ σ)) :
    compileChildren r owner direction take label position ds =
      (fun p => (p.1.reverse, p.2)) <$> consume take label ds.length (visit r owner direction _) 0
        [] [] position ds (Nat.le_refl _) := by
  rw [compileChildren, map_eq_pure_bind]
  rfl

theorem compileGroup_alike_of {g : Grouping ρ σ} {ds : List (Declaration ρ σ)}
    {position position' : Nat}
    (inside : unlocated (compileChildren r owner direction g.take g.name position ds) =
      unlocated (compileChildren r owner direction g.take g.name position' ds)) :
    unlocated (compileGroup r owner direction g position ds) =
      unlocated (compileGroup r owner direction g position' ds) := by
  rw [compileGroup, compileGroup]
  split
  · have passed := skip_alike (Nat.lt_succ_self ds.length) g.take g.name position position'
    simp only [unlocated_bind, unlocated_lift, passed]
  · simp only [unlocated_bind, unlocated_refuse, unlocated_located, inside]

/-- The node of a group, wherever it stands. -/
def grouped (r : Resolver ρ σ) (owner : ρ) (direction : Direction) (g : Grouping ρ σ)
    (ds : List (Declaration ρ σ)) : Build ρ σ (Node ρ σ × Nat) :=
  unlocated (compileGroup r owner direction g 0 ds)

/-- What is done at a declaration: the nodes with it, whether it used up a slot, and how many of the
declarations that follow belong to it. -/
def entry (r : Resolver ρ σ) (owner : ρ) (direction : Direction) (done : List (Node ρ σ))
    (d : Declaration ρ σ) (rest : List (Declaration ρ σ)) :
    Build ρ σ (List (Node ρ σ) × Bool × Nat) :=
  match d with
  | .failTo fallback handler => do
    demand (handlerDefect? handler owner "FailTo")
    return (← recoverLast fallback handler done, false, 0)
  | .group g => do
    let (node, used) ← grouped r owner direction g rest
    return (node :: done, true, used)
  | .node request => do
    let l ← r.resolve (.node request) owner
    return (.leaf l :: done, true, 0)

theorem unlocated_visit_of {bound position : Nat} {done : List (Node ρ σ)} {d : Declaration ρ σ}
    {rest : List (Declaration ρ σ)} (h : rest.length < bound)
    (inside : ∀ g, unlocated (compileGroup r owner direction g position rest) =
      grouped r owner direction g rest) :
    unlocated (visit r owner direction bound done d position rest h) =
      entry r owner direction done d rest := by
  cases d with
  | node request | failTo fallback handler =>
    simp only [visit, entry, unlocated_bind, unlocated_refuse, unlocated_located, unlocated_pure]
  | group g => simp only [visit, entry, unlocated_bind, inside, unlocated_pure]

/-- Compiling declarations meets the same faults from every position. -/
theorem compileChildren_alike {k : Nat} {ds : List (Declaration ρ σ)} (short : ds.length < k)
    (take : Take) (label : String) (position position' : Nat) :
    unlocated (compileChildren r owner direction take label position ds) =
      unlocated (compileChildren r owner direction take label position' ds) := by
  induction k generalizing ds take label position position' with
  | zero => exact absurd short (Nat.not_lt_zero _)
  | succ k ih =>
    rw [compileChildren_eq_map, compileChildren_eq_map, map_eq_pure_bind, map_eq_pure_bind]
    refine overlooks_unlocated.bind (consume_alike overlooks_unlocated (Nat.lt_succ_self _)
      (fun _ => ⟨rfl, rfl, rfl⟩) ?_ _ _) fun _ => rfl
    intro made d p p' rest h h'
    have inside (q g) : unlocated (compileGroup r owner direction g q rest) =
        grouped r owner direction g rest :=
      compileGroup_alike_of (ih (by omega) ..)
    rw [unlocated_visit_of h (inside p), unlocated_visit_of h' (inside p')]

theorem unlocated_compileGroup (g : Grouping ρ σ) (position : Nat) (ds : List (Declaration ρ σ)) :
    unlocated (compileGroup r owner direction g position ds) = grouped r owner direction g ds :=
  compileGroup_alike_of (compileChildren_alike (Nat.lt_succ_self _) ..)

theorem unlocated_visit {bound position : Nat} {done : List (Node ρ σ)} {d : Declaration ρ σ}
    {rest : List (Declaration ρ σ)} (h : rest.length < bound) :
    unlocated (visit r owner direction bound done d position rest h) =
      entry r owner direction done d rest :=
  unlocated_visit_of h fun g => unlocated_compileGroup g position rest

theorem visit_alike {bound bound' : Nat} (done : List (Node ρ σ)) (d : Declaration ρ σ)
    (position position' : Nat) (rest : List (Declaration ρ σ)) (h : rest.length < bound)
    (h' : rest.length < bound') :
    unlocated (visit r owner direction bound done d position rest h) =
      unlocated (visit r owner direction bound' done d position' rest h') := by
  rw [unlocated_visit, unlocated_visit]

omit [Record ρ σ] in
theorem length_fits (ds : List (Declaration ρ σ)) : ds.length ≤ ds.length :=
  Nat.le_refl _

/-- The loop over the declarations, wherever they stand. -/
def loop (r : Resolver ρ σ) (owner : ρ) (direction : Direction) (take : Take) (label : String)
    (taken : Nat) (found : List String) (done : List (Node ρ σ)) (ds : List (Declaration ρ σ)) :
    Build ρ σ (List (Node ρ σ) × Nat) :=
  unlocated (consume take label ds.length (visit r owner direction _) taken found done 0 ds
    (length_fits ds))

section Loop

variable {take : Take} {label : String} {taken used : Nat} {found : List String}
  {done : List (Node ρ σ)} {d : Declaration ρ σ} {g : Grouping ρ σ}
  {ds rest more : List (Declaration ρ σ)}

theorem unlocated_consume (take : Take) (label : String) (bound taken position : Nat)
    (found : List String) (done : List (Node ρ σ)) (ds : List (Declaration ρ σ))
    (fits : ds.length ≤ bound) :
    unlocated (consume take label bound (visit r owner direction bound) taken found done position ds
      fits) = loop r owner direction take label taken found done ds :=
  consume_alike overlooks_unlocated (Nat.lt_succ_self _) (fun _ => ⟨rfl, rfl, rfl⟩) visit_alike _ _

theorem unlocated_compileChildren (position : Nat) :
    unlocated (compileChildren r owner direction take label position ds) =
      (fun p => (p.1.reverse, p.2)) <$> loop r owner direction take label 0 [] [] ds := by
  rw [compileChildren_eq_map, map_eq_pure_bind, map_eq_pure_bind, unlocated_bind, unlocated_consume]
  rfl

@[simp] theorem loop_full (n : Nat) : loop r owner direction (.exactly n) label n found done ds =
    pure (done, 0) := by
  rw [loop, consume_full _ rfl, unlocated_pure]

@[simp] theorem loop_atEnd :
    loop r owner direction .all label taken found done [] = pure (done, 0) := by
  rw [loop, consume_atEnd, unlocated_pure]

theorem loop_cons (open_ : take ≠ .exactly taken) :
    loop r owner direction take label taken found done (d :: rest) = do
      let seen ← entry r owner direction done d rest
      let tail ← loop r owner direction take label (if seen.2.1 then taken + 1 else taken)
        (found ++ [d.name]) seen.1 (rest.drop seen.2.2)
      return (tail.1, 1 + seen.2.2 + tail.2) := by
  rw [loop, consume_cons _ open_]
  simp only [unlocated_bind, unlocated_visit, unlocated_consume, unlocated_pure]

/-- A loop to the end shows neither its label nor what it has taken. -/
theorem loop_all (label label' : String) (taken taken' : Nat) (found found' : List String)
    (done : List (Node ρ σ)) (ds : List (Declaration ρ σ)) :
    loop r owner direction .all label taken found done ds =
      loop r owner direction .all label' taken' found' done ds :=
  consume_alike overlooks_unlocated (Nat.lt_succ_self _) (fun counted => absurd rfl counted)
    visit_alike _ _

theorem grouped_inactive (switched : isInactive owner direction g = true)
    (walk : Skips g.take 0 ds used) :
    grouped r owner direction g ds = pure (.fresh g.name [] .pipe, used) := by
  have passed : skip g.take g.name 0 ds = .ok used := skip_eq_ok_iff.mpr walk
  rw [grouped, compileGroup, if_pos switched, passed]
  rfl

theorem grouped_active (switched : isInactive owner direction g = false) :
    grouped r owner direction g ds = do
      demand (openingDefect? owner g)
      let (children, used) ← loop r owner direction g.take g.name 0 [] [] ds
      return (← join r owner g children.reverse, used) := by
  rw [grouped, compileGroup, if_neg (by simp [switched])]
  simp only [unlocated_bind, unlocated_refuse, unlocated_located, unlocated_pure,
    unlocated_compileChildren, map_eq_pure_bind, bind_assoc, pure_bind]

/-- Compiling the declarations behind nodes that are there, to the end. -/
def sequel (r : Resolver ρ σ) (owner : ρ) (direction : Direction) (done : List (Node ρ σ))
    (ds : List (Declaration ρ σ)) : Build ρ σ (List (Node ρ σ)) :=
  (·.1) <$> loop r owner direction .all "chain" 0 [] done ds

@[simp] theorem sequel_nil : sequel r owner direction done [] = pure done := by
  rw [sequel, loop_atEnd, map_pure]

theorem sequel_cons : sequel r owner direction done (d :: rest) =
    entry r owner direction done d rest >>= fun seen =>
      sequel r owner direction seen.1 (rest.drop seen.2.2) := by
  have open_ : Take.all ≠ .exactly 0 := nofun
  rw [sequel, loop_cons open_, map_bind]
  refine bind_congr fun seen => ?_
  rw [sequel, loop_all _ "chain" _ 0 _ [], map_bind, map_eq_pure_bind]
  simp only [map_pure]

theorem sequel_eq_ok {made : List (Node ρ σ)} {w w' : Workspace ρ σ} :
    sequel r owner direction done ds w = (.ok made, w') ↔
      Compiles r owner direction .all 0 done ds w made ds.length w' := by
  rw [sequel, map_eq_pure_bind, bind_eq_ok]
  constructor
  · rintro ⟨⟨made, used⟩, t, came, e⟩
    cases e
    have walk := compiles_of_consume (Nat.lt_succ_self _) (unlocated_eq_ok.mp came)
    rw [← walk.skips.toEnd rfl]
    exact walk
  · intro walk
    exact ⟨_, w', unlocated_eq_ok.mpr (consume_of_compiles walk _ _ _ _ _), rfl⟩

theorem grouped_skips {node : Node ρ σ} {w w' : Workspace ρ σ}
    (h : grouped r owner direction g ds w = (.ok (node, used), w')) : Skips g.take 0 ds used :=
  compileGroup_skips (unlocated_eq_ok.mp h)

theorem grouped_extend_of (walk : Skips g.take 0 ds used)
    (walk' : Skips g.take 0 (ds ++ more) used)
    (inside : loop r owner direction g.take g.name 0 [] [] (ds ++ more) =
      loop r owner direction g.take g.name 0 [] [] ds) :
    grouped r owner direction g (ds ++ more) = grouped r owner direction g ds := by
  cases switched : isInactive owner direction g with
  | true => rw [grouped_inactive switched walk', grouped_inactive switched walk]
  | false => rw [grouped_active switched, grouped_active switched, inside]

/-- A loop with a count does not look at what follows, whatever it comes to. -/
theorem loop_extend (walk : Skips take taken ds used) (counted : take ≠ .all)
    (inner : AllCounted ds) (more : List (Declaration ρ σ)) :
    loop r owner direction take label taken found done (ds ++ more) =
      loop r owner direction take label taken found done ds := by
  induction walk generalizing label found done with
  | full n ds => simp
  | atEnd => exact absurd rfl counted
  | node open_ after ih | failTo open_ after ih =>
    rw [List.cons_append, loop_cons open_, loop_cons open_]
    simp only [entry, bind_assoc, pure_bind, List.drop_zero, if_true, if_neg Bool.false_ne_true,
      ih counted inner.tail]
  | group open_ body after ihb iha =>
    have kept : grouped r owner direction _ _ = _ :=
      grouped_extend_of body (body.extend (inner _ List.mem_cons_self) inner.tail more)
        (ihb (inner _ List.mem_cons_self) inner.tail)
    rw [List.cons_append, loop_cons open_, loop_cons open_]
    simp only [entry, bind_assoc, pure_bind, if_true, kept]
    -- Only where the group compiles is it known how much of the list is its body.
    refine bind_congr_of_ok fun w p w' came => ?_
    obtain rfl := (grouped_skips came).unique body
    rw [body.drop_append, iha counted (inner.tail.drop _)]

theorem grouped_extend (walk : Skips g.take 0 ds used) (counted : g.take ≠ .all)
    (inner : AllCounted ds) (more : List (Declaration ρ σ)) :
    grouped r owner direction g (ds ++ more) = grouped r owner direction g ds :=
  grouped_extend_of walk (walk.extend counted inner more) (loop_extend walk counted inner more)

/-- A loop that takes a list as a whole is the loop to its end. -/
theorem loop_whole (walk : Skips take taken ds used) (whole : used = ds.length) :
    loop r owner direction take label taken found done ds =
      (fun made => (made, used)) <$> sequel r owner direction done ds := by
  induction walk generalizing label found done with
  | full n ds =>
    cases List.eq_nil_of_length_eq_zero whole.symm
    simp
  | atEnd => simp
  | node open_ after ih | failTo open_ after ih =>
    rw [List.length_cons, Nat.add_comm] at whole
    rw [loop_cons open_, sequel_cons]
    simp only [entry, bind_assoc, pure_bind, List.drop_zero, if_true, if_neg Bool.false_ne_true,
      ih (Nat.succ.inj whole), map_eq_pure_bind, Nat.add_zero]
  | @group _ _ inside more g rest open_ body after ihb iha =>
    have left : more = (rest.drop inside).length := by
      have bound := body.used_le
      rw [List.length_cons] at whole
      rw [List.length_drop]
      omega
    rw [loop_cons open_, sequel_cons]
    simp only [entry, bind_assoc, pure_bind, if_true, map_eq_pure_bind]
    refine bind_congr_of_ok fun w p w' came => ?_
    obtain rfl := (grouped_skips came).unique body
    simp only [iha left, map_eq_pure_bind, bind_assoc, pure_bind]

/-- What follows a list whose groups all have a count is compiled behind what the list comes to. -/
theorem sequel_append (walk : Skips take taken ds used) (toEnd : take = .all)
    (inner : AllCounted ds) (more : List (Declaration ρ σ)) :
    sequel r owner direction done (ds ++ more) =
      sequel r owner direction done ds >>= fun made => sequel r owner direction made more := by
  induction walk generalizing done with
  | full => cases toEnd
  | atEnd => simp
  | node open_ after ih | failTo open_ after ih =>
    rw [List.cons_append, sequel_cons, sequel_cons]
    simp only [entry, bind_assoc, pure_bind, List.drop_zero, ih toEnd inner.tail]
  | group open_ body after ihb iha =>
    rw [List.cons_append, sequel_cons, sequel_cons]
    simp only [entry, bind_assoc, pure_bind,
      grouped_extend body (inner _ List.mem_cons_self) inner.tail more]
    refine bind_congr_of_ok fun w p w' came => ?_
    obtain rfl := (grouped_skips came).unique body
    rw [body.drop_append, iha toEnd (inner.tail.drop _)]

/-- The first declaration protects no node that stands before the list. -/
def Detached (ds : List (Declaration ρ σ)) : Prop :=
  ∀ fallback handler, ds.head? ≠ some (.failTo fallback handler)

omit [Record ρ σ] in
theorem detached_nil : Detached ([] : List (Declaration ρ σ)) :=
  nofun

omit [Record ρ σ] in
@[simp] theorem detached_cons :
    Detached (d :: rest) ↔ ∀ fallback handler, d ≠ .failTo fallback handler := by
  simp [Detached]

/-- A list that starts with a protection does not compile on its own. -/
theorem Compiles.detached {made : List (Node ρ σ)} {w w' : Workspace ρ σ}
    (h : Compiles r owner direction .all taken [] ds w made used w') : Detached ds := by
  intro fallback handler first
  cases ds with
  | nil => cases first
  | cons d rest =>
    cases Option.some.inj first
    cases h

/-- Compiling keeps the nodes below those that it works on. Only a protection at the start of a list
needs one of them. -/
theorem sequel_above {k : Nat} {top : List (Node ρ σ)} (short : ds.length < k)
    (apart : Detached ds ∨ top ≠ []) (below : List (Node ρ σ)) :
    sequel r owner direction (top ++ below) ds =
      (· ++ below) <$> sequel r owner direction top ds := by
  induction k generalizing top ds with
  | zero => exact absurd short (Nat.not_lt_zero _)
  | succ k ih =>
    cases ds with
    | nil => simp
    | cons d rest =>
      rw [List.length_cons] at short
      have next (node : Node ρ σ) (made : List (Node ρ σ)) (used : Nat) :
          sequel r owner direction (node :: made ++ below) (rest.drop used) =
            (· ++ below) <$> sequel r owner direction (node :: made) (rest.drop used) :=
        ih (by rw [List.length_drop]; omega) (.inr (List.cons_ne_nil node made))
      rw [sequel_cons, sequel_cons]
      cases d with
      | node request | group g =>
        simp only [entry, bind_assoc, pure_bind, map_bind, ← List.cons_append, next]
      | failTo fallback handler =>
        cases top with
        | nil =>
          exact absurd rfl (detached_cons.mp (apart.resolve_right (absurd rfl)) fallback handler)
        | cons last before =>
          rw [List.cons_append]
          simp only [entry, recoverLast, bind_assoc, pure_bind, map_bind]
          simp only [← List.cons_append, next]

theorem sequel_behind (apart : Detached ds) (done : List (Node ρ σ)) :
    sequel r owner direction done ds = (· ++ done) <$> sequel r owner direction [] ds := by
  have above : sequel r owner direction ([] ++ done) ds = _ :=
    sequel_above (Nat.lt_succ_self _) (.inl apart) done
  exact above

/-- A group that takes the whole list that follows it, and what comes behind. -/
theorem sequel_grouped (switched : isInactive owner direction g = false)
    (items : Skips g.take 0 ds ds.length) (counted : g.take ≠ .all) (inner : AllCounted ds)
    (more : List (Declaration ρ σ)) :
    sequel r owner direction done (.group g :: (ds ++ more)) =
      demand (openingDefect? owner g) >>= fun _ =>
      sequel r owner direction [] ds >>= fun nodes =>
      join r owner g nodes.reverse >>= fun node =>
      sequel r owner direction (node :: done) more := by
  rw [sequel_cons]
  simp only [entry, grouped_extend items counted inner more, grouped_active switched,
    loop_whole items rfl, map_eq_pure_bind, bind_assoc, pure_bind, List.drop_left]

/-- A group that is left out, and what comes behind the declarations that it takes. -/
theorem sequel_inactive (switched : isInactive owner direction g = true)
    (swallowed : Skips g.take 0 (ds ++ more) ds.length) :
    sequel r owner direction done (.group g :: (ds ++ more)) =
      sequel r owner direction (.fresh g.name [] .pipe :: done) more := by
  rw [sequel_cons]
  simp only [entry, grouped_inactive switched swallowed, pure_bind, List.drop_left]

end Loop

end Compile

end FieldPipeline.Chain
