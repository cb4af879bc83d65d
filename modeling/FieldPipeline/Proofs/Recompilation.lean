import FieldPipeline.Proofs.Recall

namespace FieldPipeline.Chain

open Outcome

variable {ρ σ : Type} [Record ρ σ] {r : Resolver ρ σ} {owner : ρ} {direction : Direction}
  {take : Take} {taken used : Nat} {ds : List (Declaration ρ σ)} {done done' : List (Node ρ σ)}
  {w w' w'' v : Workspace ρ σ}

theorem Compiles.grows (h : Compiles r owner direction take taken done ds w done' used w') :
    w.cache.Grows w'.cache := by
  induction h with
  | full | atEnd => exact .refl _
  | node open_ resolved after ih => exact ((r.lossless_resolve ..).after resolved).grows.trans ih
  | failTo open_ handled after ih => exact ih
  | active open_ switched opened body joined after ihb iha =>
    exact ihb.trans (((lossless_join ..).after joined).grows.trans iha)
  | inactive open_ switched body after ih => exact ih

/-- Two records of one type with the same groups, as far as compilation asks. -/
structure Alike (direction : Direction) (a b : ρ) : Prop extends Record.Alike a b where
  groups : ∀ name, name ∈ Record.activeGroups a direction ↔ name ∈ Record.activeGroups b direction

theorem Alike.refl (direction : Direction) (a : ρ) : Alike direction a a :=
  ⟨.refl a, fun _ => Iff.rfl⟩

section Again

variable {owner' : ρ} (steady : r.SteadyFor owner owner') (alike : Alike direction owner owner')

include alike in
theorem handlerDefect?_alike (handler : Option (Handler ρ σ)) (label : String) :
    handlerDefect? handler owner label = handlerDefect? handler owner' label := by
  unfold handlerDefect?
  simp only [alike.arity, alike.typeName]

include alike in
theorem openingDefect?_alike (g : Grouping ρ σ) :
    openingDefect? owner g = openingDefect? owner' g := by
  cases g with
  | failNextTo fallback handler count => exact handlerDefect?_alike alike handler _
  | _ => rfl

include alike in
theorem isInactive_alike (g : Grouping ρ σ) :
    isInactive owner direction g = isInactive owner' direction g := by
  cases g with
  | groups names count =>
    unfold isInactive
    simp only [alike.groups]
  | _ => rfl

include steady alike in
theorem join_again {g : Grouping ρ σ} {children : List (Node ρ σ)} {node : Node ρ σ}
    (h : join r owner g children w = (.ok node, w')) (grown : w'.cache.Grows v.cache) :
    ∃ v', join r owner' g children v = (.ok node, v') ∧ r.OnlyAsks v v' := by
  cases g with
  | when condition negate count otherwise =>
    obtain ⟨predicate, w₁, resolved, e⟩ := bind_eq_ok.mp h
    cases e
    obtain ⟨v', again, idle⟩ := Resolver.resolve_again steady alike.toAlike resolved grown
    exact ⟨v', bind_eq_ok.mpr ⟨predicate, v', again, rfl⟩, idle⟩
  | collect shape =>
    cases shape <;>
    · cases h
      exact ⟨v, rfl, .refl r v⟩
  | _ =>
    cases h
    exact ⟨v, rfl, .refl r v⟩

include steady alike in
/-- What was compiled compiles to the same nodes for as long as the cache only grows, and nothing is
constructed, booted or stored for it. -/
theorem Compiles.again (h : Compiles r owner direction take taken done ds w done' used w')
    (grown : w'.cache.Grows v.cache) :
    ∃ v', Compiles r owner' direction take taken done ds v done' used v' ∧ r.OnlyAsks v v' := by
  induction h generalizing v with
  | full n done ds w => exact ⟨v, .full n done ds v, .refl r v⟩
  | atEnd taken done w => exact ⟨v, .atEnd taken done v, .refl r v⟩
  | node open_ resolved after ih =>
    obtain ⟨v₁, again, idle⟩ :=
      Resolver.resolve_again steady alike.toAlike resolved (after.grows.trans grown)
    obtain ⟨v', walk, idle'⟩ := ih (idle.grown grown)
    exact ⟨v', .node open_ again walk, idle.trans idle'⟩
  | failTo open_ handled after ih =>
    obtain ⟨v', walk, idle⟩ := ih grown
    rw [handlerDefect?_alike alike] at handled
    exact ⟨v', .failTo open_ handled walk, idle⟩
  | active open_ switched opened body joined after ihb iha =>
    have rest := after.grows.trans grown
    obtain ⟨v₁, inside, idle⟩ := ihb (((lossless_join ..).after joined).grows.trans rest)
    obtain ⟨v₂, again, idle'⟩ := join_again steady alike joined (idle.grown rest)
    obtain ⟨v', walk, idle''⟩ := iha ((idle.trans idle').grown grown)
    rw [isInactive_alike alike] at switched
    rw [openingDefect?_alike alike] at opened
    exact ⟨v', .active open_ switched opened inside again walk, idle.trans (idle'.trans idle'')⟩
  | inactive open_ switched body after ih =>
    obtain ⟨v', walk, idle⟩ := ih grown
    rw [isInactive_alike alike] at switched
    exact ⟨v', .inactive open_ switched body walk, idle⟩

end Again

/-- A list compiles to one list of nodes. -/
theorem Compiles.unique {nodes : List (Node ρ σ)} {used' : Nat}
    (h : Compiles r owner direction take 0 [] ds w done used w')
    (h' : Compiles r owner direction take 0 [] ds w nodes used' w'') : done = nodes := by
  rw [← List.reverse_reverse done] at h
  rw [← List.reverse_reverse nodes] at h'
  have made : compileChildren r owner direction take "" 0 ds w = (.ok (done.reverse, used), w') :=
    compileChildren_eq_ok_iff.mpr h
  rw [compileChildren_eq_ok_iff.mpr h'] at made
  have pair := Except.ok.inj (congrArg Prod.fst made)
  exact (List.reverse_inj.mp (congrArg Prod.fst pair)).symm

/-- What was compiled compiles again to the same callable, and nothing is constructed, booted or
stored for it. -/
theorem compileAll_again {owner' : ρ} (steady : r.SteadyFor owner owner')
    (alike : Alike direction owner owner') {made : Compiled ρ σ}
    (h : compileAll r ds owner direction w = (.ok made, w')) (grown : w'.cache.Grows v.cache) :
    ∃ again v', compileAll r ds owner' direction v = (.ok again, v') ∧ again.run = made.run ∧
      r.OnlyAsks v v' := by
  obtain ⟨children, used, w₁, walk, rfl, rfl⟩ := compileAll_eq_ok.mp h
  obtain ⟨v₁, walk', idle⟩ := walk.again steady alike grown
  exact ⟨_, _, compileAll_eq_ok.mpr ⟨children, used, v₁, walk', rfl, rfl⟩, rfl, idle.cache,
    idle.asks⟩

end FieldPipeline.Chain
