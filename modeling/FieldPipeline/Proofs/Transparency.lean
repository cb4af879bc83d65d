import FieldPipeline.Proofs.Interchange

namespace FieldPipeline.Chain

open Outcome
open Declaration (AllCounted)

variable {ρ σ : Type} [Record ρ σ] {r : Resolver ρ σ} {owner : ρ} {direction : Direction}

section Active

/-- A group that keeps `n` items together, for a record. -/
inductive KeepsTogether (owner : ρ) (direction : Direction) (n : Nat) : Grouping ρ σ → Prop
  | wrap : KeepsTogether owner direction n (.wrap (some n))
  | groups {names : List String} {name : String} (listed : name ∈ names)
    (active : name ∈ Record.activeGroups owner direction) :
    KeepsTogether owner direction n (.groups names (some n))

variable {n : Nat} {g : Grouping ρ σ}

theorem KeepsTogether.take (h : KeepsTogether owner direction n g) : g.take = .exactly n := by
  cases h <;> rfl

theorem KeepsTogether.isInactive (h : KeepsTogether owner direction n g) :
    isInactive owner direction g = false := by
  cases h with
  | wrap => rfl
  | groups listed active =>
    rw [Chain.isInactive, Bool.not_eq_false', List.any_eq_true]
    exact ⟨_, listed, decide_eq_true active⟩

theorem KeepsTogether.openingDefect? (h : KeepsTogether owner direction n g) :
    openingDefect? owner g = none := by
  cases h <;> rfl

theorem KeepsTogether.join (h : KeepsTogether owner direction n g) (children : List (Node ρ σ)) :
    join r owner g children = pure (.fresh g.name children .pipe) := by
  cases h <;> rfl

/-- A group that keeps items together may be left away, and its items stay. In every workspace the
list compiles to the same callable, with the same things resolved, constructed and booted, or fails
with the same fault. -/
theorem compileAll_transparent {before body rest : List (Declaration ρ σ)}
    (outer : Standalone r owner direction before) (inner : Standalone r owner direction body)
    (items : Skips (.exactly n) 0 body body.length) (apart : Detached rest)
    (keeps : KeepsTogether owner direction n g) :
    compileAll r (before ++ .group g :: (body ++ rest)) owner direction =
      compileAll r (before ++ body ++ rest) owner direction := by
  have taken : Skips g.take 0 body body.length := keeps.take ▸ items
  have counted : g.take ≠ .all := by
    rw [keeps.take]
    exact nofun
  rw [compileAll_eq_sequel, compileAll_eq_sequel, List.append_assoc,
    sequel_append outer.walk rfl outer.counted, sequel_append outer.walk rfl outer.counted,
    bind_assoc, bind_assoc]
  refine bind_congr fun done => ?_
  rw [sequel_grouped keeps.isInactive taken counted inner.counted, keeps.openingDefect?,
    sequel_append inner.walk rfl inner.counted, sequel_behind inner.detached done, map_eq_pure_bind]
  simp only [demand, keeps.join, bind_assoc, pure_bind]
  refine bind_congr fun nodes => sequel_exchange apart (a := [_]) (fun feed => ?_) done
  simp only [List.reverse_singleton, Node.fresh, Node.wrapAll, Node.wrap]

/-- A group that is active keeps together a node with its protection, and elements. -/
theorem compileAll_transparent_groups :
    let echo : Resolver Scripted.Form Scripted.Desk :=
      { fallback := some fun _ _ _ => pure (some (.callable fun v _ _ => pure v)) }
    let owner : Scripted.Form := { groups := ["editor", "admin"] }
    let node : Declaration Scripted.Form Scripted.Desk := .node { identity := .named "Echo" }
    let before : List (Declaration Scripted.Form Scripted.Desk) := [node]
    let body : List (Declaration Scripted.Form Scripted.Desk) :=
      [node, .failTo .null none, .group (.each (some 1)), node]
    let rest : List (Declaration Scripted.Form Scripted.Desk) := [node]
    let g : Grouping Scripted.Form Scripted.Desk := .groups ["admin"] (some 2)
    Standalone echo owner .inbound before ∧ Standalone echo owner .inbound body ∧
      Skips (.exactly 2) 0 body body.length ∧ KeepsTogether owner .inbound 2 g ∧
      ∃ made w', compileAll echo (before ++ .group g :: (body ++ rest)) owner .inbound
        { run := { app := {} } } = (.ok made, w') := by
  intro echo owner node before body rest g
  have resolves (w) : ∃ l w', echo.resolve node owner w = (.ok l, w') :=
    Resolver.resolve_callable rfl rfl rfl rfl (fun _ => rfl) w
  obtain ⟨l, w, hl⟩ := resolves { run := { app := {} } }
  obtain ⟨l', w', hl'⟩ := resolves w
  obtain ⟨l'', w'', hl''⟩ := resolves w'
  obtain ⟨l₃, w₃, hl₃⟩ := resolves w''
  have leaf : Compiles echo owner .inbound .all 0 [] before _ [.leaf l] _ w :=
    .node (by simp) hl (.atEnd 1 _ _)
  have element (ds) : Compiles echo owner .inbound (.exactly 1) 0 [] (node :: ds) w'
      [.leaf l''] _ w'' :=
    .node (by simp) hl'' (.full 1 _ _ _)
  have alone : Compiles echo owner .inbound .all 0 [] body w _ _ w'' :=
    .node (by simp) hl' (.failTo (by simp) rfl
      (.active (by simp) rfl rfl (element []) rfl (.atEnd 2 _ _)))
  have two : Compiles echo owner .inbound (.exactly 2) 0 [] body w _ _ w'' :=
    .node (by simp) hl' (.failTo (by simp) rfl
      (.active (by simp) rfl rfl (element []) rfl (.full 2 _ _ _)))
  have outer : Standalone echo owner .inbound before := by
    refine ⟨?_, _, _, _, compileAll_eq_ok.mpr ⟨[_], _, w, leaf, rfl, rfl⟩⟩
    simp [before, node, AllCounted, Declaration.take]
  have inner : Standalone echo owner .inbound body := by
    refine ⟨?_, _, _, _, compileAll_eq_ok.mpr ⟨[_, _], _, w'', alone, rfl, rfl⟩⟩
    simp [body, node, AllCounted, Declaration.take, Grouping.take, Take.ofCount]
  have keeps : KeepsTogether owner .inbound 2 g :=
    .groups (List.mem_singleton_self _) (List.mem_cons_of_mem _ List.mem_cons_self)
  have apart : Detached rest := detached_cons.mpr (by simp [node])
  have plain : Compiles echo owner .inbound .all 0 [] (before ++ body ++ rest)
      { run := { app := {} } } _ _ w₃ :=
    .node (by simp) hl (.node (by simp) hl' (.failTo (by simp) rfl
      (.active (by simp) rfl rfl (element _) rfl (.node (by simp) hl₃ (.atEnd 4 _ _)))))
  have compiled := compileAll_eq_ok.mpr ⟨[_, _, _, _], _, w₃, plain, rfl, rfl⟩
  have same := compileAll_transparent outer inner two.skips apart keeps
  exact ⟨outer, inner, two.skips, keeps, _, _, (congrFun same _).trans compiled⟩

end Active

/-- A group that is left out may be left away with all declarations that it takes, whatever these
are. In every workspace the list compiles to the same callable, with the same things resolved,
constructed and booted, or fails with the same fault. -/
theorem compileAll_inactive {before body rest : List (Declaration ρ σ)} {names : List String}
    {count : Option Nat} (outer : Standalone r owner direction before)
    (absent : ∀ name ∈ names, name ∉ Record.activeGroups owner direction)
    (swallowed : Skips (.ofCount count) 0 (body ++ rest) body.length) (apart : Detached rest) :
    compileAll r (before ++ .group (.groups names count) :: (body ++ rest)) owner direction =
      compileAll r (before ++ rest) owner direction := by
  have switched : isInactive owner direction (.groups names count : Grouping ρ σ) = true := by
    rw [isInactive, Bool.not_eq_true', List.any_eq_false]
    exact fun name listed => by simpa using absent name listed
  rw [compileAll_eq_sequel, compileAll_eq_sequel, sequel_append outer.walk rfl outer.counted,
    sequel_append outer.walk rfl outer.counted, bind_assoc, bind_assoc]
  refine bind_congr fun done => ?_
  rw [sequel_inactive switched swallowed]
  refine sequel_exchange apart (a := [_]) (b := []) (fun feed => ?_) done
  simp only [List.reverse_singleton, List.reverse_nil, Node.fresh, Node.wrapAll, Node.wrap]

/-- The declarations that are taken do not compile: a protection without a node before it, a node
that nobody knows, and a group as a condition. -/
theorem compileAll_inactive_malformed :
    let known : Declaration Scripted.Form Scripted.Desk :=
      .node { identity := .given "trim" Standard.trim }
    let unknown : Declaration Scripted.Form Scripted.Desk := .node { identity := .named "Ghost" }
    let conditional : Grouping Scripted.Form Scripted.Desk :=
      .when (.group (.wrap none)) false (some 1) none
    let body : List (Declaration Scripted.Form Scripted.Desk) :=
      [.failTo .null none, unknown, .group conditional, unknown]
    let rest : List (Declaration Scripted.Form Scripted.Desk) := [known]
    Standalone {} {} .inbound [known] ∧
      (∀ w made w', compileAll {} body {} .inbound w ≠ (.ok made, w')) ∧
      Skips (.ofCount (some 2)) 0 (body ++ rest) body.length ∧
      ∃ made w', compileAll {} ([known] ++ .group (.groups ["admin"] (some 2)) :: (body ++ rest))
        {} .inbound { run := { app := {} } } = (.ok made, w') := by
  intro known unknown conditional body rest
  obtain ⟨l, w, hl, l', w', hl'⟩ : ∃ l w,
      Resolver.resolve {} known ({} : Scripted.Form) { run := { app := {} } } = (.ok l, w) ∧
      ∃ l' w', Resolver.resolve {} known ({} : Scripted.Form) w = (.ok l', w') :=
    ⟨_, _, rfl, _, _, rfl⟩
  have leaf : Compiles {} ({} : Scripted.Form) .inbound .all 0 [] [known] _ [.leaf l] _ w :=
    .node (by simp) hl (.atEnd 1 _ _)
  have plain : Compiles {} ({} : Scripted.Form) .inbound .all 0 [] [known, known]
      { run := { app := {} } } _ _ w' :=
    .node (by simp) hl (.node (by simp) hl' (.atEnd 2 _ _))
  have outer : Standalone {} ({} : Scripted.Form) .inbound [known] := by
    refine ⟨?_, _, _, _, compileAll_eq_ok.mpr ⟨[_], _, w, leaf, rfl, rfl⟩⟩
    simp [known, AllCounted, Declaration.take]
  have broken (w made w') :
      compileAll {} body ({} : Scripted.Form) .inbound w ≠ (.ok made, w') := by
    intro compiled
    obtain ⟨children, used, w₁, walk, -, -⟩ := compileAll_eq_ok.mp compiled
    exact walk.detached .null none rfl
  have inside : Skips (.exactly 1) 0 (unknown :: rest) 1 := .node (by simp) (.full 1 _)
  have second : Skips (.exactly 2) 1 ((body ++ rest).drop 2) 2 :=
    .group (g := conditional) (by simp) inside (.full 2 _)
  have first : Skips (.exactly 2) 0 ((body ++ rest).drop 1) 3 := .node (by simp) second
  have whole : Skips (.exactly 2) 0 (body ++ rest) 4 := .failTo (by simp) first
  have swallowed : Skips (.ofCount (some 2)) 0 (body ++ rest) body.length := whole
  have apart : Detached rest := detached_cons.mpr (by simp [known])
  have compiled := compileAll_eq_ok.mpr ⟨[_, _], _, w', plain, rfl, rfl⟩
  have absent : ∀ name ∈ ["admin"], name ∉ Record.activeGroups ({} : Scripted.Form) .inbound :=
    fun _ _ => List.not_mem_nil
  have same := compileAll_inactive outer absent swallowed apart
  exact ⟨outer, broken, swallowed, _, _, (congrFun same _).trans compiled⟩

end FieldPipeline.Chain
