import FieldPipeline.Proofs.Recompilation
import FieldPipeline.Proofs.Sequel
import FieldPipeline.Proofs.Threading
import FieldPipeline.Scripted.Form

namespace FieldPipeline

open Outcome

variable {ρ σ : Type}

namespace Chain

open Declaration (AllCounted)

variable [Record ρ σ] {r : Resolver ρ σ} {owner : ρ} {direction : Direction}
  {ds more : List (Declaration ρ σ)} {used used' : Nat} {first second : List (Node ρ σ)}
  {w w' w'' v : Workspace ρ σ}

/-- Two walks to the end, one behind the other. Bodies of counted groups stay inside the first. -/
theorem Compiles.append (h : Compiles r owner direction .all 0 [] ds w first used w')
    (counted : AllCounted ds)
    (next : Compiles r owner direction .all 0 [] more w' second used' w'') :
    Compiles r owner direction .all 0 [] (ds ++ more) w (second ++ first) (used + used') w'' := by
  obtain rfl := h.skips.toEnd rfl
  obtain rfl := next.skips.toEnd rfl
  have behind : sequel r owner direction first more w' = (.ok (second ++ first), w'') := by
    rw [sequel_behind next.detached, map_eq_pure_bind]
    exact bind_eq_ok.mpr ⟨second, w'', sequel_eq_ok.mpr next, rfl⟩
  rw [← List.length_append, ← sequel_eq_ok, sequel_append h.skips rfl counted]
  exact bind_eq_ok.mpr ⟨first, w', sequel_eq_ok.mpr h, behind⟩

/-- The nodes of two lists, in a cache that has grown since each of them was compiled. -/
theorem Compiles.after_again (steady : r.Steady) (counted : AllCounted ds) {t t' : Workspace ρ σ}
    (h : Compiles r owner direction .all 0 [] ds w first used w')
    (h' : Compiles r owner direction .all 0 [] more t second used' t')
    (grown : w'.cache.Grows v.cache) (grown' : t'.cache.Grows v.cache) :
    ∃ v', Compiles r owner direction .all 0 [] (ds ++ more) v (second ++ first) (used + used')
      v' := by
  obtain ⟨v₁, walk, idle⟩ := h.again (steady.steadyFor owner) (.refl direction owner) grown
  obtain ⟨v', walk', -⟩ :=
    h'.again (steady.steadyFor owner) (.refl direction owner) (idle.grown grown')
  exact ⟨v', walk.append counted walk'⟩

end Chain

theorem Node.wrapAll_append [Record ρ σ] (feed : Callable ρ σ) (nodes others : List (Node ρ σ)) :
    wrapAll feed (nodes ++ others) = wrapAll (wrapAll feed nodes) others := by
  induction nodes generalizing feed with
  | nil => rw [List.nil_append, wrapAll]
  | cons node rest ih => rw [List.cons_append, wrapAll, wrapAll, ih]

/-- A chain of fresh nodes runs its first nodes and then the others. -/
theorem Node.compile_chain_append [Record ρ σ] {nodes others : List (Node ρ σ)}
    (fresh_ : AreFresh others) :
    (fresh "Chain" (nodes ++ others) .pipe).compile =
      (fresh "Chain" nodes .pipe).compile.andThen (fresh "Chain" others .pipe).compile := by
  simp only [fresh, compile, wrap]
  rw [wrapAll_append, wrapAll_eq_andThen fresh_]

namespace Chain

variable [Record ρ σ] {r : Resolver ρ σ} {owner : ρ} {direction : Direction}

/-- Declarations run in the order in which they are declared. Two lists that have been compiled with
one cache, in whatever order and with whatever was compiled in between, also compile as one list if
every group of the first has a count and the last resort is steady: asked again, it answers a
request with a node, with a callable or not at all as it did before. Whenever that list is compiled
with the cache, its callable runs the first list and then, on its output, the second; a fault of the
first is the fault of the whole, and nothing of the second runs. -/
theorem compileAll_append (steady : r.Steady) {ds more : List (Declaration ρ σ)}
    (counted : Declaration.AllCounted ds) {a b : Compiled ρ σ} {w w' t t' : Workspace ρ σ}
    (first : compileAll r ds owner direction w = (.ok a, w'))
    (second : compileAll r more owner direction t = (.ok b, t')) :
    (∀ v : Workspace ρ σ, w'.cache.Grows v.cache → t'.cache.Grows v.cache →
      ∃ made v', compileAll r (ds ++ more) owner direction v = (.ok made, v')) ∧
    ∀ v made v', compileAll r (ds ++ more) owner direction v = (.ok made, v') →
      ∀ c : Cache ρ σ, w'.cache.Grows c → t'.cache.Grows c → v'.cache.Grows c →
        ∀ value scope s, made.run value scope s =
          match a.run value scope s with
          | (.ok out, s') => b.run out scope s'
          | (.error fault, s') => (.error fault, s') := by
  obtain ⟨nodes, used, w₁, hA, rfl, rfl⟩ := compileAll_eq_ok.mp first
  obtain ⟨others, used', t₁, hB, rfl, rfl⟩ := compileAll_eq_ok.mp second
  refine ⟨fun v grown grown' => ?_, fun v made v' whole c grown grown' kept => ?_⟩
  · obtain ⟨v₁, walk⟩ := hA.after_again steady counted hB grown grown'
    rw [← List.reverse_append] at walk
    exact ⟨_, _, compileAll_eq_ok.mpr ⟨_, _, v₁, walk, rfl, rfl⟩⟩
  · obtain ⟨all, used'', v₁, hAB, rfl, rfl⟩ := compileAll_eq_ok.mp whole
    -- In the cache as it is at last, the whole list compiles both as it did and in two parts.
    let u : Workspace ρ σ := { v with cache := c }
    obtain ⟨u₁, apart⟩ := hA.after_again steady counted hB (v := u) grown grown'
    obtain ⟨u₂, again, -⟩ :=
      hAB.again (steady.steadyFor owner) (.refl direction owner) (v := u) kept
    have same := again.unique apart
    rw [← List.reverse_append, List.reverse_inj] at same
    subst same
    have fresh : Node.AreFresh others := by
      refine Node.areFresh_iff.mpr fun node hn => ?_
      exact Node.areFresh_iff.mp (hB.areFresh trivial) node (List.mem_reverse.mpr hn)
    intro value scope s
    rw [Node.compile_chain_append fresh]
    exact Callable.andThen_run _ _ value scope s

/-- Two chains that share the callable of a last resort, and then one chain of both. -/
theorem compileAll_append_shared :
    let echo : Resolver Scripted.Form Scripted.Desk :=
      { fallback := some fun _ _ _ => pure (some (.callable fun v _ _ => pure v)) }
    let request : Request Scripted.Form Scripted.Desk := { identity := .named "Echo" }
    let ds : List (Declaration Scripted.Form Scripted.Desk) :=
      [.group (.wrap (some 1)), .node request]
    let more : List (Declaration Scripted.Form Scripted.Desk) :=
      [.node request, .failTo .null none]
    echo.Steady ∧ Declaration.AllCounted ds ∧ ∃ a b ab w w' w'',
      compileAll echo ds {} .inbound { run := { app := {} } } = (.ok a, w) ∧
      compileAll echo more {} .inbound w = (.ok b, w') ∧
      compileAll echo (ds ++ more) {} .inbound w' = (.ok ab, w'') ∧
      ab.run = a.run.andThen b.run := by
  intro echo request ds more
  have resolves (w) : ∃ l w', echo.resolve (.node request) {} w = (.ok l, w') :=
    Resolver.resolve_callable rfl rfl rfl rfl (fun _ => rfl) w
  have steady : echo.Steady := by
    rintro resolve ⟨⟩ name request owner s s'
    rfl
  have counted : Declaration.AllCounted ds := by
    simp [ds, Declaration.AllCounted, Declaration.take, Grouping.take, Take.ofCount]
  obtain ⟨l, w, hl⟩ := resolves { run := { app := {} } }
  have inside : Compiles echo {} .inbound (.exactly 1) 0 [] [.node request]
      { run := { app := {} } } [.leaf l] (1 + 0) w :=
    .node (by simp) hl (.full 1 _ _ _)
  have walk : Compiles echo {} .inbound .all 0 [] ds { run := { app := {} } }
      [.fresh "Wrap" [.leaf l] .pipe] (1 + 1 + 0) w :=
    .active (by simp) rfl rfl inside rfl (.atEnd 1 _ _)
  have first := compileAll_eq_ok.mpr ⟨[_], _, w, walk, rfl, rfl⟩
  obtain ⟨l', w', hl'⟩ := resolves { w with issued := w.issued + 1 }
  have walk' : Compiles echo {} .inbound .all 0 [] more { w with issued := w.issued + 1 }
      [.fresh ("FailTo(" ++ (Node.leaf l').name ++ ")") [.leaf l'] (.recover .null none)]
      (1 + (1 + 0)) w' :=
    .node (by simp) hl' (.failTo (by simp) rfl (.atEnd 1 _ _))
  have second := compileAll_eq_ok.mpr ⟨[_], _, w', walk', rfl, rfl⟩
  have grown := ((lossless_compileAll ..).after second).grows
  obtain ⟨ab, w'', whole⟩ := (compileAll_append steady counted first second).1 _ grown (.refl _)
  have kept := ((lossless_compileAll ..).after whole).grows
  have runs := (compileAll_append steady counted first second).2 _ ab w'' whole w''.cache
    (grown.trans kept) kept (.refl _)
  refine ⟨steady, counted, _, _, ab, _, _, w'', first, second, whole, ?_⟩
  funext value scope s
  exact (runs value scope s).trans (Callable.andThen_run _ _ value scope s).symm

/-- A last resort that answers no question after the second. Two lists have compiled, and the list
of both does not. -/
theorem compileAll_append_unsteady :
    let weary : Resolver Scripted.Form Scripted.Desk :=
      { fallback := some fun _ _ _ s =>
          (if s.app.nodes < 2 then some (.callable fun v _ _ => pure v) else none,
            { s with app := { s.app with nodes := s.app.nodes + 1 } }) }
    let ds : List (Declaration Scripted.Form Scripted.Desk) :=
      [.node { identity := .named "Echo" }]
    ¬ weary.Steady ∧ Declaration.AllCounted ds ∧ ∃ a b w w',
      compileAll weary ds {} .inbound { run := { app := {} } } = (.ok a, w) ∧
      compileAll weary ds {} .inbound w = (.ok b, w') ∧ w.cache.Grows w'.cache ∧
      ∀ made v', compileAll weary (ds ++ ds) {} .inbound w' ≠ (.ok made, v') := by
  intro weary ds
  let request : Request Scripted.Form Scripted.Desk := { identity := .named "Echo" }
  have unsteady : ¬ weary.Steady := by
    intro steady
    cases steady _ rfl "Echo" request {} { app := {} } { app := { nodes := 2 } }
  have counted : Declaration.AllCounted ds := by
    simp [ds, Declaration.AllCounted, Declaration.take]
  obtain ⟨l, w, resolved, l', w', resolved', silent⟩ : ∃ l w,
      weary.resolve (.node request) ({} : Scripted.Form) { run := { app := {} } } = (.ok l, w) ∧
      ∃ l' w', weary.resolve (.node request) ({} : Scripted.Form)
        { w with issued := w.issued + 1 } = (.ok l', w') ∧
      ∀ l'' v, weary.resolve (.node request) ({} : Scripted.Form)
        { w' with issued := w'.issued + 1 } ≠ (.ok l'', v) :=
    ⟨_, _, rfl, _, _, rfl, fun _ _ => nofun⟩
  have walk : Compiles weary {} .inbound .all 0 [] ds { run := { app := {} } } [.leaf l] (1 + 0)
      w :=
    .node nofun resolved (.atEnd 1 _ _)
  have walk' : Compiles weary {} .inbound .all 0 [] ds { w with issued := w.issued + 1 }
      [.leaf l'] (1 + 0) w' :=
    .node nofun resolved' (.atEnd 1 _ _)
  have first := compileAll_eq_ok.mpr ⟨[_], _, w, walk, rfl, rfl⟩
  have second := compileAll_eq_ok.mpr ⟨[_], _, w', walk', rfl, rfl⟩
  have grown := ((lossless_compileAll ..).after second).grows
  refine ⟨unsteady, counted, _, _, _, _, first, second, grown, fun made v' whole => ?_⟩
  obtain ⟨nodes, used, v, again, -⟩ := compileAll_eq_ok.mp whole
  cases again with
  | node open_ resolved'' after => exact silent _ _ resolved''

end Chain

end FieldPipeline
