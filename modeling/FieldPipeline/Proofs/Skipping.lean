import FieldPipeline.Proofs.Walk
import FieldPipeline.Scripted.Form

namespace FieldPipeline

variable {ρ σ : Type}

/-- Every group in the list has a count. -/
def Declaration.AllCounted (ds : List (Declaration ρ σ)) : Prop :=
  ∀ d ∈ ds, d.take ≠ .all

theorem Declaration.AllCounted.tail {d : Declaration ρ σ} {rest : List (Declaration ρ σ)}
    (h : AllCounted (d :: rest)) : AllCounted rest :=
  fun d' hd => h d' (List.mem_cons_of_mem _ hd)

theorem Declaration.AllCounted.drop {ds : List (Declaration ρ σ)} (h : AllCounted ds) (n : Nat) :
    AllCounted (ds.drop n) :=
  fun d hd => h d (List.mem_of_mem_drop hd)

namespace Chain

open Declaration (AllCounted)

theorem Skips.used_le {take : Take} {taken used : Nat} {declarations : List (Declaration ρ σ)}
    (h : Skips take taken declarations used) : used ≤ declarations.length := by
  induction h with
  | full | atEnd => exact Nat.zero_le _
  | node open_ after ih | failTo open_ after ih =>
    simp only [List.length_cons]
    omega
  | group open_ body after ihb iha =>
    rw [List.length_drop] at iha
    simp only [List.length_cons]
    omega

/-- A walk ends where it ends, whoever takes it. -/
theorem Skips.unique {take : Take} {taken used used' : Nat}
    {declarations : List (Declaration ρ σ)} (h : Skips take taken declarations used)
    (h' : Skips take taken declarations used') : used = used' := by
  induction h generalizing used' with
  | full n declarations =>
    cases h' with
    | full => rfl
    | node open_ | failTo open_ | group open_ => exact absurd rfl open_
  | atEnd taken =>
    cases h'
    rfl
  | node open_ after ih =>
    cases h' with
    | full => exact absurd rfl open_
    | node open' after' => rw [ih after']
  | failTo open_ after ih =>
    cases h' with
    | full => exact absurd rfl open_
    | failTo open' after' => rw [ih after']
  | group open_ body after ihb iha =>
    cases h' with
    | full => exact absurd rfl open_
    | group open' body' after' =>
      obtain rfl := ihb body'
      rw [iha after']

/-- A walk to the end takes the whole list. -/
theorem Skips.toEnd {take : Take} {taken used : Nat} {declarations : List (Declaration ρ σ)}
    (walk : Skips take taken declarations used) (toEnd : take = .all) :
    used = declarations.length := by
  induction walk with
  | full => cases toEnd
  | atEnd => rfl
  | node open_ after ih | failTo open_ after ih => rw [List.length_cons, ih toEnd, Nat.add_comm]
  | group open_ body after ihb iha =>
    have bound := body.used_le
    rw [List.length_cons, iha toEnd, List.length_drop]
    omega

section Extend

variable {take : Take} {taken used : Nat} {ds : List (Declaration ρ σ)}

theorem Skips.drop_append (h : Skips take taken ds used) (more : List (Declaration ρ σ)) :
    (ds ++ more).drop used = ds.drop used ++ more :=
  List.drop_append_of_le_length h.used_le

/-- A walk with a count does not look at what follows. -/
theorem Skips.extend (h : Skips take taken ds used) (counted : take ≠ .all) (inner : AllCounted ds)
    (more : List (Declaration ρ σ)) : Skips take taken (ds ++ more) used := by
  induction h with
  | full n ds => exact .full n (ds ++ more)
  | atEnd => exact absurd rfl counted
  | node open_ after ih => exact .node open_ (ih counted inner.tail)
  | failTo open_ after ih => exact .failTo open_ (ih counted inner.tail)
  | group open_ body after ihb iha =>
    rw [List.cons_append]
    refine .group open_ (ihb (inner _ List.mem_cons_self) inner.tail) ?_
    rw [body.drop_append]
    exact iha counted (inner.tail.drop _)

end Extend

variable [Record ρ σ] {r : Resolver ρ σ} {owner : ρ} {direction : Direction}

/-- The two walks keep step on every kind of declaration; inside a group that is left out they are
the same walk. -/
theorem Compiles.skips {take : Take} {taken used : Nat} {done done' : List (Node ρ σ)}
    {declarations : List (Declaration ρ σ)} {w w' : Workspace ρ σ}
    (h : Compiles r owner direction take taken done declarations w done' used w') :
    Skips take taken declarations used := by
  induction h with
  | full n done declarations w => exact .full n declarations
  | atEnd taken done w => exact .atEnd taken
  | node open_ resolved after ih => exact .node open_ ih
  | failTo open_ handled after ih => exact .failTo open_ ih
  | active open_ switched opened body joined after ihb iha => exact .group open_ ihb iha
  | inactive open_ switched body after ih => exact .group open_ body ih

/-- A walk that takes `n` slots makes that many nodes. Protecting the last node takes no slot. -/
theorem Compiles.slots {take : Take} {taken used n : Nat} {done done' : List (Node ρ σ)}
    {declarations : List (Declaration ρ σ)} {w w' : Workspace ρ σ}
    (h : Compiles r owner direction take taken done declarations w done' used w')
    (counted : take = .exactly n) : done'.length + taken = done.length + n := by
  induction h with
  | full m =>
    cases counted
    rfl
  | atEnd => cases counted
  | node _ _ after ih | active _ _ _ _ _ after _ ih | inactive _ _ _ after ih =>
    have here := ih counted
    rw [List.length_cons] at here
    omega
  | failTo _ _ after ih => exact ih counted

theorem compileGroup_skips {g : Grouping ρ σ} {position used : Nat}
    {declarations : List (Declaration ρ σ)} {node : Node ρ σ} {w w' : Workspace ρ σ}
    (h : compileGroup r owner direction g position declarations w = (.ok (node, used), w')) :
    Skips g.take 0 declarations used := by
  cases switched : isInactive owner direction g with
  | true => exact skip_eq_ok_iff.mp ((compileGroup_inactive switched).mp h).1
  | false =>
    obtain ⟨-, children, w₁, hc, -⟩ := (compileGroup_active switched).mp h
    exact (compileChildren_eq_ok_iff.mp hc).skips

/-- From any position of any queue, skipping ends where compiling ends, and fails only if compiling
fails. A group takes the same declarations whichever groups are active, for whichever record. -/
theorem compileChildren_keeps_step (r : Resolver ρ σ) (owner : ρ) (direction : Direction)
    (take : Take) (label label' : String) (q : Queue ρ σ) (w : Workspace ρ σ) :
    (∀ nodes used w',
      compileChildren r owner direction take label q.position q.rest w = (.ok (nodes, used), w') →
        skip take label' q.position q.rest = .ok used ∧ used ≤ q.remaining) ∧
    (∀ halt, skip take label' q.position q.rest = .error halt →
      ∃ halt' w', compileChildren r owner direction take label q.position q.rest w =
        (.error halt', w')) ∧
    (∀ (g : Grouping ρ σ) (r' : Resolver ρ σ) (owner' : ρ) (direction' : Direction)
      (v : Workspace ρ σ) node node' used used' w' v',
      compileGroup r owner direction g q.position q.rest w = (.ok (node, used), w') →
      compileGroup r' owner' direction' g q.position q.rest v = (.ok (node', used'), v') →
        used = used') := by
  refine ⟨fun nodes used w' h => ?_, fun halt hs => ?_, ?_⟩
  · have walk := (compileChildren_eq_ok_iff.mp h).skips
    have bound := walk.used_le
    rw [Queue.rest, List.length_drop] at bound
    exact ⟨skip_eq_ok_iff.mpr walk, bound⟩
  · rcases e : compileChildren r owner direction take label q.position q.rest w with
      ⟨halt' | ⟨nodes, used⟩, w'⟩
    · exact ⟨halt', w', rfl⟩
    · have passed : skip take label' q.position q.rest = .ok used :=
        skip_eq_ok_iff.mpr (compileChildren_eq_ok_iff.mp e).skips
      rw [hs] at passed
      cases passed
  · intro g r' owner' direction' v node node' used used' w' v' h h'
    exact (compileGroup_skips h).unique (compileGroup_skips h')

/-- A counted group with a protection inside, and behind that a group that is switched off for one
of two records. From the last declaration on there are too few slots for a walk that asks for two.
-/
theorem compileChildren_keeps_step_inactive :
    let echo : Resolver Scripted.Form Scripted.Desk :=
      { fallback := some fun _ _ _ => pure (some (.callable fun v _ _ => pure v)) }
    let admin : Scripted.Form := { groups := ["admin"] }
    let request : Request Scripted.Form Scripted.Desk := { identity := .named "Echo" }
    let inside : List (Declaration Scripted.Form Scripted.Desk) :=
      [.node request, .failTo .null none, .group (.groups ["admin"] (some 1)), .node request,
        .node request]
    let ds := .group (.wrap (some 2)) :: inside
    let w : Workspace Scripted.Form Scripted.Desk := { run := { app := {} } }
    (∃ nodes w', compileChildren echo {} .inbound (.exactly 1) "chain" 0 ds w =
      (.ok (nodes, 5), w')) ∧
    skip (.exactly 1) "passed" 0 ds = .ok 5 ∧
    (∃ halt w', compileChildren echo {} .inbound (.exactly 2) "chain" 5 [.node request] w =
      (.error halt, w')) ∧
    ∃ node node' w' v',
      compileGroup echo {} .inbound (.wrap (some 2)) 1 inside w = (.ok (node, 4), w') ∧
      compileGroup echo admin .inbound (.wrap (some 2)) 1 inside w = (.ok (node', 4), v') := by
  intro echo admin request inside ds w
  obtain ⟨l, w₁, resolved⟩ : ∃ l w₁,
      echo.resolve (.node request) ({} : Scripted.Form) w = (.ok l, w₁) := ⟨_, _, rfl⟩
  obtain ⟨first, v₁, found, second, v₂, found'⟩ : ∃ l v₁,
      echo.resolve (.node request) admin w = (.ok l, v₁) ∧
      ∃ l' v₂, echo.resolve (.node request) admin v₁ = (.ok l', v₂) := ⟨_, _, rfl, _, _, rfl⟩
  have body : Compiles echo {} .inbound (.exactly 2) 0 [] inside w
      [.fresh "Groups" [] .pipe,
        .fresh ("FailTo(" ++ l.name ++ ")") [.leaf l] (.recover .null none)] _ w₁ :=
    .node (by decide) resolved <| .failTo (by decide) rfl <|
      .inactive (by decide) rfl (.node (by decide) (.full 1 _)) (.full 2 _ _ _)
  have body' : Compiles echo admin .inbound (.exactly 2) 0 [] inside w
      [.fresh "Groups" [.leaf second] .pipe,
        .fresh ("FailTo(" ++ first.name ++ ")") [.leaf first] (.recover .null none)] _ v₂ :=
    .node (by decide) found <| .failTo (by decide) rfl <|
      .active (by decide) rfl rfl (.node (by decide) found' (.full 1 _ _ _)) rfl (.full 2 _ _ _)
  have walk : Compiles echo {} .inbound (.exactly 1) 0 [] ds w [_] _ w₁ :=
    .active (by decide) rfl rfl body rfl (.full 1 _ _ _)
  have whole : compileChildren echo {} .inbound (.exactly 1) "chain" 0 ds w = (.ok ([_], 5), w₁) :=
    compileChildren_eq_ok_iff.mpr walk
  have children : compileChildren echo {} .inbound (.exactly 2) "Wrap" 1 inside w =
      (.ok ([_, _], 4), w₁) :=
    compileChildren_eq_ok_iff.mpr body
  have children' : compileChildren echo admin .inbound (.exactly 2) "Wrap" 1 inside w =
      (.ok ([_, _], _), v₂) :=
    compileChildren_eq_ok_iff.mpr body'
  have off : compileGroup echo {} .inbound (.wrap (some 2)) 1 inside w = (.ok (_, 4), w₁) :=
    (compileGroup_active rfl).mpr ⟨rfl, _, w₁, children, rfl⟩
  obtain ⟨node, used, v', on⟩ : ∃ node used v',
      compileGroup echo admin .inbound (.wrap (some 2)) 1 inside w = (.ok (node, used), v') :=
    ⟨_, _, v₂, (compileGroup_active rfl).mpr ⟨rfl, _, v₂, children', rfl⟩⟩
  obtain ⟨halt, short⟩ : ∃ halt, skip (.exactly 2) "passed" 5 [.node request] = .error halt := by
    cases passed : skip (.exactly 2) "passed" 5 [.node request] with
    | error halt => exact ⟨halt, rfl⟩
    | ok used =>
      cases skip_eq_ok_iff.mp passed with
      | node open_ after => cases after
  have ends := compileChildren_keeps_step echo {} .inbound (.exactly 1) "chain" "passed" ⟨ds, 0⟩ w
  have fails := (compileChildren_keeps_step echo {} .inbound (.exactly 2) "chain" "passed"
    ⟨ds, 5⟩ w).2.1 halt short
  have same := (compileChildren_keeps_step echo {} .inbound (.exactly 1) "chain" "passed"
    ⟨ds, 1⟩ w).2.2 (.wrap (some 2)) echo admin .inbound w _ _ _ _ _ _ off on
  subst same
  exact ⟨⟨_, w₁, whole⟩, (ends.1 _ _ _ whole).1, fails, _, node, w₁, v', off, on⟩

end Chain

end FieldPipeline
