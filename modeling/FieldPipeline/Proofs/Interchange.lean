import FieldPipeline.Proofs.Succession

namespace FieldPipeline

open Outcome

variable {ρ σ : Type}

namespace Chain

open Declaration (AllCounted)

variable [Record ρ σ]

/-- A list that compiles on its own, and whose groups take nothing of what follows the list. -/
structure Standalone (r : Resolver ρ σ) (owner : ρ) (direction : Direction)
    (ds : List (Declaration ρ σ)) : Prop where
  counted : AllCounted ds
  compiles : ∃ w made w', compileAll r ds owner direction w = (.ok made, w')

variable {r : Resolver ρ σ} {owner : ρ} {direction : Direction} {ds rest : List (Declaration ρ σ)}

theorem Standalone.walk (h : Standalone r owner direction ds) : Skips .all 0 ds ds.length := by
  obtain ⟨w, made, w', compiled⟩ := h.compiles
  obtain ⟨children, used, w₁, walk, -, -⟩ := compileAll_eq_ok.mp compiled
  rw [← walk.skips.toEnd rfl]
  exact walk.skips

theorem Standalone.detached (h : Standalone r owner direction ds) : Detached ds := by
  obtain ⟨w, made, w', compiled⟩ := h.compiles
  obtain ⟨children, used, w₁, walk, -, -⟩ := compileAll_eq_ok.mp compiled
  exact walk.detached

/-- The callable of a chain, of nodes in reverse. -/
def enchain (done : List (Node ρ σ)) : Build ρ σ (Compiled ρ σ) := do
  return ⟨← Build.issue, (Node.fresh "Chain" done.reverse .pipe).compile⟩

theorem compileAll_eq_sequel (ds : List (Declaration ρ σ)) :
    compileAll r ds owner direction = sequel r owner direction [] ds >>= enchain := by
  have children : compileAll r ds owner direction =
      unlocated (compileChildren r owner direction .all "chain" 0 ds) >>= fun p =>
        enchain p.1.reverse := by
    funext w
    have start : (⟨ds, 0⟩ : Queue ρ σ).rest = ds := List.drop_zero
    rw [compileAll_run, compile_run, start, bind_run, unlocated_run]
    rcases compileChildren r owner direction .all "chain" 0 ds w with ⟨halt | ⟨children, used⟩, w₁⟩
    · rfl
    · change _ = enchain children.reverse w₁
      rw [enchain, List.reverse_reverse]
      rfl
  rw [children, unlocated_compileChildren, sequel, map_eq_pure_bind, map_eq_pure_bind]
  simp only [bind_assoc, pure_bind, List.reverse_reverse]

/-- Nodes may be exchanged for others that thread every feed to the same callable. -/
theorem enchain_exchange {a b : List (Node ρ σ)}
    (same : ∀ feed, Node.wrapAll feed a.reverse = Node.wrapAll feed b.reverse)
    (above below : List (Node ρ σ)) :
    enchain (above ++ (a ++ below)) = enchain (above ++ (b ++ below)) := by
  have callable : (Node.fresh "Chain" (above ++ (a ++ below)).reverse .pipe).compile =
      (Node.fresh "Chain" (above ++ (b ++ below)).reverse .pipe).compile := by
    simp only [Node.fresh, Node.compile, Node.wrap, List.reverse_append, Node.wrapAll_append, same]
  rw [enchain, enchain, callable]

/-- The same behind nodes, where what follows protects none of them. -/
theorem sequel_exchange (detached : Detached rest) {a b : List (Node ρ σ)}
    (same : ∀ feed, Node.wrapAll feed a.reverse = Node.wrapAll feed b.reverse)
    (below : List (Node ρ σ)) :
    sequel r owner direction (a ++ below) rest >>= enchain =
      sequel r owner direction (b ++ below) rest >>= enchain := by
  rw [sequel_behind detached (a ++ below), sequel_behind detached (b ++ below), map_eq_pure_bind,
    map_eq_pure_bind]
  simp only [bind_assoc, pure_bind, enchain_exchange same]

/-- A node may be exchanged for another in front of any declarations. The induction is on the
protections that they start with, each of which works on the node before it. -/
theorem sequel_exchange_last {last other : Node ρ σ}
    (same : ∀ feed, last.wrap feed = other.wrap feed) (below : List (Node ρ σ))
    (rest : List (Declaration ρ σ)) :
    sequel r owner direction (last :: below) rest >>= enchain =
      sequel r owner direction (other :: below) rest >>= enchain := by
  have threads (a b : Node ρ σ) (same : ∀ feed, a.wrap feed = b.wrap feed) (feed : Callable ρ σ) :
      Node.wrapAll feed [a].reverse = Node.wrapAll feed [b].reverse := by
    simp only [List.reverse_singleton, Node.wrapAll, same]
  induction rest generalizing last other with
  | nil => exact sequel_exchange detached_nil (threads last other same) below
  | cons d rest ih =>
    cases d with
    | node | group =>
      exact sequel_exchange (detached_cons.mpr (by simp)) (threads last other same) below
    | failTo fallback handler =>
      rw [sequel_cons, sequel_cons]
      simp only [entry, recoverLast, bind_assoc, pure_bind]
      refine bind_congr fun _ => ih fun feed => ?_
      simp only [Node.fresh, Node.wrap, Node.wrapAll, same]

/-- One item makes one node. -/
theorem sequel_single (item : Skips (.exactly 1) 0 ds ds.length) {nodes : List (Node ρ σ)}
    {w w' : Workspace ρ σ} (made : sequel r owner direction [] ds w = (.ok nodes, w')) :
    ∃ node, nodes = [node] := by
  have looped : loop r owner direction (.exactly 1) "" 0 [] [] ds w =
      (.ok (nodes, ds.length), w') := by
    rw [loop_whole item rfl, map_eq_pure_bind]
    exact bind_eq_ok.mpr ⟨nodes, w', made, rfl⟩
  have walk := compiles_of_consume (Nat.lt_succ_self _) (unlocated_eq_ok.mp looped)
  exact List.length_eq_one_iff.mp (walk.slots rfl)

section Recover

variable {before node : List (Declaration ρ σ)} {fallback : Arg} {handler : Option (Handler ρ σ)}
  (outer : Standalone r owner direction before) (guarded : Standalone r owner direction node)
  (item : Skips (.exactly 1) 0 node node.length)

include outer guarded in
/-- A protection that is declared behind its node. -/
theorem compileAll_failTo (rest : List (Declaration ρ σ)) :
    compileAll r (before ++ node ++ .failTo fallback handler :: rest) owner direction =
      sequel r owner direction [] before >>= fun done =>
      sequel r owner direction [] node >>= fun nodes =>
      demand (handlerDefect? handler owner "FailTo") >>= fun _ =>
      recoverLast fallback handler (nodes ++ done) >>= fun made =>
      sequel r owner direction made rest >>= enchain := by
  rw [compileAll_eq_sequel, List.append_assoc, sequel_append outer.walk rfl outer.counted,
    bind_assoc]
  refine bind_congr fun done => ?_
  rw [sequel_append guarded.walk rfl guarded.counted, sequel_behind guarded.detached,
    map_eq_pure_bind]
  simp only [bind_assoc, pure_bind, sequel_cons, entry, List.drop_zero]

include outer guarded item in
/-- A protection that is declared in front of its node. -/
theorem compileAll_failNextTo (rest : List (Declaration ρ σ)) :
    compileAll r (before ++ .group (.failNextTo fallback handler (some 1)) :: (node ++ rest)) owner
        direction =
      sequel r owner direction [] before >>= fun done =>
      demand (handlerDefect? handler owner "FailNextTo") >>= fun _ =>
      sequel r owner direction [] node >>= fun nodes =>
      sequel r owner direction
        (.fresh "FailNextTo" nodes.reverse (.recover fallback handler) :: done) rest >>=
        enchain := by
  rw [compileAll_eq_sequel, sequel_append outer.walk rfl outer.counted, bind_assoc]
  refine bind_congr fun done => ?_
  let g : Grouping ρ σ := .failNextTo fallback handler (some 1)
  have counted : g.take ≠ .all := by
    change Take.exactly 1 ≠ .all
    exact nofun
  have taken : Skips g.take 0 node node.length := item
  rw [sequel_grouped rfl taken counted guarded.counted]
  simp only [g, join, bind_assoc, pure_bind]
  rfl

omit outer guarded item in
/-- A handler is there or not, whoever asks. -/
theorem handlerDefect?_relabel (label label' : String) :
    handlerDefect? handler owner label = none ↔ handlerDefect? handler owner label' = none := by
  unfold handlerDefect?
  split
  · split <;> simp
  · simp

include outer guarded item in
/-- A protection behind one item and a protection in front of it are the same, whatever comes before
the item and behind it. With the one the list compiles from a workspace if and only if it does with
the other, to the same callable and with the same things resolved, constructed and booted. -/
theorem compileAll_failTo_iff (rest : List (Declaration ρ σ)) (w : Workspace ρ σ)
    (made : Compiled ρ σ) (w' : Workspace ρ σ) :
    compileAll r (before ++ node ++ .failTo fallback handler :: rest) owner direction w =
        (.ok made, w') ↔
      compileAll r (before ++ .group (.failNextTo fallback handler (some 1)) :: (node ++ rest))
        owner direction w = (.ok made, w') := by
  rw [compileAll_failTo outer guarded, compileAll_failNextTo outer guarded item]
  cases missing : handlerDefect? handler owner "FailTo" with
  | none =>
    rw [(handlerDefect?_relabel _ _).mp missing]
    simp only [demand, pure_bind]
    refine iff_of_eq (congrArg (· = _) (congrFun (bind_congr fun done => ?_) w))
    refine bind_congr_of_ok fun v nodes v' single => ?_
    obtain ⟨last, rfl⟩ := sequel_single item single
    simp only [List.singleton_append, recoverLast, pure_bind, List.reverse_singleton]
    -- The two protections differ in their names only.
    refine sequel_exchange_last (fun feed => ?_) done rest
    simp only [Node.fresh, Node.wrap]
  | some m =>
    have there : handlerDefect? handler owner "FailNextTo" ≠ none := by
      rw [ne_eq, handlerDefect?_relabel _ "FailTo", missing]
      simp
    obtain ⟨m', missing'⟩ := Option.ne_none_iff_exists'.mp there
    rw [missing']
    constructor
    · intro h
      obtain ⟨done, w₁, -, h⟩ := bind_eq_ok.mp h
      obtain ⟨nodes, w₂, -, h⟩ := bind_eq_ok.mp h
      obtain ⟨⟨⟩, w₃, h, -⟩ := bind_eq_ok.mp h
      cases h
    · intro h
      obtain ⟨done, w₁, -, h⟩ := bind_eq_ok.mp h
      obtain ⟨⟨⟩, w₂, h, -⟩ := bind_eq_ok.mp h
      cases h

end Recover

/-- The item is a group, and behind the protection stands another. -/
theorem compileAll_failTo_iff_each :
    let echo : Resolver Scripted.Form Scripted.Desk :=
      { fallback := some fun _ _ _ => pure (some (.callable fun v _ _ => pure v)) }
    let request : Request Scripted.Form Scripted.Desk := { identity := .named "Echo" }
    let before : List (Declaration Scripted.Form Scripted.Desk) := [.node request]
    let node : List (Declaration Scripted.Form Scripted.Desk) :=
      [.group (.each (some 1)), .node request]
    let rest : List (Declaration Scripted.Form Scripted.Desk) :=
      [.failTo .null none, .node request]
    let handler : Handler Scripted.Form Scripted.Desk := .function fun f => pure f.value
    Standalone echo {} .inbound before ∧ Standalone echo {} .inbound node ∧
      Skips (.exactly 1) 0 node node.length ∧ ∃ made w',
      compileAll echo (before ++ node ++ .failTo (.int 0) (some handler) :: rest) {} .inbound
        { run := { app := {} } } = (.ok made, w') ∧
      compileAll echo
        (before ++ .group (.failNextTo (.int 0) (some handler) (some 1)) :: (node ++ rest)) {}
        .inbound { run := { app := {} } } = (.ok made, w') := by
  intro echo request before node rest handler
  have resolves (w) : ∃ l w', echo.resolve (.node request) {} w = (.ok l, w') :=
    Resolver.resolve_callable rfl rfl rfl rfl (fun _ => rfl) w
  obtain ⟨l, w, hl⟩ := resolves { run := { app := {} } }
  obtain ⟨l', w', hl'⟩ := resolves w
  obtain ⟨l'', w'', hl''⟩ := resolves w'
  have leaf : Compiles echo {} .inbound .all 0 [] before _ [.leaf l] _ w :=
    .node (by simp) hl (.atEnd 1 _ _)
  have element (ds) : Compiles echo {} .inbound (.exactly 1) 0 [] (.node request :: ds) w
      [.leaf l'] _ w' :=
    .node (by simp) hl' (.full 1 _ _ _)
  let each : Node Scripted.Form Scripted.Desk := .fresh "Each" [.leaf l'] .each
  have alone : Compiles echo {} .inbound .all 0 [] node w [each] _ w' :=
    .active (by simp) rfl rfl (element []) rfl (.atEnd 1 _ _)
  have outer : Standalone echo {} .inbound before := by
    refine ⟨?_, _, _, _, compileAll_eq_ok.mpr ⟨[_], _, w, leaf, rfl, rfl⟩⟩
    simp [before, AllCounted, Declaration.take]
  have guarded : Standalone echo {} .inbound node := by
    refine ⟨?_, _, _, _, compileAll_eq_ok.mpr ⟨[_], _, w', alone, rfl, rfl⟩⟩
    simp [node, AllCounted, Declaration.take, Grouping.take, Take.ofCount]
  have one : Compiles echo {} .inbound (.exactly 1) 0 [] node w [each] _ w' :=
    .active (by simp) rfl rfl (element []) rfl (.full 1 _ _ _)
  have item : Skips (.exactly 1) 0 node node.length := one.skips
  have whole : Compiles echo {} .inbound .all 0 []
      (before ++ node ++ .failTo (.int 0) (some handler) :: rest) { run := { app := {} } } _ _
        w'' :=
    .node (by simp) hl (.active (by simp) rfl rfl (element _) rfl
      (.failTo (by simp) rfl (.failTo (by simp) rfl (.node (by simp) hl'' (.atEnd 3 _ _)))))
  have postfix_ := compileAll_eq_ok.mpr ⟨[_, _, _], _, w'', whole, rfl, rfl⟩
  exact ⟨outer, guarded, item, _, _, postfix_,
    (compileAll_failTo_iff outer guarded item rest _ _ _).mp postfix_⟩

end Chain

end FieldPipeline
