import FieldPipeline.Proofs.Walk
import FieldPipeline.Scripted.Form
import FieldPipeline.Standard

namespace FieldPipeline

open Outcome

variable {ρ σ : Type}

namespace Callable

theorem andThen_run (first second : Callable ρ σ) (v : Value) (scope : Scope ρ)
    (s : RunState σ) :
    first.andThen second v scope s =
      match first v scope s with
      | (.ok out, s') => second out scope s'
      | (.error fault, s') => (.error fault, s') := by
  change (first v scope >>= fun out => second out scope) s = _
  rw [bind_run]
  rcases first v scope s with ⟨_ | out, s'⟩ <;> rfl

theorem andThen_assoc (first second third : Callable ρ σ) :
    (first.andThen second).andThen third = first.andThen (second.andThen third) := by
  funext v scope
  exact bind_assoc _ _ _

@[simp] theorem identity_andThen (run : Callable ρ σ) : identity.andThen run = run := by
  funext v scope
  exact pure_bind _ _

@[simp] theorem andThen_identity (run : Callable ρ σ) : run.andThen identity = run := by
  funext v scope
  exact bind_pure _

end Callable

namespace Node

mutual

/-- No composite in the tree has been joined. -/
def IsFresh : Node ρ σ → Prop
  | leaf _ => True
  | composite _ children _ made => made = none ∧ AreFresh children

def AreFresh : List (Node ρ σ) → Prop
  | [] => True
  | child :: rest => child.IsFresh ∧ AreFresh rest

end

theorem areFresh_iff {nodes : List (Node ρ σ)} :
    AreFresh nodes ↔ ∀ node ∈ nodes, node.IsFresh := by
  induction nodes with
  | nil => simp [AreFresh]
  | cons node rest ih => simp [AreFresh, ih]

@[simp] theorem isFresh_fresh {name : String} {children : List (Node ρ σ)}
    {strategy : Strategy ρ σ} :
    (fresh name children strategy).IsFresh ↔ AreFresh children := by
  simp [fresh, IsFresh]

mutual

/-- All nodes of a tree, each before its children. -/
def parts : Node ρ σ → List (Node ρ σ)
  | leaf l => [leaf l]
  | composite name children strategy made =>
    composite name children strategy made :: partsOf children

def partsOf : List (Node ρ σ) → List (Node ρ σ)
  | [] => []
  | child :: rest => child.parts ++ partsOf rest

end

theorem mem_parts_self (node : Node ρ σ) : node ∈ node.parts := by
  cases node <;> simp [parts]

mutual

theorem isFresh_of_mem_parts {node : Node ρ σ} (h : node.IsFresh) :
    ∀ part ∈ node.parts, part.IsFresh := by
  cases node with
  | leaf l => simpa [parts] using h
  | composite name children strategy made =>
    intro part hp
    rcases List.mem_cons.mp hp with rfl | hp
    · exact h
    · exact isFresh_of_mem_partsOf h.2 part hp

theorem isFresh_of_mem_partsOf {nodes : List (Node ρ σ)} (h : AreFresh nodes) :
    ∀ part ∈ partsOf nodes, part.IsFresh := by
  cases nodes with
  | nil => simp [partsOf]
  | cons node rest =>
    intro part hp
    rcases List.mem_append.mp hp with hp | hp
    · exact isFresh_of_mem_parts h.1 part hp
    · exact isFresh_of_mem_partsOf h.2 part hp

end

section Wrap

variable [Record ρ σ]

mutual

/-- The feed of a node that has not been joined runs first; the node sees its output only. -/
theorem wrap_eq_andThen {node : Node ρ σ} (h : node.IsFresh) (feed : Callable ρ σ) :
    node.wrap feed = feed.andThen node.compile := by
  cases node with
  | leaf l => rw [compile, wrap, wrap, Callable.identity_andThen]
  | composite name children strategy made =>
    obtain ⟨rfl, hc⟩ := h
    cases strategy with
    | pipe =>
      rw [compile, wrap, wrap]
      exact wrapAll_eq_andThen hc feed
    -- The other strategies join their children apart from the feed.
    | _ => rw [compile, wrap, wrap, Callable.identity_andThen]

theorem wrapAll_eq_andThen {nodes : List (Node ρ σ)} (h : AreFresh nodes)
    (feed : Callable ρ σ) :
    wrapAll feed nodes = feed.andThen (wrapAll .identity nodes) := by
  cases nodes with
  | nil => simp [wrapAll]
  | cons node rest =>
    calc wrapAll feed (node :: rest)
        = wrapAll (node.wrap feed) rest := by rw [wrapAll]
      _ = (feed.andThen node.compile).andThen (wrapAll .identity rest) := by
          rw [wrapAll_eq_andThen h.2, wrap_eq_andThen h.1]
      _ = feed.andThen (wrapAll (node.wrap .identity) rest) := by
          rw [Callable.andThen_assoc, ← compile, ← wrapAll_eq_andThen h.2]
      _ = feed.andThen (wrapAll .identity (node :: rest)) := by rw [wrapAll]

end

mutual

/-- The callable that joining a node under `feed` yields, and the node with every memo that is
filled on the way. -/
def settle (feed : Callable ρ σ) : Node ρ σ → Callable ρ σ × Node ρ σ
  | leaf l => (feed.andThen l.step.run, leaf l)
  | composite name children strategy (some run) =>
    (run, composite name children strategy (some run))
  | composite name children strategy none =>
    let (run, children) :=
      match strategy with
      | .pipe => settleAll feed children
      | .each => (settleAll .identity children).map (feed.andThen <| Strategy.runEach ·) id
      | .collect labels =>
        (settleEach children).map (feed.andThen <| Strategy.runCollect labels ·) id
      | .firstSuccess =>
        (settleEach children).map (feed.andThen <| Strategy.runFirstSuccess ·) id
      | .allOf => (settleEach children).map (feed.andThen <| Strategy.runAllOf ·) id
      | .conditional predicate negate otherwise =>
        (settleAll .identity children).map
          (feed.andThen <| Strategy.runConditional predicate negate otherwise ·) id
      | .recover fallback handler =>
        (settleAll .identity children).map
          (feed.andThen <| Strategy.runRecover fallback handler ·) id
      | .replaceTemplate template pairs =>
        (settleAll .identity children).map
          (feed.andThen <| Strategy.runReplaceTemplate template pairs ·) id
    (run, composite name children strategy (some run))

/-- Each node is fed by the callable of those before it. -/
def settleAll (feed : Callable ρ σ) : List (Node ρ σ) → Callable ρ σ × List (Node ρ σ)
  | [] => (feed, [])
  | node :: rest =>
    let (run, node) := node.settle feed
    let (run, rest) := settleAll run rest
    (run, node :: rest)

/-- Each node starts on its own. -/
def settleEach : List (Node ρ σ) → List (Callable ρ σ) × List (Node ρ σ)
  | [] => ([], [])
  | node :: rest =>
    let (run, node) := node.settle .identity
    let (runs, rest) := settleEach rest
    (run :: runs, node :: rest)

end

mutual

/-- The tree without its memos. -/
def bare : Node ρ σ → Node ρ σ
  | leaf l => leaf l
  | composite name children strategy _ => composite name (bareAll children) strategy none

def bareAll : List (Node ρ σ) → List (Node ρ σ)
  | [] => []
  | node :: rest => node.bare :: bareAll rest

end

mutual

/-- Every memo in the tree is the callable of the position it is kept at: what comes before the
composite there, and then a composite of the same kind that has not been joined. -/
def Placed (feed : Callable ρ σ) : Node ρ σ → Prop
  | leaf _ => True
  | composite name children strategy made =>
    made = some (feed.andThen (fresh name (bareAll children) strategy).compile) ∧
      match strategy with
      | .pipe => PlacedAll feed children
      | .collect _ | .firstSuccess | .allOf => PlacedEach children
      | _ => PlacedAll .identity children

def PlacedAll (feed : Callable ρ σ) : List (Node ρ σ) → Prop
  | [] => True
  | node :: rest => node.Placed feed ∧ PlacedAll (feed.andThen node.bare.compile) rest

def PlacedEach : List (Node ρ σ) → Prop
  | [] => True
  | node :: rest => node.Placed .identity ∧ PlacedEach rest

end

mutual

/-- Filling memos changes no callable: no node is joined twice. -/
@[simp] theorem settle_fst (feed : Callable ρ σ) (node : Node ρ σ) :
    (node.settle feed).1 = node.wrap feed := by
  cases node with
  | leaf l => rw [settle, wrap]
  | composite name children strategy made =>
    cases made with
    | some run => rw [settle, wrap]
    | none =>
      cases strategy <;>
        simp only [settle, wrap, Prod.map_fst, settleAll_fst, settleEach_fst]

@[simp] theorem settleAll_fst (feed : Callable ρ σ) (nodes : List (Node ρ σ)) :
    (settleAll feed nodes).1 = wrapAll feed nodes := by
  cases nodes with
  | nil => rw [settleAll, wrapAll]
  | cons node rest => simp only [settleAll, wrapAll, settle_fst, settleAll_fst]

@[simp] theorem settleEach_fst (nodes : List (Node ρ σ)) :
    (settleEach nodes).1 = branches nodes := by
  cases nodes with
  | nil => rw [settleEach, branches]
  | cons node rest => simp only [settleEach, branches, settle_fst, settleEach_fst]

end

mutual

theorem settle_bare {node : Node ρ σ} (h : node.IsFresh) (feed : Callable ρ σ) :
    (node.settle feed).2.bare = node := by
  cases node with
  | leaf l => rw [settle, bare]
  | composite name children strategy made =>
    obtain ⟨rfl, hc⟩ := h
    cases strategy <;>
      simp only [settle, bare, Prod.map_snd, id, settleAll_bare hc, settleEach_bare hc]

theorem settleAll_bare {nodes : List (Node ρ σ)} (h : AreFresh nodes) (feed : Callable ρ σ) :
    bareAll (settleAll feed nodes).2 = nodes := by
  cases nodes with
  | nil => rw [settleAll, bareAll]
  | cons node rest => simp only [settleAll, bareAll, settle_bare h.1, settleAll_bare h.2]

theorem settleEach_bare {nodes : List (Node ρ σ)} (h : AreFresh nodes) :
    bareAll (settleEach nodes).2 = nodes := by
  cases nodes with
  | nil => rw [settleEach, bareAll]
  | cons node rest => simp only [settleEach, bareAll, settle_bare h.1, settleEach_bare h.2]

end

mutual

theorem settle_placed {node : Node ρ σ} (h : node.IsFresh) (feed : Callable ρ σ) :
    (node.settle feed).2.Placed feed := by
  cases node with
  | leaf l =>
    rw [settle]
    trivial
  | composite name children strategy made =>
    obtain ⟨rfl, hc⟩ := h
    have own : some ((composite name children strategy none).wrap feed) =
        some (feed.andThen (fresh name children strategy).compile) :=
      congrArg some (wrap_eq_andThen (isFresh_fresh.mpr hc) feed)
    cases strategy <;>
      simp only [settle, Placed, Prod.map_fst, Prod.map_snd, id, settleAll_fst, settleEach_fst,
        settleAll_bare hc, settleEach_bare hc]
    case pipe => exact ⟨own, settleAll_placed hc feed⟩
    case collect | firstSuccess | allOf => exact ⟨own, settleEach_placed hc⟩
    all_goals exact ⟨own, settleAll_placed hc .identity⟩

theorem settleAll_placed {nodes : List (Node ρ σ)} (h : AreFresh nodes) (feed : Callable ρ σ) :
    PlacedAll feed (settleAll feed nodes).2 := by
  cases nodes with
  | nil =>
    rw [settleAll]
    trivial
  | cons node rest =>
    simp only [settleAll, PlacedAll, settle_bare h.1, settle_fst, wrap_eq_andThen h.1]
    exact ⟨settle_placed h.1 feed, settleAll_placed h.2 _⟩

theorem settleEach_placed {nodes : List (Node ρ σ)} (h : AreFresh nodes) :
    PlacedEach (settleEach nodes).2 := by
  cases nodes with
  | nil =>
    rw [settleEach]
    trivial
  | cons node rest =>
    simp only [settleEach, PlacedEach]
    exact ⟨settle_placed h.1 .identity, settleEach_placed h.2⟩

end

end Wrap

end Node

namespace Chain

variable [Record ρ σ] {r : Resolver ρ σ} {owner : ρ} {direction : Direction}

theorem Compiles.areFresh {take : Take} {taken used : Nat} {done done' : List (Node ρ σ)}
    {declarations : List (Declaration ρ σ)} {w w' : Workspace ρ σ}
    (h : Compiles r owner direction take taken done declarations w done' used w')
    (hd : Node.AreFresh done) : Node.AreFresh done' := by
  induction h with
  | full | atEnd => exact hd
  | node open_ resolved after ih => exact ih ⟨trivial, hd⟩
  | failTo open_ handled after ih =>
    obtain ⟨hl, hb⟩ := hd
    exact ih ⟨Node.isFresh_fresh.mpr ⟨hl, trivial⟩, hb⟩
  | active open_ switched opened body joined after ihb iha =>
    obtain ⟨name, strategy, -, rfl⟩ := join_eq_ok joined
    have inner := Node.areFresh_iff.mp (ihb trivial)
    refine iha ⟨Node.isFresh_fresh.mpr (Node.areFresh_iff.mpr fun node hn => ?_), hd⟩
    exact inner node (List.mem_reverse.mp hn)
  | inactive open_ switched body after ih =>
    exact ih ⟨Node.isFresh_fresh.mpr trivial, hd⟩

theorem compile_isFresh {q q' : Queue ρ σ} {take : Take} {root : Node ρ σ}
    {w w' : Workspace ρ σ}
    (h : compile r q owner direction take w = ((.ok root, q'), w')) : root.IsFresh := by
  obtain ⟨children, used, hc, rfl, -⟩ := compile_eq_ok.mp h
  have inner := Node.areFresh_iff.mp (hc.areFresh trivial)
  refine Node.isFresh_fresh.mpr (Node.areFresh_iff.mpr fun node hn => ?_)
  exact inner node (List.mem_reverse.mpr hn)

end Chain

/-- Every node that is compiled runs its feed first: a fault of the feed comes back as it is, and an
output of the feed goes into the node as if the node had been joined with nothing before it. Joining
fills each memo in the tree for its own position, which changes no callable. -/
theorem Node.wrap_threads_feed [Record ρ σ] {r : Resolver ρ σ} {q q' : Queue ρ σ} {owner : ρ}
    {direction : Direction} {take : Take} {root node : Node ρ σ} {w w' : Workspace ρ σ}
    (built : Chain.compile r q owner direction take w = ((.ok root, q'), w'))
    (part : node ∈ root.parts) (feed : Callable ρ σ) :
    (∀ v scope s, node.wrap feed v scope s =
      match feed v scope s with
      | (.ok out, s') => node.compile out scope s'
      | (.error fault, s') => (.error fault, s')) ∧
    (node.settle feed).1 = node.wrap feed ∧
    (node.settle feed).2.Placed feed := by
  have fresh := Node.isFresh_of_mem_parts (Chain.compile_isFresh built) node part
  refine ⟨fun v scope s => ?_, Node.settle_fst feed node, Node.settle_placed fresh feed⟩
  rw [Node.wrap_eq_andThen fresh]
  exact Callable.andThen_run feed node.compile v scope s

/-- A chain that recovers from every rejection of its own lets a rejection of its feed through. -/
theorem Node.wrap_threads_rejection :
    let given : Request Scripted.Form Scripted.Desk :=
      { identity := .given "trim" Standard.trim }
    let early : Rejection := { template := "early" }
    ∃ root q' w',
      Chain.compile {} ⟨[.node given, .failTo .null none], 0⟩ {} .inbound .all
        { run := { app := {} } } = ((.ok root, q'), w') ∧
      root ∈ root.parts ∧
      ∀ v scope s,
        root.wrap (fun _ _ => throw (.rejected early)) v scope s =
          (.error (.rejected early), s) := by
  intro given early
  have resolved : ∃ l w', Resolver.resolve {} (.node given) ({} : Scripted.Form)
      { run := { app := {} } } = (.ok l, w') := ⟨_, _, rfl⟩
  obtain ⟨l, w', resolved⟩ := resolved
  have walk : Chain.Compiles {} ({} : Scripted.Form) .inbound .all 0 []
      [.node given, .failTo .null none] { run := { app := {} } } _ _ w' :=
    .node (by simp) resolved (.failTo (by simp) rfl (.atEnd _ _ _))
  have built : Chain.compile {} ⟨[.node given, .failTo .null none], 0⟩ ({} : Scripted.Form)
      .inbound .all { run := { app := {} } } = ((.ok (.fresh "Chain" [_] .pipe), _), w') :=
    Chain.compile_eq_ok.mpr ⟨[_], _, walk, rfl, rfl⟩
  exact ⟨_, _, w', built, mem_parts_self _,
    (Node.wrap_threads_feed built (mem_parts_self _) _).1⟩

end FieldPipeline
