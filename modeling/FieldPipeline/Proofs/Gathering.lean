import FieldPipeline.Proofs.Breaking
import FieldPipeline.Proofs.Skipping
import FieldPipeline.Proofs.Turns
import Mathlib.Data.List.Induction

namespace FieldPipeline

open Outcome

variable {ρ σ : Type}

namespace Table

variable {κ α : Type} [DecidableEq κ]

theorem ofPairs_concat (pairs : List (κ × α)) (key : κ) (a : α) :
    ofPairs (pairs ++ [(key, a)]) = put key a (ofPairs pairs) := by
  rw [ofPairs, List.foldl_append]
  rfl

/-- An old key keeps its place. -/
theorem keys_put_of_mem {key : κ} {t : Table κ α} (old : key ∈ keys t) (a : α) :
    keys (put key a t) = keys t := by
  induction t with
  | nil => cases old
  | cons p rest ih =>
    obtain ⟨k, b⟩ := p
    by_cases same : k = key
    · rw [put, if_pos same]
      rfl
    · have inside : key ∈ keys rest := (List.mem_cons.mp old).resolve_left (Ne.symm same)
      rw [put, if_neg same]
      exact congrArg (k :: ·) (ih inside)

/-- A new key comes last. -/
theorem put_of_notMem {key : κ} {t : Table κ α} (new : key ∉ keys t) (a : α) :
    put key a t = t ++ [(key, a)] := by
  induction t with
  | nil => rfl
  | cons p rest ih =>
    obtain ⟨k, b⟩ := p
    obtain ⟨apart, others⟩ := List.ne_and_not_mem_of_not_mem_cons new
    rw [put, if_neg (Ne.symm apart), ih others, List.cons_append]

omit [DecidableEq κ] in
@[simp] theorem keys_append (t others : Table κ α) : keys (t ++ others) = keys t ++ keys others :=
  List.map_append

/-- The keys stand in the order in which they come up first. -/
theorem keys_ofPairs (pairs : List (κ × α)) : keys (ofPairs pairs) = (keys pairs).eraseDups := by
  induction pairs using List.reverseRecOn with
  | nil => rfl
  | append_singleton pairs p ih =>
    obtain ⟨key, a⟩ := p
    have there : key ∈ keys (ofPairs pairs) ↔ key ∈ keys pairs := by rw [ih, List.mem_eraseDups]
    rw [ofPairs_concat, keys_append, List.eraseDups_append, ← ih]
    by_cases old : key ∈ keys pairs
    · have known : [key].removeAll (keys pairs) = [] := by simp [List.removeAll, old]
      rw [keys_put_of_mem (there.mpr old)]
      change _ = _ ++ ([key].removeAll (keys pairs)).eraseDups
      rw [known, List.eraseDups_nil, List.append_nil]
    · have fresh : [key].removeAll (keys pairs) = [key] := by simp [List.removeAll, old]
      rw [put_of_notMem (mt there.mp old), keys_append]
      change _ = _ ++ ([key].removeAll (keys pairs)).eraseDups
      rw [fresh]
      rfl

/-- Distinct keys keep their pairs. -/
theorem ofPairs_of_nodup {pairs : List (κ × α)} (distinct : (keys pairs).Nodup) :
    ofPairs pairs = pairs := by
  induction pairs using List.reverseRecOn with
  | nil => rfl
  | append_singleton pairs p ih =>
    obtain ⟨key, a⟩ := p
    rw [keys_append] at distinct
    obtain ⟨before, -, apart⟩ := List.nodup_append.mp distinct
    have new : key ∉ keys pairs := fun old => apart key old key (List.mem_singleton_self key) rfl
    rw [ofPairs_concat, ih before, put_of_notMem new]

/-- The value of a key is the one behind which the key does not come up again. -/
theorem get?_ofPairs_last {pairs : List (κ × α)} {i : Nat} {key : κ} {a : α}
    (there : pairs[i]? = some (key, a)) (last : ∀ j, i < j → (keys pairs)[j]? ≠ some key) :
    get? key (ofPairs pairs) = some a := by
  induction pairs using List.reverseRecOn with
  | nil => cases there
  | append_singleton pairs p ih =>
    obtain ⟨k, b⟩ := p
    have bound : i < pairs.length + 1 := by simpa using (List.getElem?_eq_some_iff.mp there).1
    have final : (keys (pairs ++ [(k, b)]))[pairs.length]? = some k := by simp [keys]
    rw [ofPairs_concat, get?_put]
    -- Either the last pair is the one, or it has another key and puts nothing under this one.
    rcases Nat.lt_succ_iff_lt_or_eq.mp bound with inside | rfl
    · have apart : key ≠ k := fun same => last _ inside (same ▸ final)
      rw [List.getElem?_append_left inside] at there
      rw [if_neg apart]
      refine ih there fun j behind found => last j behind ?_
      rw [keys_append, List.getElem?_append_left (List.getElem?_eq_some_iff.mp found).1]
      exact found
    · rw [List.getElem?_concat_length] at there
      cases there
      exact if_pos rfl

end Table

namespace Node

/-- A composite that gathers under labels has one for each child. -/
def Labelled (root : Node ρ σ) : Prop :=
  ∀ name children labels made,
    .composite name children (.collect (some labels)) made ∈ root.parts →
    labels.length = children.length

theorem labelled_leaf (l : Leaf ρ σ) : (leaf l).Labelled := by
  intro name children labels made part
  cases List.mem_singleton.mp part

theorem labelled_fresh {name : String} {children : List (Node ρ σ)} {strategy : Strategy ρ σ}
    (inner : ∀ child ∈ children, child.Labelled)
    (own : ∀ labels, strategy = .collect (some labels) → labels.length = children.length) :
    (fresh name children strategy).Labelled := by
  intro name' children' labels made part
  rcases List.mem_cons.mp part with same | inside
  · cases same
    exact own labels rfl
  · obtain ⟨child, mem, inside⟩ := mem_partsOf.mp inside
    exact inner child mem _ _ _ _ inside

end Node

namespace Chain

variable [Record ρ σ] {r : Resolver ρ σ} {owner : ρ} {direction : Direction} {take : Take}
  {taken used : Nat} {done done' : List (Node ρ σ)} {ds : List (Declaration ρ σ)}
  {w w' : Workspace ρ σ}

theorem join_labels {g : Grouping ρ σ} {children : List (Node ρ σ)} {node : Node ρ σ}
    (h : join r owner g children w = (.ok node, w')) :
    ∃ name strategy, node = .fresh name children strategy ∧
      ∀ labels, strategy = .collect (some labels) → g.take = .exactly labels.length := by
  cases g with
  | when condition negate count otherwise =>
    obtain ⟨predicate, w₁, -, e⟩ := bind_eq_ok.mp h
    cases e
    exact ⟨_, _, rfl, nofun⟩
  | collect shape =>
    cases shape with
    | count n =>
      cases h
      exact ⟨_, _, rfl, nofun⟩
    | labels names =>
      cases h
      refine ⟨_, _, rfl, ?_⟩
      rintro labels ⟨⟩
      rfl
  | _ =>
    cases h
    exact ⟨_, _, rfl, nofun⟩

theorem Compiles.labelled (h : Compiles r owner direction take taken done ds w done' used w')
    (before : ∀ node ∈ done, node.Labelled) : ∀ node ∈ done', node.Labelled := by
  induction h with
  | full | atEnd => exact before
  | node open_ resolved after ih =>
    exact ih (List.forall_mem_cons.mpr ⟨Node.labelled_leaf _, before⟩)
  | failTo open_ handled after ih =>
    obtain ⟨last, before⟩ := List.forall_mem_cons.mp before
    refine ih (List.forall_mem_cons.mpr ⟨Node.labelled_fresh ?_ nofun, before⟩)
    exact List.forall_mem_singleton.mpr last
  | active open_ switched opened body joined after ihb iha =>
    obtain ⟨name, strategy, rfl, counted⟩ := join_labels joined
    have inner := ihb nofun
    refine iha (List.forall_mem_cons.mpr ⟨?_, before⟩)
    refine Node.labelled_fresh (fun node mem => inner node (List.mem_reverse.mp mem)) ?_
    intro labels gathered
    have slots := body.slots (counted labels gathered)
    simpa using slots.symm
  | inactive open_ switched body after ih =>
    exact ih (List.forall_mem_cons.mpr ⟨Node.labelled_fresh nofun nofun, before⟩)

end Chain

variable [Record ρ σ]

theorem Node.Built.labelled {root : Node ρ σ} (h : root.Built) : root.Labelled := by
  obtain ⟨r, q, q', owner, direction, take, w, w', built⟩ := h
  obtain ⟨children, used, walk, rfl, -⟩ := Chain.compile_eq_ok.mp built
  have inner := walk.labelled nofun
  exact labelled_fresh (fun node mem => inner node (List.mem_reverse.mpr mem)) nofun

namespace Node

/-- Wherever a group stands in a compiled pipeline that runs all its children on one input, and
whatever it is fed with: the children run on that value, one after the other. The first fault of a
child is the fault of the group, and no child behind it is run. If all children succeed, the group
yields the value itself, the list of the outputs, or an object: its keys are the labels in the order
in which they come up first, and each has the output of the last child with that label. -/
theorem gathers_one_input {root : Node ρ σ} (built : root.Built) {name : String}
    {children : List (Node ρ σ)} {strategy : Strategy ρ σ} {made : Option (Callable ρ σ)}
    (part : .composite name children strategy made ∈ root.parts)
    (kind : strategy = .allOf ∨ ∃ labels, strategy = .collect labels) {feed : Callable ρ σ}
    {v input : Value} {scope : Scope ρ} {s t : RunState σ}
    (fed : feed v scope s = (.ok input, t)) :
    let group : Node ρ σ := .composite name children strategy made
    (∀ outs asked s', Succeeding (children.map (·.turn input scope)) t outs asked s' →
      group.answers input scope t = asked ∧ outs.length = children.length ∧
      ∃ out, group.wrap feed v scope s = (.ok out, s') ∧
        (strategy = .allOf → out = input) ∧
        (strategy = .collect none → out = .array outs) ∧
        ∀ labels, strategy = .collect (some labels) → labels.length = children.length ∧
          ∃ fields, out = .object fields ∧ Table.keys fields = labels.eraseDups ∧
            (∀ (i : Nat) label output, labels[i]? = some label → outs[i]? = some output →
              (∀ j, i < j → labels[j]? ≠ some label) → Table.get? label fields = some output) ∧
            (labels.Nodup → fields = labels.zip outs)) ∧
    (∀ before child after outs asked t' fault s', children = before ++ child :: after →
      Succeeding (before.map (·.turn input scope)) t outs asked t' →
      child.compile input scope t' = (.error fault, s') →
      group.answers input scope t = asked ++ child.answers input scope t' ∧
        group.wrap feed v scope s = (.error fault, s')) ∧
    ((∃ outs asked s', Succeeding (children.map (·.turn input scope)) t outs asked s') ∨
      ∃ before child after outs asked t' fault s', children = before ++ child :: after ∧
        Succeeding (before.map (·.turn input scope)) t outs asked t' ∧
        child.compile input scope t' = (.error fault, s')) := by
  intro group
  obtain ⟨rfl, fresh_⟩ := built.composite part
  have runs : group.wrap feed v scope s = (fresh name children strategy).compile input scope t :=
    wrap_fed (isFresh_fresh.mpr fresh_) fed
  have gathers : strategy.Gathers children.length := by
    rcases kind with rfl | ⟨_ | labels, rfl⟩
    · trivial
    · trivial
    · exact built.labelled name children labels none part
  refine ⟨?_, ?_, ?_⟩
  · intro outs asked s' succeeded
    have length : outs.length = children.length := by simpa using succeeded.length_eq
    obtain ⟨run, answered⟩ := gathers_ok fresh_ gathers succeeded
    refine ⟨answered, length, _, runs.trans run, ?_, ?_, ?_⟩
    · rintro rfl
      rfl
    · rintro rfl
      rfl
    · rintro labels rfl
      have labelled : labels.length = children.length := gathers
      have keys : Table.keys (labels.zip outs) = labels :=
        List.map_fst_zip (Nat.le_of_eq (labelled.trans length.symm))
      refine ⟨labelled, _, rfl, ?_, ?_, ?_⟩
      · rw [Table.keys_ofPairs, keys]
      · intro i label output marked yielded last
        rw [← keys] at last
        exact Table.get?_ofPairs_last (List.getElem?_zip_eq_some.mpr ⟨marked, yielded⟩) last
      · intro distinct
        rw [← keys] at distinct
        exact Table.ofPairs_of_nodup distinct
  · rintro before child after outs asked t' fault s' rfl succeeded failed
    obtain ⟨run, answered⟩ := gathers_error fresh_ gathers succeeded failed
    exact ⟨answered, runs.trans run⟩
  · exact InTurn.total_ok (fun child : Node ρ σ => child.turn input scope) children t

/-- Two empty sub-chains and a step, under two labels. -/
theorem gathers_one_input_labels :
    let tag : Transformer Scripted.Form Scripted.Desk :=
      { name := "Tag", apply := fun v _ _ => pure (.array [v]) }
    let ds : List (Declaration Scripted.Form Scripted.Desk) :=
      [.group (.collect (.labels ["x", "y", "x"])), .group (.wrap (some 0)),
        .group (.wrap (some 0)), .node { identity := .given "t" tag }]
    let scope : Scope Scripted.Form :=
      { record := {}, context := .null, direction := .inbound, tracePaths := false }
    ∃ root q' w',
      Chain.compile {} ⟨ds, 0⟩ {} .inbound .all { run := { app := {} } } = ((.ok root, q'), w') ∧
      ∃ group ∈ root.parts, ∃ fields,
        group.wrap .identity .null scope { app := {} } = (.ok (.object fields), { app := {} }) ∧
        Table.keys fields = ["x", "y"] ∧
        Table.get? "x" fields = some (.array [.null]) ∧ Table.get? "y" fields = some .null := by
  intro tag ds scope
  obtain ⟨l, w₁, resolved, runs⟩ : ∃ l w₁,
      Resolver.resolve {} (.node { identity := .given "t" tag }) ({} : Scripted.Form)
        { run := { app := {} } } = (.ok l, w₁) ∧
      l.step.run = Callable.asNode "Tag" fun v scope => tag.apply v [] scope :=
    ⟨_, _, rfl, rfl⟩
  let empty : Node Scripted.Form Scripted.Desk := .fresh "Wrap" [] .pipe
  let group : Node Scripted.Form Scripted.Desk :=
    .fresh "Collect" [empty, empty, .leaf l] (.collect (some ["x", "y", "x"]))
  have inside : Chain.Compiles {} ({} : Scripted.Form) .inbound (.exactly 3) 0 [] (ds.drop 1)
      { run := { app := {} } } [.leaf l, empty, empty] _ w₁ :=
    .active (by decide) rfl rfl (.full 0 _ _ _) rfl
      (.active (by decide) rfl rfl (.full 0 _ _ _) rfl (.node (by decide) resolved (.full 3 _ _ _)))
  have walk : Chain.Compiles {} ({} : Scripted.Form) .inbound .all 0 [] ds
      { run := { app := {} } } [group] _ w₁ :=
    .active nofun rfl rfl inside rfl (.atEnd 1 _ _)
  have compiled : Chain.compile {} ⟨ds, 0⟩ ({} : Scripted.Form) .inbound .all
      { run := { app := {} } } = ((.ok (chain [group]), _), w₁) :=
    Chain.compile_eq_ok.mpr ⟨[_], _, walk, rfl, rfl⟩
  have built : (chain [group]).Built := ⟨_, _, _, _, _, _, _, _, compiled⟩
  have part : group ∈ (chain [group]).parts := by
    simp [chain, group, fresh, parts, partsOf]
  have fed : Callable.identity .null scope ({ app := {} } : RunState Scripted.Desk) =
      (.ok .null, { app := {} }) := rfl
  obtain ⟨gathered, -, -⟩ := gathers_one_input built part (.inr ⟨_, rfl⟩) fed
  have ran : (Node.leaf l).compile .null scope ({ app := {} } : RunState Scripted.Desk) =
      (.ok (.array [.null]), { app := {} }) := by
    change l.step.run .null scope _ = _
    rw [runs]
    rfl
  have succeeded : Succeeding ([empty, empty, .leaf l].map (·.turn .null scope)) { app := {} }
      [.null, .null, .array [.null]] _ { app := {} } :=
    .cons rfl (.cons rfl (.cons ran (.nil _)))
  obtain ⟨-, -, out, ended, -, -, labelled⟩ := gathered _ _ _ succeeded
  obtain ⟨-, fields, rfl, keys, lasts, -⟩ := labelled _ rfl
  refine ⟨_, _, _, compiled, group, part, fields, ended, keys, ?_, ?_⟩
  · refine lasts 2 "x" _ rfl rfl fun j behind => ?_
    rw [List.getElem?_eq_none behind]
    exact (Option.some_ne_none _).symm
  · refine lasts 1 "y" _ rfl rfl fun j behind => ?_
    rcases Nat.eq_or_lt_of_le behind with rfl | beyond
    · simp
    · rw [List.getElem?_eq_none beyond]
      exact (Option.some_ne_none _).symm

end Node

end FieldPipeline
