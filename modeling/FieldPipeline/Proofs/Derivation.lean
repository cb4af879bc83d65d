import FieldPipeline.Proofs.Grammar
import FieldPipeline.Proofs.Recall
import FieldPipeline.Scripted.Form
import Mathlib.Data.List.Forall2

namespace FieldPipeline

variable {ρ σ : Type}

namespace Declaration

/-- What handles the failures that a declaration recovers from. -/
def handler? : Declaration ρ σ → Option (Handler ρ σ)
  | failTo _ handler => handler
  | group (.failNextTo _ handler _) => handler
  | _ => none

end Declaration

namespace Chain

open Outcome

variable [Record ρ σ]

/-- Nothing is missing that a declaration refers to: what it asks for resolves in every safe state
and leaves a safe state, a method that handles its failures exists, and one of its groups is
active. -/
structure Usable (r : Resolver ρ σ) (owner : ρ) (direction : Direction)
    (safe : Workspace ρ σ → Prop) (d : Declaration ρ σ) : Prop where
  resolves : ∀ need ∈ d.requests, ∀ w, safe w →
    ∃ l w', r.resolve need owner w = (.ok l, w') ∧ safe w'
  handled : ∀ name, d.handler? = some (.method name) → (Record.arity? owner name).isSome = true
  active : ∀ names count, d = .group (.groups names count) →
    ∃ name ∈ names, name ∈ Record.activeGroups owner direction

/-- All declarations are usable from a state on, however often they are resolved and in whatever
order. -/
def Ready (r : Resolver ρ σ) (owner : ρ) (direction : Direction) (ds : List (Declaration ρ σ))
    (w : Workspace ρ σ) : Prop :=
  ∃ safe : Workspace ρ σ → Prop, safe w ∧ ∀ d ∈ ds, Usable r owner direction safe d

/-- A node is the tree of an item: a leaf that the request resolves to, a group around the nodes of
its body in order, or a protection around the node before it. Nothing in it has been joined yet. -/
inductive Realizes (r : Resolver ρ σ) (owner : ρ) : Item ρ σ → Node ρ σ → Prop
  | leaf {request : Request ρ σ} {l : Leaf ρ σ} {w w' : Workspace ρ σ}
      (resolved : r.resolve (.node request) owner w = (.ok l, w')) :
      Realizes r owner (.leaf request) (.leaf l)
  | guarded {item : Item ρ σ} {node : Node ρ σ} {fallback : Arg} {handler : Option (Handler ρ σ)}
      (inner : Realizes r owner item node) :
      Realizes r owner (.guarded item fallback handler)
        (.fresh ("FailTo(" ++ node.name ++ ")") [node] (.recover fallback handler))
  | group {g : Grouping ρ σ} {body : List (Item ρ σ)} {children : List (Node ρ σ)}
      {name : String} {strategy : Strategy ρ σ}
      (inner : List.Forall₂ (Realizes r owner) body children)
      (joined : JoinsBy r owner g name strategy) :
      Realizes r owner (.group g body) (.fresh name children strategy)

variable {r : Resolver ρ σ} {owner : ρ} {direction : Direction} {safe : Workspace ρ σ → Prop}

theorem handlerDefect?_eq_none {handler : Option (Handler ρ σ)} {label : String}
    (h : ∀ name, handler = some (.method name) → (Record.arity? owner name).isSome = true) :
    handlerDefect? handler owner label = none := by
  match handler with
  | none => rfl
  | some (.function run) => rfl
  | some (.method name) =>
    have there := h name rfl
    simp [handlerDefect?, Option.isSome_iff_ne_none.mp there]

theorem Usable.isInactive {g : Grouping ρ σ} (h : Usable r owner direction safe (.group g)) :
    isInactive owner direction g = false := by
  cases g with
  | groups names count =>
    obtain ⟨name, hn, ha⟩ := h.active names count rfl
    have some_active : names.any (· ∈ Record.activeGroups owner direction) = true :=
      List.any_eq_true.mpr ⟨name, hn, decide_eq_true ha⟩
    simp only [Chain.isInactive, some_active, Bool.not_true]
  | _ => rfl

theorem Usable.openingDefect? {g : Grouping ρ σ} (h : Usable r owner direction safe (.group g)) :
    openingDefect? owner g = none := by
  cases g with
  | failNextTo fallback handler count => exact handlerDefect?_eq_none h.handled
  | _ => rfl

/-- Joining fails only if a condition does not resolve. -/
theorem Usable.join {g : Grouping ρ σ} (h : Usable r owner direction safe (.group g))
    (children : List (Node ρ σ)) {w : Workspace ρ σ} (hs : safe w) :
    ∃ node w', join r owner g children w = (.ok node, w') ∧ safe w' := by
  cases g with
  | when condition negate count otherwise =>
    obtain ⟨l, w', hl, hs'⟩ := h.resolves condition (by simp [Declaration.requests]) w hs
    exact ⟨_, w', bind_eq_ok.mpr ⟨l, w', hl, rfl⟩, hs'⟩
  | collect shape =>
    cases shape <;> exact ⟨_, w, rfl, hs⟩
  | _ => exact ⟨_, w, rfl, hs⟩

/-- What is compiled was read, and the nodes are those of the items. -/
theorem Compiles.reads {take : Take} {taken used : Nat} {done done' : List (Node ρ σ)}
    {ds : List (Declaration ρ σ)} {w w' : Workspace ρ σ}
    (h : Compiles r owner direction take taken done ds w done' used w')
    (usable : ∀ d ∈ ds, Usable r owner direction safe d) {items : List (Item ρ σ)}
    (made : List.Forall₂ (Realizes r owner) items done) :
    ∃ items', Item.Reads take taken items ds items' used ∧
      List.Forall₂ (Realizes r owner) items' done' := by
  induction h generalizing items with
  | full n done ds w => exact ⟨items, .full n items ds, made⟩
  | atEnd taken done w => exact ⟨items, .atEnd taken items, made⟩
  | node open_ resolved after ih =>
    obtain ⟨items', reads, made'⟩ :=
      ih (fun d hd => usable d (List.mem_cons_of_mem _ hd)) (.cons (.leaf resolved) made)
    exact ⟨items', .node open_ reads, made'⟩
  | failTo open_ handled after ih =>
    cases made with
    | cons first others =>
      obtain ⟨items', reads, made'⟩ :=
        ih (fun d hd => usable d (List.mem_cons_of_mem _ hd)) (.cons (.guarded first) others)
      exact ⟨items', .failTo open_ reads, made'⟩
  | active open_ switched opened body joined after ihb iha =>
    obtain ⟨inside, within, children⟩ :=
      ihb (fun d hd => usable d (List.mem_cons_of_mem _ hd)) .nil
    obtain ⟨name, strategy, joins, rfl⟩ := join_eq_ok joined
    have group := Realizes.group (List.rel_reverse children) joins
    obtain ⟨items', reads, made'⟩ :=
      iha (fun d hd => usable d (List.mem_cons_of_mem _ (List.mem_of_mem_drop hd)))
        (.cons group made)
    exact ⟨items', .group open_ within reads, made'⟩
  | inactive open_ switched body after ih =>
    have active := (usable _ List.mem_cons_self).isInactive
    rw [switched] at active
    cases active

/-- What is read compiles from every safe state. -/
theorem compiles_of_reads {take : Take} {taken used : Nat} {items items' : List (Item ρ σ)}
    {ds : List (Declaration ρ σ)} (h : Item.Reads take taken items ds items' used)
    (usable : ∀ d ∈ ds, Usable r owner direction safe d) {done : List (Node ρ σ)}
    (made : List.Forall₂ (Realizes r owner) items done) {w : Workspace ρ σ} (hs : safe w) :
    ∃ done' w', Compiles r owner direction take taken done ds w done' used w' ∧ safe w' ∧
      List.Forall₂ (Realizes r owner) items' done' := by
  induction h generalizing done w with
  | full n items ds => exact ⟨done, w, .full n done ds w, hs, made⟩
  | atEnd taken items => exact ⟨done, w, .atEnd taken done w, hs, made⟩
  | @node _ _ _ _ _ request _ open_ after ih =>
    obtain ⟨l, w₁, hl, hs₁⟩ :=
      (usable _ List.mem_cons_self).resolves (.node request) List.mem_cons_self w hs
    obtain ⟨done', w', walk, hs', made'⟩ :=
      ih (fun d hd => usable d (List.mem_cons_of_mem _ hd)) (.cons (.leaf hl) made) hs₁
    exact ⟨done', w', .node open_ hl walk, hs', made'⟩
  | @failTo _ _ _ _ _ _ fallback handler _ open_ after ih =>
    have handled : handlerDefect? handler owner "FailTo" = none :=
      handlerDefect?_eq_none (usable (.failTo fallback handler) List.mem_cons_self).handled
    cases made with
    | cons first others =>
      obtain ⟨done', w', walk, hs', made'⟩ :=
        ih (fun d hd => usable d (List.mem_cons_of_mem _ hd)) (.cons (.guarded first) others) hs
      exact ⟨done', w', .failTo open_ handled walk, hs', made'⟩
  | group open_ inner after ihi iha =>
    have own := usable _ List.mem_cons_self
    obtain ⟨children, w₁, body, hs₁, within⟩ :=
      ihi (fun d hd => usable d (List.mem_cons_of_mem _ hd)) .nil hs
    obtain ⟨node, w₂, joined, hs₂⟩ := own.join children.reverse hs₁
    obtain ⟨name, strategy, joins, rfl⟩ := join_eq_ok joined
    have group := Realizes.group (List.rel_reverse within) joins
    obtain ⟨done', w', walk, hs', made'⟩ :=
      iha (fun d hd => usable d (List.mem_cons_of_mem _ (List.mem_of_mem_drop hd)))
        (.cons group made) hs₂
    exact ⟨done', w', .active open_ own.isInactive own.openingDefect? body joined walk, hs',
      made'⟩

/-- A list without gaps compiles if and only if the grammar derives it. The whole list is then one
chain of the trees of its one derivation, whose items written out are the list. -/
theorem compileAll_iff_derives {ds : List (Declaration ρ σ)} {w : Workspace ρ σ}
    (ready : Ready r owner direction ds w) :
    ((∃ made w', compileAll r ds owner direction w = (.ok made, w')) ↔
      ∃ items, Item.Derives items ds) ∧
    ∀ made w', compileAll r ds owner direction w = (.ok made, w') →
      ∃ items children w₁, Item.Derives items ds ∧
        (∀ other, Item.Derives other ds → other = items) ∧
        List.Forall₂ (Realizes r owner) items children ∧
        compile r ⟨ds, 0⟩ owner direction .all w =
          ((.ok (.fresh "Chain" children .pipe), ⟨ds, ds.length⟩), w₁) ∧
        made.run = (Node.fresh "Chain" children .pipe).compile := by
  obtain ⟨safe, hs, usable⟩ := ready
  refine ⟨⟨?_, ?_⟩, ?_⟩
  · rintro ⟨made, w', h⟩
    obtain ⟨children, used, w₁, walk, -, -⟩ := compileAll_eq_ok.mp h
    obtain ⟨items, reads, -⟩ := walk.reads usable .nil
    exact ⟨items.reverse, (Item.reads_all_iff.mp reads).1⟩
  · rintro ⟨items, derived⟩
    rw [← List.reverse_reverse items] at derived
    obtain ⟨done, w₁, walk, -⟩ :=
      compiles_of_reads (Item.reads_all_iff.mpr ⟨derived, rfl⟩) usable .nil hs
    rw [← List.reverse_reverse done] at walk
    exact ⟨_, _, compileAll_eq_ok.mpr ⟨_, _, w₁, walk, rfl, rfl⟩⟩
  · intro made w' h
    obtain ⟨children, used, w₁, walk, rfl, -⟩ := compileAll_eq_ok.mp h
    obtain ⟨items, reads, realized⟩ := walk.reads usable .nil
    obtain ⟨derived, rfl⟩ := Item.reads_all_iff.mp reads
    have tree : compile r ⟨ds, 0⟩ owner direction .all w =
        ((.ok (.fresh "Chain" children .pipe), ⟨ds, ds.length⟩), w₁) :=
      compile_eq_ok.mpr ⟨children, ds.length, walk, rfl, by rw [Nat.zero_add]⟩
    refine ⟨items.reverse, children, w₁, derived, fun other h => h.unique derived, ?_, tree, rfl⟩
    simpa using List.rel_reverse realized

/-- A protection behind a wrapped node belongs to the wrap, also where a last resort makes the
node. -/
theorem compileAll_derives_guarded :
    let echo : Resolver Scripted.Form Scripted.Desk :=
      { fallback := some fun _ _ _ => pure (some (.callable fun v _ _ => pure v)) }
    let request : Request Scripted.Form Scripted.Desk := { identity := .named "Echo" }
    let ds : List (Declaration Scripted.Form Scripted.Desk) :=
      [.group (.wrap (some 1)), .node request, .failTo .null none]
    let w : Workspace Scripted.Form Scripted.Desk := { run := { app := {} } }
    Ready echo {} .inbound ds w ∧
      Item.Derives [.guarded (.group (.wrap (some 1)) [.leaf request]) .null none] ds ∧
      ∃ l w₁, compile echo ⟨ds, 0⟩ {} .inbound .all w =
        ((.ok (.fresh "Chain"
          [.fresh "FailTo(Wrap)" [.fresh "Wrap" [.leaf l] .pipe] (.recover .null none)] .pipe),
          ⟨ds, 3⟩), w₁) := by
  intro echo request ds w
  have resolves (w) : ∃ l w', echo.resolve (.node request) {} w = (.ok l, w') :=
    Resolver.resolve_callable rfl rfl rfl rfl (fun _ => rfl) w
  have ready : Ready echo {} .inbound ds w := by
    refine ⟨fun _ => True, trivial, fun d hd => ?_⟩
    simp only [ds, List.mem_cons, List.not_mem_nil, or_false] at hd
    rcases hd with rfl | rfl | rfl
    · exact ⟨nofun, nofun, nofun⟩
    · refine ⟨fun need hn w _ => ?_, nofun, nofun⟩
      cases List.mem_singleton.mp hn
      obtain ⟨l, w', resolved⟩ := resolves w
      exact ⟨l, w', resolved, trivial⟩
    · exact ⟨nofun, nofun, nofun⟩
  have derived :
      Item.Derives [.guarded (.group (.wrap (some 1)) [.leaf request]) .null none] ds := by
    refine ⟨rfl, ⟨⟨⟨rfl, ?_⟩, trivial, trivial⟩, trivial⟩⟩
    rintro item ⟨⟩
    rfl
  obtain ⟨accepted, builds⟩ := compileAll_iff_derives ready
  obtain ⟨made, w', compiled⟩ := accepted.mpr ⟨_, derived⟩
  obtain ⟨items, children, w₁, -, unique, realized, tree, -⟩ := builds made w' compiled
  obtain rfl := unique _ derived
  obtain ⟨l, rfl⟩ : ∃ l, children =
      [.fresh "FailTo(Wrap)" [.fresh "Wrap" [.leaf l] .pipe] (.recover .null none)] := by
    cases realized with
    | cons first none_ =>
      cases none_
      cases first with
      | guarded inner =>
        cases inner with
        | group inside joined =>
          cases joined
          cases inside with
          | cons leaf none_ =>
            cases none_
            cases leaf with
            | leaf resolved => exact ⟨_, rfl⟩
  exact ⟨ready, derived, l, w₁, tree⟩

end Chain

end FieldPipeline
