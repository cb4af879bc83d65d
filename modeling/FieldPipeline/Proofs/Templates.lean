import FieldPipeline.Proofs.Descent

namespace FieldPipeline

variable {ρ σ : Type}

namespace Table

variable {κ α : Type} [DecidableEq κ]

theorem get?_eq_none_iff {key : κ} {t : Table κ α} :
    get? key t = none ↔ ∀ p ∈ t, p.1 ≠ key := by
  induction t with
  | nil => simp [get?]
  | cons p rest ih =>
    obtain ⟨k, a⟩ := p
    by_cases same : k = key <;> simp [get?, same, ih]

/-- The first pair for a key gives its value. -/
theorem get?_eq_some_iff {key : κ} {a : α} {t : Table κ α} :
    get? key t = some a ↔
      ∃ before after, t = before ++ (key, a) :: after ∧ ∀ p ∈ before, p.1 ≠ key := by
  induction t with
  | nil => simp [get?]
  | cons p rest ih =>
    obtain ⟨k, b⟩ := p
    by_cases same : k = key
    · subst same
      rw [get?, if_pos rfl]
      constructor
      · rintro ⟨⟩
        exact ⟨[], rest, rfl, List.forall_mem_nil _⟩
      · rintro ⟨before, after, cut, apart⟩
        cases before with
        | nil =>
          cases cut
          rfl
        | cons q before =>
          cases cut
          exact absurd rfl (apart _ List.mem_cons_self)
    · rw [get?, if_neg same, ih]
      constructor
      · rintro ⟨before, after, rfl, apart⟩
        exact ⟨(k, b) :: before, after, rfl, List.forall_mem_cons.mpr ⟨same, apart⟩⟩
      · rintro ⟨before, after, cut, apart⟩
        cases before with
        | nil =>
          cases cut
          exact absurd rfl same
        | cons q before =>
          cases cut
          exact ⟨before, after, rfl, (List.forall_mem_cons.mp apart).2⟩

end Table

namespace Layer

/-- What an error template puts in place of the template `name`: what its first pair for it says, or
its general template if it has no pair for it. -/
inductive Gives (name : String) : Layer → String → Prop
  | pair {general : Option String} {before after : List (String × String)} {new : String}
    (first : ∀ p ∈ before, p.1 ≠ name) :
    Gives name (template general (before ++ (name, new) :: after)) new
  | general {pairs : List (String × String)} {new : String} (unnamed : ∀ p ∈ pairs, p.1 ≠ name) :
    Gives name (template (some new) pairs) new

theorem gives_iff {name : String} {layer : Layer} {new : String} :
    layer.Gives name new ↔ layer.replacement? name = some new := by
  constructor
  · intro gives
    cases gives with
    | @pair general before after _ first =>
      have found : Table.get? name (before ++ (name, new) :: after) = some new :=
        Table.get?_eq_some_iff.mpr ⟨before, after, rfl, first⟩
      rw [replacement?, found]
      rfl
    | general unnamed =>
      rw [replacement?, Table.get?_eq_none_iff.mpr unnamed]
      rfl
  · intro has
    cases layer with
    | element i => cases has
    | template general pairs =>
      cases found : Table.get? name pairs with
      | some other =>
        rw [replacement?, found] at has
        cases has
        obtain ⟨before, after, rfl, first⟩ := Table.get?_eq_some_iff.mp found
        exact .pair first
      | none =>
        rw [replacement?, found] at has
        cases has
        exact .general (Table.get?_eq_none_iff.mp found)

theorem gives_none_iff {name : String} {layer : Layer} :
    layer.replacement? name = none ↔ ∀ new, ¬ layer.Gives name new := by
  simp only [gives_iff, Option.eq_none_iff_forall_not_mem, Option.mem_def]

variable {layers inner : List Layer} {layer : Layer} {r : Rejection} {new : String}

/-- The innermost layer that has a template for a rejection decides, whatever is around it. -/
theorem rewrite?_innermost (plain : r.overridden = false) (outer : List Layer)
    (gives : layer.Gives r.template new)
    (silent : ∀ other ∈ inner, ∀ new', ¬ other.Gives r.template new') :
    rewrite? (outer ++ layer :: inner) r = some new := by
  have within_ : inner.reverse.findSome? (replacement? r.template) = none := by
    refine List.findSome?_eq_none_iff.mpr fun other mem => ?_
    exact gives_none_iff.mpr (silent other (List.mem_reverse.mp mem))
  rw [rewrite?, if_neg (by simp [plain]), List.reverse_append, List.reverse_cons, List.append_assoc,
    List.findSome?_append, within_, Option.none_or, List.singleton_append, List.findSome?_cons,
    gives_iff.mp gives]

theorem rewrite?_eq_none_iff (plain : r.overridden = false) :
    rewrite? layers r = none ↔ ∀ layer ∈ layers, ∀ new, ¬ layer.Gives r.template new := by
  rw [rewrite?, if_neg (by simp [plain]), List.findSome?_eq_none_iff]
  simp only [List.mem_reverse, gives_none_iff]

end Layer

variable [Record ρ σ]

namespace Node

/-- A run of a compiled pipeline gets to a step, through groups that do not deal with rejections,
and the step raises a rejection that no error template has changed yet. What leaves the pipeline has
the template that the innermost error template with one for it gives, whatever stands further out;
if none has one, the template stays. It is marked if and only if one of them has one. A step adds
nothing to the template and the mark with which its code raises a rejection. -/
theorem innermost_template {root : Node ρ σ} (built : root.Built) {v x : Value} {scope : Scope ρ}
    {s t t' : RunState σ} {layers : List Layer} {l : Leaf ρ σ} {raised : Rejection}
    (descends : root.Descends scope v s layers (.leaf l) x t)
    (failed : (leaf l).compile x scope t = (.error (.rejected raised), t'))
    (plain : raised.overridden = false) :
    (∃ left s', root.compile v scope s = (.error (.rejected left), s') ∧
      (∀ outer layer inner new, layers = outer ++ layer :: inner →
        layer.Gives raised.template new →
        (∀ other ∈ inner, ∀ new', ¬ other.Gives raised.template new') →
        left.template = new ∧ left.overridden = true) ∧
      ((∀ layer ∈ layers, ∀ new, ¬ layer.Gives raised.template new) →
        left.template = raised.template) ∧
      (left.overridden = true ↔ ∃ layer ∈ layers, ∃ new, layer.Gives raised.template new)) ∧
    ∀ name body, l.step.run = Callable.asNode name body →
      ∃ own after, body x scope (scope.enter name t) = (.error (.rejected own), after) ∧
        own.template = raised.template ∧ own.overridden = false := by
  constructor
  · obtain ⟨s', ended, -⟩ := descends.error built.isFresh failed
    refine ⟨_, s', ended, ?_, ?_, ?_⟩
    · rintro outer layer inner new rfl gives silent
      rw [Layer.passAll_eq, Layer.rewrite?_innermost plain outer gives silent]
      exact ⟨rfl, Bool.or_true _⟩
    · intro silent
      rw [Layer.passAll_eq, (Layer.rewrite?_eq_none_iff plain).mpr silent]
      rfl
    · rw [Layer.passAll_eq, plain, Bool.false_or, Option.isSome_iff_ne_none, ne_eq,
        Layer.rewrite?_eq_none_iff plain]
      simp only [not_forall, not_not, exists_prop]
  · intro name body runs
    have came : (body.asNode name x scope t).1 = .error (.rejected raised) := by
      rw [← runs]
      exact congrArg Prod.fst failed
    obtain ⟨own, after, ran, rfl⟩ := Callable.asNode_rejected_iff.mp came
    exact ⟨own, after, ran, rfl, plain⟩

/-- Around a step an error template with two pairs for its rejection, then elements, then an error
template with a pair for what the first of these gives. -/
theorem innermost_template_pairs :
    let grumble : Transformer Scripted.Form Scripted.Desk :=
      { name := "Grumble", apply := fun _ _ _ => throw (.rejected { template := "bad" }) }
    let ds : List (Declaration Scripted.Form Scripted.Desk) :=
      [.group (.errorTemplate (some "late") [("first", "late")] none), .group (.each none),
        .group (.errorTemplate (some "general") [("bad", "first"), ("bad", "second")] none),
        .node { identity := .given "g" grumble }]
    let scope : Scope Scripted.Form :=
      { record := {}, context := .null, direction := .inbound, tracePaths := false }
    ∃ root q' w' left s',
      Chain.compile {} ⟨ds, 0⟩ {} .inbound .all { run := { app := {} } } = ((.ok root, q'), w') ∧
      root.compile (.array [.null]) scope { app := {} } = (.error (.rejected left), s') ∧
      left.template = "first" ∧ left.overridden = true := by
  intro grumble ds scope
  obtain ⟨l, w₁, resolved, runs⟩ : ∃ l w₁,
      Resolver.resolve {} (.node { identity := .given "g" grumble }) ({} : Scripted.Form)
        { run := { app := {} } } = (.ok l, w₁) ∧
      l.step.run = Callable.asNode "Grumble" fun v scope => grumble.apply v [] scope :=
    ⟨_, _, rfl, rfl⟩
  let pairs := [("bad", "first"), ("bad", "second")]
  let inner : Node Scripted.Form Scripted.Desk :=
    .fresh "ErrorTemplate" [.leaf l] (.replaceTemplate (some "general") pairs)
  let each : Node Scripted.Form Scripted.Desk := .fresh "Each" [inner] .each
  let outer : Node Scripted.Form Scripted.Desk :=
    .fresh "ErrorTemplate" [each] (.replaceTemplate (some "late") [("first", "late")])
  have leaves : Chain.Compiles {} ({} : Scripted.Form) .inbound .all 0 [] (ds.drop 3)
      { run := { app := {} } } [.leaf l] _ w₁ :=
    .node nofun resolved (.atEnd 1 _ _)
  have inside : Chain.Compiles {} ({} : Scripted.Form) .inbound .all 0 [] (ds.drop 2)
      { run := { app := {} } } [inner] _ w₁ :=
    .active nofun rfl rfl leaves rfl (.atEnd 1 _ _)
  have elements : Chain.Compiles {} ({} : Scripted.Form) .inbound .all 0 [] (ds.drop 1)
      { run := { app := {} } } [each] _ w₁ :=
    .active nofun rfl rfl inside rfl (.atEnd 1 _ _)
  have walk : Chain.Compiles {} ({} : Scripted.Form) .inbound .all 0 [] ds
      { run := { app := {} } } [outer] _ w₁ :=
    .active nofun rfl rfl elements rfl (.atEnd 1 _ _)
  have compiled : Chain.compile {} ⟨ds, 0⟩ ({} : Scripted.Form) .inbound .all
      { run := { app := {} } } = ((.ok (chain [outer]), _), w₁) :=
    Chain.compile_eq_ok.mpr ⟨[_], _, walk, rfl, rfl⟩
  have built : (chain [outer]).Built := ⟨_, _, _, _, _, _, _, _, compiled⟩
  have descends : (chain [outer]).Descends scope (.array [.null]) { app := {} }
      [.template (some "late") [("first", "late")], .element 0, .template (some "general") pairs]
      (.leaf l) .null { app := {} } :=
    .head (.template (.head (.firstElement rfl (.head (.template (.head (.here ..)))))))
  have failed : (leaf l).compile .null scope ({ app := {} } : RunState Scripted.Desk) =
      (.error (.rejected { template := "bad", origin := some "Grumble" }), { app := {} }) := by
    change l.step.run .null scope _ = _
    rw [runs]
    rfl
  obtain ⟨⟨left, s', ended, decided, -⟩, -⟩ := innermost_template built descends failed rfl
  have gives : (Layer.template (some "general") pairs).Gives "bad" "first" :=
    .pair (List.forall_mem_nil _)
  obtain ⟨changed, marked⟩ := decided [_, _] _ [] _ rfl gives (List.forall_mem_nil _)
  exact ⟨_, _, _, left, s', compiled, ended, changed, marked⟩

end Node

end FieldPipeline
