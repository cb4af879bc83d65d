import FieldPipeline.Chain
import FieldPipeline.Proofs.Outcome

namespace FieldPipeline.Chain

open Outcome

variable {ρ σ α : Type}

/-- Passing over `declarations` after `taken` slots consumes `used` more of them. -/
inductive Skips : Take → Nat → List (Declaration ρ σ) → Nat → Prop
  | full (n : Nat) (declarations : List (Declaration ρ σ)) : Skips (.exactly n) n declarations 0
  | atEnd (taken : Nat) : Skips .all taken [] 0
  | node {take : Take} {taken used : Nat} {request : Request ρ σ}
      {rest : List (Declaration ρ σ)} (open_ : take ≠ .exactly taken)
      (after : Skips take (taken + 1) rest used) :
      Skips take taken (.node request :: rest) (1 + used)
  | failTo {take : Take} {taken used : Nat} {fallback : Arg} {handler : Option (Handler ρ σ)}
      {rest : List (Declaration ρ σ)} (open_ : take ≠ .exactly taken)
      (after : Skips take taken rest used) :
      Skips take taken (.failTo fallback handler :: rest) (1 + used)
  | group {take : Take} {taken used more : Nat} {g : Grouping ρ σ}
      {rest : List (Declaration ρ σ)} (open_ : take ≠ .exactly taken)
      (body : Skips g.take 0 rest used)
      (after : Skips take (taken + 1) (rest.drop used) more) :
      Skips take taken (.group g :: rest) (1 + used + more)

/-- Compiling `declarations` after `taken` slots, with the nodes so far in reverse, ends with other
nodes in reverse and consumes `used` declarations. Labels and positions are left out, since only
faults show them. -/
inductive Compiles [Record ρ σ] (r : Resolver ρ σ) (owner : ρ) (direction : Direction) :
    Take → Nat → List (Node ρ σ) → List (Declaration ρ σ) → Workspace ρ σ →
      List (Node ρ σ) → Nat → Workspace ρ σ → Prop
  | full (n : Nat) (done : List (Node ρ σ)) (declarations : List (Declaration ρ σ))
      (w : Workspace ρ σ) :
      Compiles r owner direction (.exactly n) n done declarations w done 0 w
  | atEnd (taken : Nat) (done : List (Node ρ σ)) (w : Workspace ρ σ) :
      Compiles r owner direction .all taken done [] w done 0 w
  | node {take : Take} {taken used : Nat} {done done' : List (Node ρ σ)} {request : Request ρ σ}
      {rest : List (Declaration ρ σ)} {w w₁ w₂ : Workspace ρ σ} {l : Leaf ρ σ}
      (open_ : take ≠ .exactly taken)
      (resolved : r.resolve (.node request) owner w = (.ok l, w₁))
      (after : Compiles r owner direction take (taken + 1) (.leaf l :: done) rest w₁ done' used
        w₂) :
      Compiles r owner direction take taken done (.node request :: rest) w done' (1 + used) w₂
  | failTo {take : Take} {taken used : Nat} {last : Node ρ σ} {before done' : List (Node ρ σ)}
      {fallback : Arg} {handler : Option (Handler ρ σ)} {rest : List (Declaration ρ σ)}
      {w w₁ : Workspace ρ σ} (open_ : take ≠ .exactly taken)
      (handled : handlerDefect? handler owner "FailTo" = none)
      (after : Compiles r owner direction take taken
        (.fresh ("FailTo(" ++ last.name ++ ")") [last] (.recover fallback handler) :: before)
        rest w done' used w₁) :
      Compiles r owner direction take taken (last :: before) (.failTo fallback handler :: rest) w
        done' (1 + used) w₁
  | active {take : Take} {taken used more : Nat} {done done' children : List (Node ρ σ)}
      {g : Grouping ρ σ} {node : Node ρ σ} {rest : List (Declaration ρ σ)}
      {w w₁ w₂ w₃ : Workspace ρ σ} (open_ : take ≠ .exactly taken)
      (switched : isInactive owner direction g = false)
      (opened : openingDefect? owner g = none)
      (body : Compiles r owner direction g.take 0 [] rest w children used w₁)
      (joined : join r owner g children.reverse w₁ = (.ok node, w₂))
      (after : Compiles r owner direction take (taken + 1) (node :: done) (rest.drop used) w₂
        done' more w₃) :
      Compiles r owner direction take taken done (.group g :: rest) w done' (1 + used + more) w₃
  | inactive {take : Take} {taken used more : Nat} {done done' : List (Node ρ σ)}
      {g : Grouping ρ σ} {rest : List (Declaration ρ σ)} {w w₁ : Workspace ρ σ}
      (open_ : take ≠ .exactly taken)
      (switched : isInactive owner direction g = true)
      (body : Skips g.take 0 rest used)
      (after : Compiles r owner direction take (taken + 1) (.fresh g.name [] .pipe :: done)
        (rest.drop used) w done' more w₁) :
      Compiles r owner direction take taken done (.group g :: rest) w done' (1 + used + more) w₁

/-- A group joins its children under a name and by a strategy. A conditional group has both from the
leaf that its condition resolves to, every other group has them from its own parts. -/
inductive JoinsBy [Record ρ σ] (r : Resolver ρ σ) (owner : ρ) :
    Grouping ρ σ → String → Strategy ρ σ → Prop
  | wrap (count : Option Nat) : JoinsBy r owner (.wrap count) "Wrap" .pipe
  | each (count : Option Nat) : JoinsBy r owner (.each count) "Each" .each
  | list (n : Nat) : JoinsBy r owner (.collect (.count n)) "Collect" (.collect none)
  | object (labels : List String) :
      JoinsBy r owner (.collect (.labels labels)) "Collect" (.collect (some labels))
  | any (count : Option Nat) : JoinsBy r owner (.any count) "Any" .firstSuccess
  | all (count : Option Nat) : JoinsBy r owner (.all count) "All" .allOf
  | when {condition : Declaration ρ σ} {l : Leaf ρ σ} {w w' : Workspace ρ σ}
      (resolved : r.resolve condition owner w = (.ok l, w')) (negate : Bool) (count : Option Nat)
      (otherwise : Option Arg) :
      JoinsBy r owner (.when condition negate count otherwise) ("When(" ++ l.name ++ ")")
        (.conditional l.step.run negate (otherwise.map Arg.toValue))
  | failNextTo (fallback : Arg) (handler : Option (Handler ρ σ)) (count : Option Nat) :
      JoinsBy r owner (.failNextTo fallback handler count) "FailNextTo" (.recover fallback handler)
  | errorTemplate (template : Option String) (pairs : List (String × String))
      (count : Option Nat) :
      JoinsBy r owner (.errorTemplate template pairs count) "ErrorTemplate"
        (.replaceTemplate template pairs)
  | groups (names : List String) (count : Option Nat) :
      JoinsBy r owner (.groups names count) "Groups" .pipe

section Consume

variable {m : Type → Type} [Monad m] [MonadExcept Halt m] {take : Take} {label : String}
  {bound taken position : Nat} {found : List String} {made : α}
  {visit : α → Declaration ρ σ → Nat → (rest : List (Declaration ρ σ)) → rest.length < bound →
    m (α × Bool × Nat)}

theorem consume_full {declarations : List (Declaration ρ σ)}
    (fits : declarations.length ≤ bound) (h : take = .exactly taken) :
    consume take label bound visit taken found made position declarations fits =
      pure (made, 0) := by
  rw [consume.eq_def, if_pos h]

theorem consume_atEnd (fits : ([] : List (Declaration ρ σ)).length ≤ bound) :
    consume .all label bound visit taken found made position [] fits = pure (made, 0) := by
  rw [consume.eq_def, if_neg (by simp)]

theorem consume_short {expected : Nat} (fits : ([] : List (Declaration ρ σ)).length ≤ bound)
    (h : expected ≠ taken) :
    consume (.exactly expected) label bound visit taken found made position [] fits =
      throw ⟨.configuration (.shortage label expected taken found), position⟩ := by
  rw [consume.eq_def, if_neg (by simpa using h)]

theorem consume_cons {d : Declaration ρ σ} {rest : List (Declaration ρ σ)}
    (fits : (d :: rest).length ≤ bound) (h : take ≠ .exactly taken) :
    consume take label bound visit taken found made position (d :: rest) fits = do
      let seen ← visit made d (position + 1) rest fits
      let tail ← consume take label bound visit (if seen.2.1 then taken + 1 else taken)
        (found ++ [d.name]) seen.1 (position + 1 + seen.2.2) (rest.drop seen.2.2)
        (by simp only [List.length_cons] at fits; simp only [List.length_drop]; omega)
      return (tail.1, 1 + seen.2.2 + tail.2) := by
  rw [consume.eq_def, if_neg h]

end Consume

/-- What `skip` does at each declaration. -/
def passOver (bound : Nat) (_ : Unit) (d : Declaration ρ σ) (position : Nat)
    (rest : List (Declaration ρ σ)) (_ : rest.length < bound) : Except Halt (Unit × Bool × Nat) :=
  match d with
  | .failTo .. => return ((), false, 0)
  | .group g => return ((), true, ← skip g.take g.name position rest)
  | .node _ => return ((), true, 0)

theorem skip_eq_ok {take : Take} {label : String} {position used : Nat}
    {declarations : List (Declaration ρ σ)} :
    skip take label position declarations = .ok used ↔
      consume take label declarations.length (passOver _) 0 [] () position declarations
        (Nat.le_refl _) = .ok ((), used) := by
  rw [skip, bind_eq_ok_of_except]
  constructor
  · rintro ⟨⟨⟨⟩, k⟩, h, e⟩
    cases e
    exact h
  · intro h
    exact ⟨((), used), h, rfl⟩

/-- The loop of `skip`, from any number of slots on. -/
theorem skips_of_consume {k : Nat} {take : Take} {label : String} {bound taken position used : Nat}
    {found : List String} {declarations : List (Declaration ρ σ)} (hk : declarations.length < k)
    {fits : declarations.length ≤ bound}
    (h : consume take label bound (passOver bound) taken found () position declarations fits =
      .ok ((), used)) :
    Skips take taken declarations used := by
  induction k generalizing take label bound taken position used found declarations with
  | zero => exact absurd hk (Nat.not_lt_zero _)
  | succ k ih =>
    by_cases full : take = .exactly taken
    · subst full
      rw [consume_full fits rfl] at h
      cases h
      exact .full _ _
    cases declarations with
    | nil =>
      cases take with
      | all =>
        rw [consume_atEnd] at h
        cases h
        exact .atEnd _
      | exactly expected =>
        rw [consume_short fits (by simpa using full)] at h
        cases h
    | cons d rest =>
      rw [consume_cons fits full, bind_eq_ok_of_except] at h
      obtain ⟨⟨⟨⟩, slot, inner⟩, hd, h⟩ := h
      rw [bind_eq_ok_of_except] at h
      obtain ⟨⟨⟨⟩, more⟩, hrest, h⟩ := h
      cases h
      have short : rest.length < k := by simpa using hk
      have dropped : (rest.drop inner).length < k := by
        rw [List.length_drop]
        omega
      have after := ih dropped hrest
      cases d with
      | node request =>
        cases hd
        exact .node full after
      | failTo fallback handler =>
        cases hd
        exact .failTo full after
      | group g =>
        obtain ⟨n, hn, e⟩ := bind_eq_ok_of_except.mp hd
        cases e
        exact .group full (ih short (skip_eq_ok.mp hn)) after

/-- Skipping is determined by what it consumes; labels and positions show in faults only. -/
theorem consume_of_skips {take : Take} {taken used : Nat} {declarations : List (Declaration ρ σ)}
    (h : Skips take taken declarations used) (label : String) (bound position : Nat)
    (found : List String) (fits : declarations.length ≤ bound) :
    consume take label bound (passOver bound) taken found () position declarations fits =
      .ok ((), used) := by
  induction h generalizing label bound position found with
  | full n declarations => exact consume_full fits rfl
  | atEnd taken => exact consume_atEnd fits
  | node open_ after ih =>
    rw [consume_cons fits open_, bind_eq_ok_of_except]
    exact ⟨_, rfl, bind_eq_ok_of_except.mpr ⟨_, ih _ _ _ _ _, rfl⟩⟩
  | failTo open_ after ih =>
    rw [consume_cons fits open_, bind_eq_ok_of_except]
    exact ⟨_, rfl, bind_eq_ok_of_except.mpr ⟨_, ih _ _ _ _ _, rfl⟩⟩
  | @group _ taken used more g rest open_ body after ihb iha =>
    have inner : skip g.take g.name (position + 1) rest = .ok used :=
      skip_eq_ok.mpr (ihb _ _ _ _ (Nat.le_refl _))
    have visited : passOver bound () (.group g) (position + 1) rest fits =
        .ok ((), true, used) :=
      bind_eq_ok_of_except.mpr ⟨used, inner, rfl⟩
    rw [consume_cons fits open_, bind_eq_ok_of_except]
    exact ⟨_, visited, bind_eq_ok_of_except.mpr ⟨_, iha _ _ _ _ _, rfl⟩⟩

theorem skip_eq_ok_iff {take : Take} {label : String} {position used : Nat}
    {declarations : List (Declaration ρ σ)} :
    skip take label position declarations = .ok used ↔ Skips take 0 declarations used := by
  rw [skip_eq_ok]
  constructor
  · exact skips_of_consume (Nat.lt_succ_self _)
  · intro h
    exact consume_of_skips h label _ position [] _

theorem located_eq_ok {position : Nat} {b : Build ρ σ α} {a : α} {w w' : Workspace ρ σ} :
    located position b w = (.ok a, w') ↔ b w = (.ok a, w') := by
  change ((b w).1.mapError fun fault => (⟨fault, position⟩ : Halt), (b w).2) = _ ↔ _
  rcases b w with ⟨fault | a', t⟩
  · constructor <;> intro h <;> cases h
  · constructor <;> intro h <;> cases h <;> rfl

theorem refuse_eq_ok {position : Nat} {defect : Option Misconfiguration}
    {w w' : Workspace ρ σ} :
    refuse position defect w = (.ok (), w') ↔ defect = none ∧ w = w' := by
  cases defect with
  | none =>
    constructor
    · intro h
      cases h
      exact ⟨rfl, rfl⟩
    · rintro ⟨-, rfl⟩
      rfl
  | some m =>
    constructor
    · intro h
      cases h
    · rintro ⟨h, -⟩
      cases h

section Compile

variable [Record ρ σ] {r : Resolver ρ σ} {owner : ρ} {direction : Direction}

/-- What `compileChildren` does at each declaration. -/
def visit (r : Resolver ρ σ) (owner : ρ) (direction : Direction) (bound : Nat)
    (done : List (Node ρ σ)) (d : Declaration ρ σ) (position : Nat)
    (rest : List (Declaration ρ σ)) (_ : rest.length < bound) :
    Compiling ρ σ (List (Node ρ σ) × Bool × Nat) :=
  match d with
  | .failTo fallback handler => do
    refuse position (handlerDefect? handler owner "FailTo")
    return (← located position (recoverLast fallback handler done), false, 0)
  | .group g => do
    let (node, used) ← compileGroup r owner direction g position rest
    return (node :: done, true, used)
  | .node request => do
    let l ← located position (r.resolve (.node request) owner)
    return (.leaf l :: done, true, 0)

theorem compileChildren_eq_ok {take : Take} {label : String} {position used : Nat}
    {declarations : List (Declaration ρ σ)} {nodes : List (Node ρ σ)} {w w' : Workspace ρ σ} :
    compileChildren r owner direction take label position declarations w =
        (.ok (nodes, used), w') ↔
      consume take label declarations.length (visit r owner direction _) 0 [] [] position
        declarations (Nat.le_refl _) w = (.ok (nodes.reverse, used), w') := by
  rw [compileChildren, bind_eq_ok]
  constructor
  · rintro ⟨⟨done, k⟩, t, h, e⟩
    cases e
    rw [List.reverse_reverse]
    exact h
  · intro h
    refine ⟨_, _, h, ?_⟩
    change (Except.ok (nodes.reverse.reverse, used), w') = _
    rw [List.reverse_reverse]

/-- Joining keeps the children and their order. -/
theorem join_eq_ok {g : Grouping ρ σ} {children : List (Node ρ σ)} {node : Node ρ σ}
    {w w' : Workspace ρ σ} (h : join r owner g children w = (.ok node, w')) :
    ∃ name strategy, JoinsBy r owner g name strategy ∧ node = .fresh name children strategy := by
  cases g with
  | wrap count =>
    cases h
    exact ⟨_, _, .wrap count, rfl⟩
  | each count =>
    cases h
    exact ⟨_, _, .each count, rfl⟩
  | collect shape =>
    cases shape with
    | count n =>
      cases h
      exact ⟨_, _, .list n, rfl⟩
    | labels names =>
      cases h
      exact ⟨_, _, .object names, rfl⟩
  | any count =>
    cases h
    exact ⟨_, _, .any count, rfl⟩
  | all count =>
    cases h
    exact ⟨_, _, .all count, rfl⟩
  | when condition negate count otherwise =>
    obtain ⟨l, w₁, resolved, made⟩ := bind_eq_ok.mp h
    cases made
    exact ⟨_, _, .when resolved negate count otherwise, rfl⟩
  | failNextTo fallback handler count =>
    cases h
    exact ⟨_, _, .failNextTo fallback handler count, rfl⟩
  | errorTemplate template pairs count =>
    cases h
    exact ⟨_, _, .errorTemplate template pairs count, rfl⟩
  | groups names count =>
    cases h
    exact ⟨_, _, .groups names count, rfl⟩

theorem compileGroup_inactive {g : Grouping ρ σ} (switched : isInactive owner direction g = true)
    {position used : Nat} {declarations : List (Declaration ρ σ)} {node : Node ρ σ}
    {w w' : Workspace ρ σ} :
    compileGroup r owner direction g position declarations w = (.ok (node, used), w') ↔
      skip g.take g.name position declarations = .ok used ∧ node = .fresh g.name [] .pipe ∧
        w = w' := by
  rw [compileGroup, if_pos switched, bind_eq_ok]
  constructor
  · rintro ⟨k, t, h, e⟩
    have hs : (skip g.take g.name position declarations, w) = (Except.ok k, t) := h
    cases e
    exact ⟨congrArg Prod.fst hs, rfl, congrArg Prod.snd hs⟩
  · rintro ⟨h, rfl, rfl⟩
    exact ⟨used, w, by rw [h]; rfl, rfl⟩

theorem compileGroup_active {g : Grouping ρ σ} (switched : isInactive owner direction g = false)
    {position used : Nat} {declarations : List (Declaration ρ σ)} {node : Node ρ σ}
    {w w' : Workspace ρ σ} :
    compileGroup r owner direction g position declarations w = (.ok (node, used), w') ↔
      openingDefect? owner g = none ∧ ∃ children w₁,
        compileChildren r owner direction g.take g.name position declarations w =
          (.ok (children, used), w₁) ∧
        join r owner g children w₁ = (.ok node, w') := by
  rw [compileGroup, if_neg (by simp [switched]), bind_eq_ok]
  constructor
  · rintro ⟨⟨⟩, t, ho, h⟩
    obtain ⟨hn, rfl⟩ := refuse_eq_ok.mp ho
    obtain ⟨⟨children, k⟩, w₁, hc, h⟩ := bind_eq_ok.mp h
    obtain ⟨n, w₂, hj, e⟩ := bind_eq_ok.mp h
    cases e
    exact ⟨hn, children, w₁, hc, located_eq_ok.mp hj⟩
  · rintro ⟨hn, children, w₁, hc, hj⟩
    exact ⟨(), w, refuse_eq_ok.mpr ⟨hn, rfl⟩,
      bind_eq_ok.mpr ⟨_, w₁, hc, bind_eq_ok.mpr ⟨node, w', located_eq_ok.mpr hj, rfl⟩⟩⟩

/-- The loop of `compileChildren`, from any nodes on. -/
theorem compiles_of_consume {k : Nat} {take : Take} {label : String}
    {bound taken position used : Nat} {found : List String} {done done' : List (Node ρ σ)}
    {declarations : List (Declaration ρ σ)} {w w' : Workspace ρ σ}
    (hk : declarations.length < k) {fits : declarations.length ≤ bound}
    (h : consume take label bound (visit r owner direction bound) taken found done position
      declarations fits w = (.ok (done', used), w')) :
    Compiles r owner direction take taken done declarations w done' used w' := by
  -- A group's body ends anywhere in the list, so the induction is on a bound of the length.
  induction k generalizing take label bound taken position used found done done' declarations w
    w' with
  | zero => exact absurd hk (Nat.not_lt_zero _)
  | succ k ih =>
    by_cases full : take = .exactly taken
    · subst full
      rw [consume_full fits rfl] at h
      cases h
      exact .full _ _ _ _
    cases declarations with
    | nil =>
      cases take with
      | all =>
        rw [consume_atEnd] at h
        cases h
        exact .atEnd _ _ _
      | exactly expected =>
        rw [consume_short fits (by simpa using full)] at h
        cases h
    | cons d rest =>
      rw [consume_cons fits full] at h
      obtain ⟨⟨made, slot, inner⟩, w₁, hd, h⟩ := bind_eq_ok.mp h
      obtain ⟨⟨made', more⟩, w₂, hrest, h⟩ := bind_eq_ok.mp h
      cases h
      have short : rest.length < k := by simpa using hk
      have dropped : (rest.drop inner).length < k := by
        rw [List.length_drop]
        omega
      have after := ih dropped hrest
      cases d with
      | node request =>
        obtain ⟨l, w₂, hl, e⟩ := bind_eq_ok.mp hd
        cases e
        exact .node full (located_eq_ok.mp hl) after
      | failTo fallback handler =>
        obtain ⟨⟨⟩, w₂, checked, hd⟩ := bind_eq_ok.mp hd
        obtain ⟨hh, rfl⟩ := refuse_eq_ok.mp checked
        obtain ⟨nodes, w₂, hr, e⟩ := bind_eq_ok.mp hd
        cases e
        have hr := located_eq_ok.mp hr
        cases done with
        | nil => cases hr
        | cons last before =>
          cases hr
          exact .failTo full hh after
      | group g =>
        obtain ⟨⟨node, n⟩, w₂, hg, e⟩ := bind_eq_ok.mp hd
        cases e
        cases switched : isInactive owner direction g with
        | true =>
          obtain ⟨hs, rfl, rfl⟩ := (compileGroup_inactive switched).mp hg
          exact .inactive full switched (skip_eq_ok_iff.mp hs) after
        | false =>
          obtain ⟨ho, children, w₁, hc, hj⟩ := (compileGroup_active switched).mp hg
          have body := ih short (compileChildren_eq_ok.mp hc)
          rw [← List.reverse_reverse children] at hj
          exact .active full switched ho body hj after

theorem consume_of_compiles {take : Take} {taken used : Nat} {done done' : List (Node ρ σ)}
    {declarations : List (Declaration ρ σ)} {w w' : Workspace ρ σ}
    (h : Compiles r owner direction take taken done declarations w done' used w')
    (label : String) (bound position : Nat) (found : List String)
    (fits : declarations.length ≤ bound) :
    consume take label bound (visit r owner direction bound) taken found done position
      declarations fits w = (.ok (done', used), w') := by
  induction h generalizing label bound position found with
  | full n done declarations w =>
    rw [consume_full fits rfl]
    rfl
  | atEnd taken done w =>
    rw [consume_atEnd]
    rfl
  | @node _ _ used done done' request rest w w₁ w₂ l open_ resolved after ih =>
    have visited : visit r owner direction bound done (.node request) (position + 1) rest fits w =
        (.ok (.leaf l :: done, true, 0), w₁) :=
      bind_eq_ok.mpr ⟨l, w₁, located_eq_ok.mpr resolved, rfl⟩
    rw [consume_cons fits open_]
    exact bind_eq_ok.mpr ⟨_, _, visited, bind_eq_ok.mpr ⟨_, _, ih _ _ _ _ _, rfl⟩⟩
  | @failTo _ _ used last before done' fallback handler rest w w₁ open_ handled after ih =>
    have visited : visit r owner direction bound (last :: before) (.failTo fallback handler)
        (position + 1) rest fits w =
        (.ok (.fresh ("FailTo(" ++ last.name ++ ")") [last] (.recover fallback handler) :: before,
          false, 0), w) :=
      bind_eq_ok.mpr ⟨(), w, refuse_eq_ok.mpr ⟨handled, rfl⟩, rfl⟩
    rw [consume_cons fits open_]
    exact bind_eq_ok.mpr ⟨_, _, visited, bind_eq_ok.mpr ⟨_, _, ih _ _ _ _ _, rfl⟩⟩
  | @active _ _ used more done done' children g node rest w w₁ w₂ w₃ open_ switched opened body
      joined after ihb iha =>
    have inner : compileChildren r owner direction g.take g.name (position + 1) rest w =
        (.ok (children.reverse, used), w₁) := by
      rw [compileChildren_eq_ok, List.reverse_reverse]
      exact ihb _ _ _ _ _
    have visited : visit r owner direction bound done (.group g) (position + 1) rest fits w =
        (.ok (node :: done, true, used), w₂) :=
      bind_eq_ok.mpr
        ⟨_, w₂, (compileGroup_active switched).mpr ⟨opened, _, w₁, inner, joined⟩, rfl⟩
    rw [consume_cons fits open_]
    exact bind_eq_ok.mpr ⟨_, _, visited, bind_eq_ok.mpr ⟨_, _, iha _ _ _ _ _, rfl⟩⟩
  | @inactive _ _ used more done done' g rest w w₁ open_ switched body after ih =>
    have visited : visit r owner direction bound done (.group g) (position + 1) rest fits w =
        (.ok (.fresh g.name [] .pipe :: done, true, used), w) :=
      bind_eq_ok.mpr
        ⟨_, w, (compileGroup_inactive switched).mpr ⟨skip_eq_ok_iff.mpr body, rfl, rfl⟩, rfl⟩
    rw [consume_cons fits open_]
    exact bind_eq_ok.mpr ⟨_, _, visited, bind_eq_ok.mpr ⟨_, _, ih _ _ _ _ _, rfl⟩⟩

theorem compileChildren_eq_ok_iff {take : Take} {label : String} {position used : Nat}
    {declarations : List (Declaration ρ σ)} {nodes : List (Node ρ σ)} {w w' : Workspace ρ σ} :
    compileChildren r owner direction take label position declarations w =
        (.ok (nodes, used), w') ↔
      Compiles r owner direction take 0 [] declarations w nodes.reverse used w' := by
  rw [compileChildren_eq_ok]
  constructor
  · exact compiles_of_consume (Nat.lt_succ_self _)
  · intro h
    exact consume_of_compiles h label _ position [] _

theorem compile_run (q : Queue ρ σ) (take : Take) (w : Workspace ρ σ) :
    compile r q owner direction take w =
      match compileChildren r owner direction take "chain" q.position q.rest w with
      | (.ok (children, used), t) =>
        ((.ok (.fresh "Chain" children .pipe), { q with position := q.position + used }), t)
      | (.error halt, t) => ((.error halt.fault, { q with position := halt.position }), t) := by
  rw [compile, state_bind_run, ExceptT.run]
  rcases compileChildren r owner direction take "chain" q.position q.rest w with
    ⟨halt | ⟨children, used⟩, t⟩ <;> rfl

theorem compileAll_run (declarations : List (Declaration ρ σ)) (w : Workspace ρ σ) :
    compileAll r declarations owner direction w =
      match compile r ⟨declarations, 0⟩ owner direction .all w with
      | ((.ok root, _), w₁) => (.ok ⟨w₁.issued, root.compile⟩, { w₁ with issued := w₁.issued + 1 })
      | ((.error fault, _), w₁) => (.error fault, w₁) := by
  have first : (compile r ⟨declarations, 0⟩ owner direction .all : Build ρ σ _) w =
      (.ok (compile r ⟨declarations, 0⟩ owner direction .all w).1,
        (compile r ⟨declarations, 0⟩ owner direction .all w).2) := rfl
  rw [compileAll, bind_of_ok first]
  rcases compile r ⟨declarations, 0⟩ owner direction .all w with ⟨⟨_ | root, q⟩, w₁⟩ <;> rfl

/-- A compiled queue is a chain of what `Compiles` says. -/
theorem compile_eq_ok {q q' : Queue ρ σ} {take : Take} {root : Node ρ σ} {w w' : Workspace ρ σ} :
    compile r q owner direction take w = ((.ok root, q'), w') ↔
      ∃ children used, Compiles r owner direction take 0 [] q.rest w children.reverse used w' ∧
        root = .fresh "Chain" children .pipe ∧
        q' = { q with position := q.position + used } := by
  rw [compile_run]
  constructor
  · intro h
    rcases e : compileChildren r owner direction take "chain" q.position q.rest w with
      ⟨halt | ⟨children, used⟩, t⟩
    · rw [e] at h
      cases h
    · rw [e] at h
      cases h
      exact ⟨children, used, compileChildren_eq_ok_iff.mp e, rfl, rfl⟩
  · rintro ⟨children, used, h, rfl, rfl⟩
    rw [compileChildren_eq_ok_iff.mpr h]

/-- All declarations of a field are one chain, whose callable gets a number of its own. -/
theorem compileAll_eq_ok {declarations : List (Declaration ρ σ)} {made : Compiled ρ σ}
    {w w' : Workspace ρ σ} :
    compileAll r declarations owner direction w = (.ok made, w') ↔
      ∃ children used w₁,
        Compiles r owner direction .all 0 [] declarations w children.reverse used w₁ ∧
        made = ⟨w₁.issued, (Node.fresh "Chain" children .pipe).compile⟩ ∧
        w' = { w₁ with issued := w₁.issued + 1 } := by
  rw [compileAll_run]
  constructor
  · intro h
    rcases e : compile r ⟨declarations, 0⟩ owner direction .all w with ⟨⟨_ | root, q⟩, w₁⟩
    · rw [e] at h
      cases h
    · rw [e] at h
      cases h
      obtain ⟨children, used, hc, rfl, -⟩ := compile_eq_ok.mp e
      exact ⟨children, used, w₁, hc, rfl, rfl⟩
  · rintro ⟨children, used, w₁, hc, rfl, rfl⟩
    rw [compile_eq_ok.mpr ⟨children, used, hc, rfl, rfl⟩]

end Compile

end FieldPipeline.Chain
