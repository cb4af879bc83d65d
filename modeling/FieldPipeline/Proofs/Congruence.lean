import FieldPipeline.Proofs.Consistency
import FieldPipeline.Proofs.Recompilation
import FieldPipeline.Proofs.Skipping

namespace FieldPipeline.Setting

open Outcome

variable {ρ σ : Type} [Record ρ σ] {S : Setting ρ σ} {direction : Direction}

/-- What declarations refer to was asked for, and what handles their failures is impartial. -/
structure Covers (S : Setting ρ σ) (ds : List (Declaration ρ σ)) : Prop where
  requests : ∀ d ∈ ds, ∀ q, .node q ∈ d.requests → S.asked q
  handlers : ∀ d ∈ ds, ∀ h, d.handler? = some h → h.Impartial S.like

theorem Covers.of_subset {ds ds' : List (Declaration ρ σ)} (h : S.Covers ds)
    (subset : ∀ d ∈ ds', d ∈ ds) : S.Covers ds' :=
  ⟨fun d hd => h.requests d (subset d hd), fun d hd => h.handlers d (subset d hd)⟩

theorem Covers.tail {d : Declaration ρ σ} {rest : List (Declaration ρ σ)}
    (h : S.Covers (d :: rest)) : S.Covers rest :=
  h.of_subset fun _ => List.mem_cons_of_mem d

theorem Covers.drop {d : Declaration ρ σ} {rest : List (Declaration ρ σ)}
    (h : S.Covers (d :: rest)) (n : Nat) : S.Covers (rest.drop n) :=
  h.tail.of_subset fun _ => List.mem_of_mem_drop

variable (impartial : S.Impartial)
  (alike : ∀ owner, S.like owner → Chain.Alike direction S.owner owner)
  {owner owner' : ρ} {take : Take} {taken used used' : Nat} {g : Grouping ρ σ}
  {ds : List (Declaration ρ σ)} {done done' nodes nodes' children children' : List (Node ρ σ)}
  {w w' v v' : Workspace ρ σ}

section One

variable (like : S.like owner)

include impartial alike like

theorem GrownByResolution.join {node : Node ρ σ} (h : S.GrownByResolution w.cache)
    (covers : S.Covers [.group g])
    (joined : Chain.join S.resolver owner g children w = (.ok node, w')) :
    S.GrownByResolution w'.cache ∧ w'.run.trace = w.run.trace := by
  cases g with
  | when condition negate count otherwise =>
    obtain ⟨l, u, resolved, e⟩ := bind_eq_ok.mp joined
    cases e
    cases condition with
    | failTo fallback handler | group g => cases resolved
    | node q =>
      have asked := covers.requests _ List.mem_cons_self q List.mem_cons_self
      obtain ⟨grown, trace, -⟩ := h.resolve impartial (fun owner like => (alike owner like).toAlike)
        like asked resolved
      exact ⟨grown, trace⟩
  | collect shape =>
    cases shape <;>
    · cases joined
      exact ⟨h, rfl⟩
  | _ =>
    cases joined
    exact ⟨h, rfl⟩

/-- Compilation keeps a cache that grew from the first one. -/
theorem GrownByResolution.compiles (h : S.GrownByResolution w.cache) (covers : S.Covers ds)
    (walk : Chain.Compiles S.resolver owner direction take taken done ds w nodes used w') :
    S.GrownByResolution w'.cache ∧ w'.run.trace = w.run.trace := by
  induction walk with
  | full | atEnd => exact ⟨h, rfl⟩
  | @node _ _ _ _ _ request _ _ _ _ l open_ resolved after ih =>
    have asked := covers.requests _ List.mem_cons_self request List.mem_cons_self
    obtain ⟨grown, trace, -⟩ := h.resolve impartial (fun owner like => (alike owner like).toAlike)
      like asked resolved
    obtain ⟨grown', trace'⟩ := ih grown covers.tail
    exact ⟨grown', trace'.trans trace⟩
  | failTo open_ handled after ih => exact ih h covers.tail
  | active open_ switched opened body joined after ihb iha =>
    obtain ⟨grown, trace⟩ := ihb h covers.tail
    obtain ⟨grown', trace'⟩ := grown.join impartial alike like
      (covers.of_subset (by simp)) joined
    obtain ⟨grown'', trace''⟩ := iha grown' (covers.drop _)
    exact ⟨grown'', trace''.trans (trace'.trans trace)⟩
  | inactive open_ switched body after ih => exact ih h (covers.drop _)

end One

section Two

variable (unmixed : S.Unmixed) (like : S.like owner) (like' : S.like owner')

include impartial alike unmixed like like'

/-- Two resolutions of one request come to steps that do the same. -/
theorem resolve_same {q : Request ρ σ} {l l' : Leaf ρ σ} (asked : S.asked q)
    (grown : S.GrownByResolution w.cache) (grown' : S.GrownByResolution v.cache)
    (resolved : S.resolver.resolve (.node q) owner w = (.ok l, w'))
    (resolved' : S.resolver.resolve (.node q) owner' v = (.ok l', v')) :
    l.step.run.Same S.like l'.step.run := by
  have records := fun owner like => (alike owner like).toAlike
  obtain ⟨-, -, serves⟩ := grown.resolve impartial records like asked resolved
  obtain ⟨-, -, serves'⟩ := grown'.resolve impartial records like' asked resolved'
  exact serves.same impartial unmixed records asked serves'

theorem join_same {node node' : Node ρ σ} (grown : S.GrownByResolution w.cache)
    (grown' : S.GrownByResolution v.cache)
    (covers : S.Covers [.group g]) (inner : List.Forall₂ (Node.Same S.like) children children')
    (joined : Chain.join S.resolver owner g children w = (.ok node, w'))
    (joined' : Chain.join S.resolver owner' g children' v = (.ok node', v')) :
    node.Same S.like node' := by
  have own {strategy : Strategy ρ σ} (does : strategy.Does fun f => f.Same S.like f)
      (same : strategy.handler? = (Declaration.group g).handler?) :
      strategy.Same S.like strategy :=
    .refl does fun h found => covers.handlers _ List.mem_cons_self h (same.symm.trans found)
  cases g with
  | when condition negate count otherwise =>
    obtain ⟨l, u, resolved, e⟩ := bind_eq_ok.mp joined
    cases e
    obtain ⟨l', u', resolved', e⟩ := bind_eq_ok.mp joined'
    cases e
    cases condition with
    | failTo fallback handler | group g => cases resolved
    | node q =>
      have asked := covers.requests _ List.mem_cons_self q List.mem_cons_self
      have steps := resolve_same impartial alike unmixed like like' asked grown grown' resolved
        resolved'
      exact Node.fresh_same inner (.conditional steps negate _) _ _
  | collect shape =>
    cases shape <;>
    · cases joined
      cases joined'
      exact Node.fresh_same inner (own (by trivial) rfl) _ _
  | _ =>
    cases joined
    cases joined'
    exact Node.fresh_same inner (own (by trivial) rfl) _ _

/-- Two compilations of one list consume the same declarations, and make nodes that do the same. -/
theorem compiles_same (grown : S.GrownByResolution w.cache)
    (grown' : S.GrownByResolution v.cache) (covers : S.Covers ds)
    (before : List.Forall₂ (Node.Same S.like) done done')
    (walk : Chain.Compiles S.resolver owner direction take taken done ds w nodes used w')
    (walk' : Chain.Compiles S.resolver owner' direction take taken done' ds v nodes' used' v') :
    used = used' ∧ List.Forall₂ (Node.Same S.like) nodes nodes' := by
  have records := fun owner like => (alike owner like).toAlike
  -- Whether a group is left out is the same for both records.
  have switches (g : Grouping ρ σ) :
      Chain.isInactive owner direction g = Chain.isInactive owner' direction g :=
    (Chain.isInactive_alike (alike owner like) g).symm.trans
      (Chain.isInactive_alike (alike owner' like') g)
  induction walk generalizing done' v nodes' used' v' with
  | full n done ds w =>
    cases walk' with
    | full => exact ⟨rfl, before⟩
    | node open_ | failTo open_ | active open_ | inactive open_ => exact absurd rfl open_
  | atEnd taken done w =>
    cases walk' with
    | atEnd => exact ⟨rfl, before⟩
  | @node _ _ _ _ _ request _ _ _ _ l open_ resolved after ih =>
    cases walk' with
    | full => exact absurd rfl open_
    | node _ resolved' after' =>
      have asked := covers.requests _ List.mem_cons_self request List.mem_cons_self
      have steps := resolve_same impartial alike unmixed like like' asked grown grown' resolved
        resolved'
      obtain ⟨next, -, -⟩ := grown.resolve impartial records like asked resolved
      obtain ⟨next', -, -⟩ := grown'.resolve impartial records like' asked resolved'
      obtain ⟨rfl, same⟩ := ih next next' covers.tail (.cons (Node.leaf_same steps) before) after'
      exact ⟨rfl, same⟩
  | @failTo _ _ _ _ _ _ fallback handler _ _ _ open_ handled after ih =>
    cases walk' with
    | full => exact absurd rfl open_
    | failTo _ handled' after' =>
      cases before with
      | cons last before =>
        have own : (Strategy.recover fallback handler).Same S.like (.recover fallback handler) :=
          .refl trivial fun h found => covers.handlers _ List.mem_cons_self h found
        obtain ⟨rfl, same⟩ := ih grown grown' covers.tail
          (.cons (Node.fresh_same (.cons last .nil) own _ _) before) after'
        exact ⟨rfl, same⟩
  | @active _ _ _ _ _ _ _ g _ _ _ _ _ _ open_ switched opened body joined after ihb iha =>
    cases walk' with
    | full => exact absurd rfl open_
    | inactive _ switched' => cases switched.symm.trans ((switches g).trans switched')
    | active _ switched' opened' body' joined' after' =>
      obtain ⟨rfl, inner⟩ := ihb grown grown' covers.tail .nil body'
      have own : S.Covers [.group g] := covers.of_subset (by simp)
      obtain ⟨next, -⟩ := grown.compiles impartial alike like covers.tail body
      obtain ⟨next', -⟩ := grown'.compiles impartial alike like' covers.tail body'
      have node := join_same impartial alike unmixed like like' next next' own
        (List.forall₂_reverse_iff.mpr inner) joined joined'
      obtain ⟨last, -⟩ := next.join impartial alike like own joined
      obtain ⟨last', -⟩ := next'.join impartial alike like' own joined'
      obtain ⟨rfl, same⟩ := iha last last' (covers.drop _) (.cons node before) after'
      exact ⟨rfl, same⟩
  | @inactive _ _ _ _ _ _ g _ _ _ open_ switched body after ih =>
    cases walk' with
    | full => exact absurd rfl open_
    | active _ switched' => cases switched.symm.trans ((switches g).trans switched')
    | inactive _ switched' body' after' =>
      obtain rfl := body.unique body'
      have empty : (Node.fresh g.name [] .pipe : Node ρ σ).Same S.like (.fresh g.name [] .pipe) :=
        Node.fresh_same .nil .pipe _ _
      obtain ⟨rfl, same⟩ := ih grown grown' (covers.drop _) (.cons empty before) after'
      exact ⟨rfl, same⟩

/-- All declarations of a field compile to callables that do the same. -/
theorem compileAll_same {made made' : Compiled ρ σ} (grown : S.GrownByResolution w.cache)
    (grown' : S.GrownByResolution v.cache) (covers : S.Covers ds)
    (h : Chain.compileAll S.resolver ds owner direction w = (.ok made, w'))
    (h' : Chain.compileAll S.resolver ds owner' direction v = (.ok made', v')) :
    made.run.Same S.like made'.run := by
  obtain ⟨children, used, u, walk, rfl, rfl⟩ := Chain.compileAll_eq_ok.mp h
  obtain ⟨children', used', u', walk', rfl, rfl⟩ := Chain.compileAll_eq_ok.mp h'
  obtain ⟨-, same⟩ := compiles_same impartial alike unmixed like like' grown grown' covers .nil
    walk walk'
  exact Node.compile_same (Node.fresh_same (List.forall₂_reverse_iff.mp same) .pipe _ _)

end Two

end FieldPipeline.Setting
