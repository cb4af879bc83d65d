import FieldPipeline.Proofs.Inventory

namespace FieldPipeline

open Outcome

variable {ρ σ : Type}

/-- What a resolution that succeeds adds to the stock. -/
structure Landing where
  key : String
  argsKey : String
  /-- Whether there is an instance. -/
  backed : Bool

namespace Inventory

def take (stock : Inventory) (l : Landing) : Inventory :=
  (if l.backed then stock.withInstance l.key else stock).withStep l.key l.argsKey

theorem take_comm : RightCommutative take where
  right_comm stock l l' := by
    obtain ⟨key, argsKey, _ | _⟩ := l <;> obtain ⟨key', argsKey', _ | _⟩ := l' <;>
      simp [take, withInstance, withStep, Finset.insert_comm]

end Inventory

/-- The cache has what is in stock, with every instance booted. Boot marks are those of constructed
instances with old numbers and of ready-made ones in their own entries. -/
structure Workspace.Settled (nodes : String → Transformer ρ σ) (w : Workspace ρ σ)
    (stock : Inventory) : Prop where
  stocks : w.cache.Stocks stock
  marked : ∀ k i, w.cache.instance? k = some i → w.cache.isBooted i.id = true
  issued : ∀ n, w.cache.isBooted (.made n) = true → n < w.issued
  ready : ∀ label, w.cache.isBooted (.given label) = true →
    ∃ i, w.cache.instance? (Resolver.instanceKey (nodes label).name (.given label)) = some i

namespace Workspace.Settled

variable {nodes : String → Transformer ρ σ} {w w' : Workspace ρ σ} {stock : Inventory}

theorem of_empty (empty : w.cache = {}) : w.Settled nodes {} where
  stocks := by
    rw [empty]
    exact Cache.stocks_empty
  marked k i there := by
    rw [empty] at there
    cases there
  issued n booted := by
    rw [empty] at booted
    cases booted
  ready label booted := by
    rw [empty] at booted
    cases booted

theorem moved (h : w.Settled nodes stock) (cache : w'.cache = w.cache)
    (issued : w.issued ≤ w'.issued) : w'.Settled nodes stock := by
  refine ⟨?_, ?_, ?_, ?_⟩ <;> rw [cache]
  · exact h.stocks
  · exact h.marked
  · exact fun n booted => (h.issued n booted).trans_le issued
  · exact h.ready

theorem steps (h : w.Settled nodes stock) {key argsKey : String} {s : Compiled ρ σ}
    (steps : Resolver.Steps key argsKey w s w') :
    w'.Settled nodes (stock.withStep key argsKey) := by
  cases steps with
  | cached there =>
    rw [h.stocks.withStep there]
    exact h
  | compiled run new =>
    refine ⟨h.stocks.keepStep key argsKey _, ?_, ?_, ?_⟩
    · intro k i there
      rw [Cache.instance?_keepStep] at there
      exact h.marked k i there
    · exact fun n booted => (h.issued n booted).trans (Nat.lt_succ_self _)
    · intro label booted
      rw [Cache.instance?_keepStep]
      exact h.ready label booted

/-- A new instance is stored and booted. -/
theorem enter (h : w.Settled nodes stock) {key : String} {i : Instance ρ σ} {n : Nat}
    (absent : w.cache.instance? key = none)
    (counted : n = w.cache.instantiations + if key.toList.head? = some 't' then 1 else 0)
    (cache : w'.cache = { (w.cache.keepInstance key i).2.noteBooted i.id with instantiations := n })
    (issued : w.issued ≤ w'.issued) (made : ∀ n, i.id = .made n → n < w'.issued)
    (given_ : ∀ label, i.id = .given label →
      key = Resolver.instanceKey (nodes label).name (.given label)) :
    w'.Settled nodes (stock.withInstance key) := by
  have found (k : String) : w'.cache.instance? k =
      if k = key then some i else w.cache.instance? k := by
    rw [cache]
    change (w.cache.keepInstance key i).2.instance? k = _
    simp [absent]
  have marks (id : InstanceId) : w'.cache.isBooted id = true ↔
      id = i.id ∨ w.cache.isBooted id = true := by
    rw [cache]
    change decide (id ∈ i.id :: w.cache.booted) = true ↔ _
    simp [Cache.isBooted]
  refine ⟨?_, ?_, ?_, ?_⟩
  · rw [cache]
    exact h.stocks.keepInstance absent counted
  · intro k j there
    rw [found] at there
    rw [marks]
    split at there
    · cases there
      exact .inl rfl
    · exact .inr (h.marked k j there)
  · intro m booted
    obtain own | before := (marks _).mp booted
    · exact made m own.symm
    · exact (h.issued m before).trans_le issued
  · intro label booted
    rw [found]
    split
    · exact ⟨i, rfl⟩
    · next other =>
      obtain own | before := (marks _).mp booted
      · exact absurd (given_ label own.symm).symm other
      · exact h.ready label before

end Workspace.Settled

namespace Resolver

variable [Record ρ σ]

/-- A node that may be built for a request, in one state or another. -/
inductive Supplied (r : Resolver ρ σ) (owner : ρ) (request : Request ρ σ) :
    Transformer ρ σ → Prop
  | given {label : String} {t : Transformer ρ σ} (identity : request.identity = .given label t) :
      Supplied r owner request t
  | constructed {name : String} {registry : Registry ρ σ} {t : Transformer ρ σ}
      {w w' : Workspace ρ σ} (identity : request.identity = .named name)
      (registered : r.registry = some registry)
      (made : r.prepare registry name request.constructorArgs w = (.ok t, w')) :
      Supplied r owner request t
  | answered {name : String} {t : Transformer ρ σ} {s s' : RunState σ}
      (identity : request.identity = .named name) (last : r.place owner name = .fallback)
      (answer : r.lastAnswer name request owner s = (some (.node t), s')) :
      Supplied r owner request t

/-- Whether a node for the request can be constructed, and then booted for the owner, does not
depend on the state; nor does it whether the last resort answers with a new node or with a callable.
-/
structure Dependable (r : Resolver ρ σ) (owner : ρ) (request : Request ρ σ) : Prop where
  constructs : ∀ registry name, r.registry = some registry → request.identity = .named name →
    ∀ w v, (r.prepare registry name request.constructorArgs w).1.isOk =
      (r.prepare registry name request.constructorArgs v).1.isOk
  boots : ∀ t u, Supplied r owner request t → Supplied r owner request u → ∀ s s',
    (t.boot owner s).1.isOk = (u.boot owner s').1.isOk
  answers : ∀ name s s', request.identity = .named name →
    (r.lastAnswer name request owner s).1.map Fallback.isNode =
      (r.lastAnswer name request owner s').1.map Fallback.isNode
  unkept : ∀ name s label t, request.identity = .named name →
    (r.lastAnswer name request owner s).1 ≠ some (.kept label t)

variable {r : Resolver ρ σ} {owner : ρ} {request : Request ρ σ} {key : String} {i : Instance ρ σ}
  {constructed : Option (String × String)} {w w' : Workspace ρ σ}
  {nodes : String → Transformer ρ σ} {stock : Inventory}

theorem isOk_iff {α : Type} {result : Except Fault α} :
    result.isOk = true ↔ ∃ a, result = .ok a := by
  cases result <;> simp [Except.isOk, Except.toBool]

/-- What is on offer and not there yet was supplied for the request. -/
theorem Offers.supplied (h : Offers r owner request w key i constructed w')
    (absent : w.cache.instance? key = none)
    (unkept : ∀ name s label t, request.identity = .named name →
      (r.lastAnswer name request owner s).1 ≠ some (.kept label t)) :
    Supplied r owner request i.node := by
  cases h with
  | given identity => exact .given identity
  | cached identity type there => cases there.symm.trans absent
  | constructed identity registered known isNode new declared made =>
    exact .constructed identity registered made
  | answered identity unknown free last answer =>
    exact .answered identity (place_fallback_iff.mpr ⟨unknown, free⟩)
      (lastAnswer_of_some last answer)
  | kept identity unknown free last answer =>
    exact absurd (congrArg Prod.fst (lastAnswer_of_some last answer))
      (unkept _ w.run _ _ identity)

/-- What is on offer and not there yet has a name of its own, and it is counted if it is of a
type. -/
theorem Offers.novel (h : Offers r owner request w key i constructed w')
    (settled : w.Settled nodes stock) (absent : w.cache.instance? key = none)
    (labels : ∀ label t, request.identity = .given label t → t = nodes label)
    (unkept : ∀ name s label t, request.identity = .named name →
      (r.lastAnswer name request owner s).1 ≠ some (.kept label t)) :
    w'.cache = { w.cache with instantiations := w.cache.instantiations +
      if key.toList.head? = some 't' then 1 else 0 } ∧
    w'.cache.isBooted i.id = false ∧ (∀ n, i.id = .made n → n < w'.issued) ∧
    ∀ label, i.id = .given label → key = instanceKey (nodes label).name (.given label) := by
  have unmarked : w.cache.isBooted (.made w.issued) = false := by
    apply Bool.eq_false_of_not_eq_true
    intro booted
    exact (settled.issued _ booted).false
  cases h with
  | @given label t identity =>
    obtain rfl := labels label t identity
    have head : (instanceKey (nodes label).name (.given label)).toList.head? = some 'i' := by
      simp [instanceKey]
    refine ⟨by simp [head], ?_, by simp, ?_⟩
    · apply Bool.eq_false_of_not_eq_true
      intro booted
      obtain ⟨j, there⟩ := settled.ready label booted
      cases absent.symm.trans there
    · intro other same
      cases same
      rfl
  | cached identity type there => cases there.symm.trans absent
  | @constructed name registry info t s identity registered known isNode new declared made =>
    have head : (typeKey name request.constructorArgs).toList.head? = some 't' := by
      simp [typeKey]
    refine ⟨by simp [head, Cache.countInstantiation], unmarked, ?_, by simp⟩
    intro n same
    cases same
    exact Nat.lt_succ_self _
  | @answered name resolve t s identity unknown free last answer =>
    have head : (fallbackKey name request.constructorArgs).toList.head? = some 'f' := by
      simp [fallbackKey]
    refine ⟨by simp [head], unmarked, ?_, by simp⟩
    intro n same
    cases same
    exact Nat.lt_succ_self _
  | kept identity unknown free last answer =>
    exact absurd (congrArg Prod.fst (lastAnswer_of_some last answer))
      (unkept _ w.run _ _ identity)

theorem Offers.issued (h : Offers r owner request w key i constructed w') :
    w.issued ≤ w'.issued := by
  cases h with
  | constructed | answered => exact Nat.le_succ _
  | given | cached | kept => exact Nat.le_refl _

/-- An entry has its instance booted from the first resolution on that comes to it. -/
theorem Offers.settles (offers : Offers r owner request w key i constructed w')
    (settled : w.Settled nodes stock)
    (labels : ∀ label t, request.identity = .given label t → t = nodes label)
    (unkept : ∀ name s label t, request.identity = .named name →
      (r.lastAnswer name request owner s).1 ≠ some (.kept label t))
    (boots : w.cache.instance? key = none → ∀ s, ∃ s', i.node.boot owner s = (.ok (), s')) :
    ∃ outcome u, Boots (w'.store key i).1 owner (w'.store key i).2 outcome u ∧
      outcome.getD (.ok ()) = .ok () ∧ u.Settled nodes (stock.withInstance key) := by
  cases there : w.cache.instance? key with
  | some kept =>
    obtain ⟨name, registry, s, -, -, new, -⟩ | ⟨same, -⟩ := offers.counts
    · cases there.symm.trans new
    rw [Workspace.store_of_some ((offers.instance? key).trans there),
      settled.stocks.withInstance there]
    have moved := settled.moved same offers.issued
    refine ⟨none, w', .before ?_, rfl, moved⟩
    rw [same]
    exact settled.marked key kept there
  | none =>
    obtain ⟨cache, unmarked, made, given_⟩ := offers.novel settled there labels unkept
    obtain ⟨s, ran⟩ := boots there w'.run
    have first : (w'.store key i).1 = i := by
      change (w'.cache.instance? key).getD i = i
      rw [offers.instance?, there]
      rfl
    rw [first]
    refine ⟨_, _, .succeeded unmarked ran, rfl, settled.enter (i := i) there rfl ?_ offers.issued
      made given_⟩
    change (w'.cache.keepInstance key i).2.noteBooted i.id = _
    rw [cache]
    rfl

/-- What was on offer where nothing was stored is on offer in every state, if not the very same
instance. -/
theorem Dependable.offers (h : r.Dependable owner request)
    (offers : Offers r owner request w key i constructed w')
    (absent : w.cache.instance? key = none) (v : Workspace ρ σ) :
    ∃ i constructed v', Offers r owner request v key i constructed v' := by
  cases offers with
  | given identity => exact ⟨_, _, v, .given identity⟩
  | cached identity type there => cases there.symm.trans absent
  | @constructed name registry info t s identity registered known isNode new declared made =>
    cases there : v.cache.instance? (typeKey name request.constructorArgs) with
    | some kept =>
      have type : r.IsType name := ⟨info, info?_registered registered known, isNode⟩
      exact ⟨_, _, v, .cached identity type there⟩
    | none =>
      have same := h.constructs registry name registered identity w v
      obtain ⟨result, s', made'⟩ := r.prepare_frame registry name request.constructorArgs v
      rw [made, made'] at same
      obtain ⟨u, rfl⟩ := isOk_iff.mp same.symm
      exact ⟨_, _, _, .constructed identity registered known isNode there declared made'⟩
  | @answered name resolve t s identity unknown free last answer =>
    have same := h.answers name w.run v.run identity
    rw [lastAnswer_of_some last answer] at same
    rcases asked : r.lastAnswer name request owner v.run with ⟨_ | answered, s'⟩
    · rw [asked] at same
      cases same
    rw [asked] at same
    obtain ⟨resolve', last', answer'⟩ := lastAnswer_eq_some asked
    cases answered with
    | node u => exact ⟨_, _, _, .answered identity unknown free last' answer'⟩
    | kept label u =>
      exact absurd (congrArg Prod.fst asked) (h.unkept name v.run label u identity)
    | callable run => cases same
  | kept identity unknown free last answer =>
    exact absurd (congrArg Prod.fst (lastAnswer_of_some last answer))
      (h.unkept _ w.run _ _ identity)

/-- A request that resolves where nothing is stored stands for one choice in every settled state,
and what is chosen is booted there. -/
theorem Dependable.locates (h : r.Dependable owner request)
    (labels : ∀ label t, request.identity = .given label t → t = nodes label)
    (empty : w.cache = {}) {found : Resolution ρ σ} {c : Choice} (chosen : found.choice? = some c)
    (located : Locates r owner request w (.ok found) w') :
    ∃ key, ∃ backed : Bool, ∀ v stock, v.Settled nodes stock → ∃ found v' c,
      Locates r owner request v (.ok found) v' ∧ found.choice? = some c ∧ c.key = key ∧
      v'.Settled nodes (if backed then stock.withInstance key else stock) := by
  generalize ended : Except.ok found = result at located
  cases located with
  | @node key i constructed outcome w₁ w₂ offers boots =>
    refine ⟨key, true, ?_⟩
    intro v stock settled
    have absent : w.cache.instance? key = none := by
      rw [empty]
      rfl
    obtain ⟨-, unmarked, -, -⟩ := offers.novel (.of_empty empty) absent labels h.unkept
    have first : (w₁.store key i).1 = i := by
      change (w₁.cache.instance? key).getD i = i
      rw [offers.instance?, absent]
      rfl
    rw [first] at boots
    have booted : ∃ s, (i.node.boot owner s).1.isOk = true := by
      cases boots with
      | before marked => cases unmarked.symm.trans marked
      | succeeded new ran => exact ⟨_, congrArg (·.1.isOk) ran⟩
      | failed new ran => cases ended
    obtain ⟨s, booted⟩ := booted
    have supplied := offers.supplied absent h.unkept
    obtain ⟨j, constructed', v₁, offers'⟩ := h.offers offers absent v
    have boots' (new : v.cache.instance? key = none) (s' : RunState σ) :
        ∃ s'', j.node.boot owner s' = (.ok (), s'') := by
      have same := h.boots _ _ supplied (offers'.supplied new h.unkept) s s'
      obtain ⟨⟨⟩, ok⟩ := isOk_iff.mp (same.symm.trans booted)
      exact ⟨_, Prod.ext ok rfl⟩
    obtain ⟨outcome', v₂, boots', fine, settled'⟩ :=
      offers'.settles settled labels h.unkept boots'
    have located := Locates.node offers' boots'
    rw [fine] at located
    exact ⟨_, v₂, _, located, rfl, rfl, settled'⟩
  | foreign | undeclared | unprepared => cases ended
  | @method name arity identity unknown there =>
    refine ⟨methodKey (Record.typeName owner) (methodName name), false, ?_⟩
    intro v stock settled
    exact ⟨_, v, _, .method identity unknown there, rfl, rfl, settled⟩
  | @raw name run s identity unknown free answer =>
    refine ⟨fallbackKey name request.constructorArgs, false, ?_⟩
    intro v stock settled
    have same := h.answers name w.run v.run identity
    rw [answer] at same
    rcases asked : r.lastAnswer name request owner v.run with ⟨_ | answered, s'⟩
    · rw [asked] at same
      cases same
    rw [asked] at same
    cases answered with
    | node u => cases same
    | kept label u => cases same
    | callable run' =>
      exact ⟨_, _, _, .raw identity unknown free asked, rfl, rfl,
        settled.moved rfl (Nat.le_refl _)⟩
  | unresolved =>
    cases ended
    cases chosen

/-- A request that resolves where nothing is stored resolves in every settled state, and adds the
same to the stock. -/
theorem Dependable.lands (h : r.Dependable owner request)
    (labels : ∀ label t, request.identity = .given label t → t = nodes label)
    (empty : w.cache = {}) {l : Leaf ρ σ}
    (alone : r.resolve (.node request) owner w = (.ok l, w')) :
    ∃ landing, ∀ v stock, v.Settled nodes stock → ∃ l v',
      r.resolve (.node request) owner v = (.ok l, v') ∧
      v'.Settled nodes (stock.take landing) := by
  obtain ⟨found, u, located, made⟩ := bind_eq_ok.mp alone
  obtain ⟨c, chosen⟩ := leaf_chosen made
  obtain ⟨key, backed, locates⟩ := h.locates labels empty chosen (locate_iff.mp located)
  refine ⟨⟨key, Arg.key request.callArgs, backed⟩, ?_⟩
  intro v stock settled
  obtain ⟨found', v', c', located', chosen', rfl, settled'⟩ := locates v stock settled
  obtain ⟨l', v'', made', steps, -, -⟩ :=
    leaf_total chosen' r (Declaration.node request).name request.callArgs owner v'
  refine ⟨l', v'', ?_, settled'.steps steps⟩
  rw [resolve, bind_of_ok located'.run]
  exact made'

/-- Resolves declarations, each for its owner, one after the other. -/
def resolveEach (r : Resolver ρ σ) (calls : List (Declaration ρ σ × ρ)) :
    Build ρ σ (List (Leaf ρ σ)) :=
  calls.mapM fun call => r.resolve call.1 call.2

theorem resolveEach_settles {lands : Declaration ρ σ × ρ → Landing}
    {calls : List (Declaration ρ σ × ρ)} (each : ∀ call ∈ calls, ∀ v stock,
      v.Settled nodes stock → ∃ l v', r.resolve call.1 call.2 v = (.ok l, v') ∧
        v'.Settled nodes (stock.take (lands call)))
    (settled : w.Settled nodes stock) : ∃ leaves w', r.resolveEach calls w = (.ok leaves, w') ∧
      w'.Settled nodes ((calls.map lands).foldl Inventory.take stock) := by
  induction calls generalizing w stock with
  | nil => exact ⟨[], w, rfl, settled⟩
  | cons call rest ih =>
    obtain ⟨first, others⟩ := List.forall_mem_cons.mp each
    obtain ⟨l, v, resolved, settled'⟩ := first w stock settled
    obtain ⟨leaves, w', ran, settled''⟩ := ih others settled'
    refine ⟨l :: leaves, w', ?_, settled''⟩
    rw [resolveEach, List.mapM_cons, bind_of_ok resolved]
    exact bind_of_ok ran _

/-- In whichever order declarations are resolved, each of which resolves where nothing is stored,
all of them resolve, and the cache is listed the same in the end. -/
theorem resolveEach_perm {calls order : List (Declaration ρ σ × ρ)}
    (alone : ∀ call ∈ calls, ∃ w l w', w.cache = {} ∧ r.resolve call.1 call.2 w = (.ok l, w'))
    (dependable : ∀ call ∈ calls, ∀ request, call.1 = .node request → r.Dependable call.2 request)
    (labels : ∀ call ∈ calls, ∀ request label t, call.1 = .node request →
      request.identity = .given label t → t = nodes label)
    (perm : order.Perm calls) {start start' : Workspace ρ σ} (empty : start.cache = {})
    (empty' : start'.cache = {}) :
    ∃ leaves w leaves' w', r.resolveEach calls start = (.ok leaves, w) ∧
      r.resolveEach order start' = (.ok leaves', w') ∧ w.cache.listing = w'.cache.listing := by
  have landing (call : Declaration ρ σ × ρ) : ∃ landing, call ∈ calls → ∀ v stock,
      v.Settled nodes stock → ∃ l v', r.resolve call.1 call.2 v = (.ok l, v') ∧
        v'.Settled nodes (stock.take landing) := by
    by_cases mem : call ∈ calls
    · obtain ⟨d, owner⟩ := call
      obtain ⟨w, l, w', empty, resolved⟩ := alone _ mem
      cases d with
      | failTo fallback handler | group g => cases resolved
      | node request =>
        obtain ⟨landing, lands⟩ := (dependable _ mem request rfl).lands
          (fun label t => labels _ mem request label t rfl) empty resolved
        exact ⟨landing, fun _ => lands⟩
    · exact ⟨⟨"", "", false⟩, fun there => absurd there mem⟩
  choose lands each using landing
  obtain ⟨leaves, w, ran, settled⟩ := resolveEach_settles (r := r) each (.of_empty empty)
  obtain ⟨leaves', w', ran', settled'⟩ := resolveEach_settles (r := r)
    (fun call (mem : call ∈ order) => each call (perm.mem_iff.mp mem)) (.of_empty empty')
  refine ⟨leaves, w, leaves', w', ran, ran', ?_⟩
  have := Inventory.take_comm
  rw [(perm.map lands).foldl_eq] at settled'
  exact settled.stocks.listing_eq settled'.stocks

/-- Two uses of one type and a name that the last resort knows, in two orders. -/
theorem resolveEach_perm_plain :
    let plain : Transformer Scripted.Form Scripted.Desk :=
      { name := "Plain", apply := fun v _ _ => pure v }
    let r : Resolver Scripted.Form Scripted.Desk :=
      { registry := some (Registry.add [] "Plain" fun _ => pure plain)
        fallback := some fun _ _ _ => pure (some (.callable fun v _ _ => pure v)) }
    let call (name : String) (n : Int) : Declaration Scripted.Form Scripted.Desk × Scripted.Form :=
      (.node { identity := .named name, callArgs := [.int n] }, {})
    let start : Workspace Scripted.Form Scripted.Desk := { run := { app := {} } }
    ∃ leaves w leaves' w',
      r.resolveEach [call "Plain" 1, call "Else" 0, call "Plain" 2] start = (.ok leaves, w) ∧
      r.resolveEach [call "Plain" 2, call "Else" 0, call "Plain" 1] start = (.ok leaves', w') ∧
      w.cache.listing = w'.cache.listing := by
  intro plain r call start
  have built (w : Workspace Scripted.Form Scripted.Desk) (registry) (name : String)
      (registered : r.registry = some registry) : (r.prepare registry name none w).1 =
        if name = "Plain" then .ok plain else .error (.configuration (.unregistered name)) := by
    cases registered
    by_cases own : name = "Plain"
    · subst own
      rfl
    · rw [if_neg own, prepare, bind_run, Build.ofAct, Registry.instantiate]
      simp only [Registry.add, Table.put, Table.get?, if_neg (Ne.symm own)]
      rfl
  have dependable (name : String) (n : Int) :
      r.Dependable ({} : Scripted.Form) { identity := .named name, callArgs := [.int n] } := by
    refine ⟨?_, ?_, fun _ _ _ _ => rfl, ?_⟩
    · intro registry name' registered _ w v
      rw [built w registry name' registered, built v registry name' registered]
    · intro t u supplied supplied' s s'
      have plain_ {t : Transformer Scripted.Form Scripted.Desk}
          (supplied : Supplied r ({} : Scripted.Form)
            { identity := .named name, callArgs := [.int n] } t) : t = plain := by
        cases supplied with
        | given identity => cases identity
        | @constructed name' registry t w w' identity registered made =>
          have same := (built w registry name' registered).symm.trans (congrArg Prod.fst made)
          split at same
          · cases same
            rfl
          · cases same
        | answered identity last answer => cases answer
      rw [plain_ supplied, plain_ supplied']
      rfl
    · intro name' s label t _ kept
      cases kept
  let calls := [call "Plain" 1, call "Else" 0, call "Plain" 2]
  have labels : ∀ call ∈ calls, ∀ request label t, call.1 = .node request →
      request.identity = .given label t → t = (fun _ => plain) label := by
    simp only [calls, List.forall_mem_cons]
    refine ⟨?_, ?_, ?_, List.forall_mem_nil _⟩ <;>
    · rintro request label t ⟨⟩ identity
      cases identity
  refine resolveEach_perm ?_ ?_ labels (List.reverse_perm calls) rfl rfl
  · simp only [calls, List.forall_mem_cons]
    exact ⟨⟨start, _, _, rfl, rfl⟩, ⟨start, _, _, rfl, rfl⟩, ⟨start, _, _, rfl, rfl⟩,
      List.forall_mem_nil _⟩
  · simp only [calls, List.forall_mem_cons]
    refine ⟨?_, ?_, ?_, List.forall_mem_nil _⟩ <;>
    · rintro request ⟨⟩
      exact dependable _ _

end Resolver

end FieldPipeline
