import FieldPipeline.Proofs.Answers
import FieldPipeline.Proofs.Growth

namespace FieldPipeline

variable {ρ σ : Type} {P : Callable ρ σ → Prop} {K : String → Prop}

/-- A callable that runs code with the property `P` as a node. -/
def Callable.RunsAsNode (P : Callable ρ σ → Prop) (run : Callable ρ σ) : Prop :=
  ∃ name body, run = Callable.asNode name body ∧ P body

/-- Under the keys `K` a cache has nothing but code with the property `P`, and its steps run as
nodes. -/
structure Cache.Holds (K : String → Prop) (P : Callable ρ σ → Prop) (c : Cache ρ σ) : Prop where
  instances : ∀ {key i}, K key → c.instance? key = some i → i.node.Does P
  steps : ∀ {key argsKey s}, K key → c.step? key argsKey = some s → s.run.RunsAsNode P

namespace Cache.Holds

variable {c : Cache ρ σ}

theorem of_empty (h : c.entries = []) : c.Holds K P where
  instances _ found := by
    rw [instance?, entry, h] at found
    cases found
  steps _ found := by
    rw [step?, entry, h] at found
    cases found

theorem keepInstance (h : c.Holds K P) {key : String} {i : Instance ρ σ} (hk : K key)
    (hi : i.node.Does P) : (c.keepInstance key i).2.Holds K P where
  instances used found := by
    obtain there | ⟨-, rfl, rfl⟩ := keepInstance_cases found
    · exact h.instances used there
    · exact hi
  steps used found := by
    rw [step?_keepInstance] at found
    exact h.steps used found

theorem keepStep (h : c.Holds K P) {key argsKey : String} {s : Compiled ρ σ} (hk : K key)
    (hs : s.run.RunsAsNode P) : (c.keepStep key argsKey s).2.Holds K P where
  instances used found := by
    rw [instance?_keepStep] at found
    exact h.instances used found
  steps used found := by
    obtain there | ⟨-, ⟨rfl, rfl⟩, rfl⟩ := keepStep_cases found
    · exact h.steps used there
    · exact hs

end Cache.Holds

/-- What a site runs for a leaf or a condition is code with the property `P`, as a node. -/
def Site.Does (P : Callable ρ σ → Prop) : Site ρ σ → Prop
  | leaf l _ => l.step.run.RunsAsNode P
  | predicate run _ => run.RunsAsNode P
  | handler .. | refusal .. => True

/-- What runs as a node leaves the trace as it finds it if the code inside does. -/
theorem Callable.RunsAsNode.balanced {run : Callable ρ σ} {v : Value} {scope : Scope ρ}
    (h : run.RunsAsNode P) (inside : ∀ body, P body → ∀ s, (body v scope s).2.trace = s.trace)
    (s : RunState σ) : (run v scope s).2.trace = s.trace := by
  obtain ⟨name, body, rfl, own⟩ := h
  exact Callable.asNode_trace (inside body own) name s

namespace Node

def Does (P : Callable ρ σ → Prop) (node : Node ρ σ) : Prop :=
  ∀ site, node.MayAsk site → site.Does P

theorem does_leaf {l : Leaf ρ σ} (h : l.step.run.RunsAsNode P) : (leaf l).Does P := by
  intro site asked
  obtain ⟨v, rfl⟩ := mayAsk_leaf.mp asked
  exact h

theorem does_fresh {name : String} {children : List (Node ρ σ)} {strategy : Strategy ρ σ}
    (inner : ∀ child ∈ children, child.Does P) (own : strategy.Does (·.RunsAsNode P)) :
    (fresh name children strategy).Does P := by
  intro site asked
  rcases mayAsk_fresh.mp asked with asks | ⟨child, hc, asked⟩
  · cases asks with
    | predicate v => exact own
    | _ => trivial
  · exact inner child hc site asked

end Node

/-- That a cache has nothing but code with a property, which runs as nodes, is an invariant. -/
def Upkeep.supply (K : String → Prop) (P : Callable ρ σ → Prop) : Upkeep ρ σ where
  holds := Cache.Holds K P
  uses := K
  code := P
  step := Callable.RunsAsNode P
  tree := Node.Does P
  instances h := h.instances
  steps h := h.steps
  keepInstance h hk hi := h.keepInstance hk hi
  keepStep h hk hs := h.keepStep hk hs
  noteBooted h := ⟨h.instances, h.steps⟩
  countInstantiation h := ⟨h.instances, h.steps⟩
  asNode h := ⟨_, _, rfl, h⟩
  leaf := Node.does_leaf
  fresh := Node.does_fresh

namespace Chain

variable [Record ρ σ]

/-- What declarations may resolve to has the property `P`. -/
def Supplied (r : Resolver ρ σ) (owner : ρ) (P : Callable ρ σ → Prop)
    (ds : List (Declaration ρ σ)) : Prop :=
  ∀ d ∈ ds, ∀ need ∈ d.requests, r.Supplies owner P need

/-- The keys of the cache entries that declarations may resolve to. -/
def Uses (owner : ρ) (ds : List (Declaration ρ σ)) (key : String) : Prop :=
  ∃ d ∈ ds, ∃ need ∈ d.requests, key ∈ Resolver.keysOf owner need

/-- What compilation makes of declarations runs supplied code only, as nodes. -/
theorem compile_does {r : Resolver ρ σ} {q q' : Queue ρ σ} {owner : ρ} {direction : Direction}
    {take : Take} {root : Node ρ σ} {w w' : Workspace ρ σ}
    (built : compile r q owner direction take w = ((.ok root, q'), w'))
    (supplied : Supplied r owner P q.rest) (held : w.cache.Holds (Uses owner q.rest) P) :
    root.Does P := by
  have refers : ∀ d ∈ q.rest, Refers (.supply (Uses owner q.rest) P) r owner d :=
    fun d hd need hn => ⟨supplied d hd need hn, fun key hk => ⟨d, hd, need, hn, hk⟩⟩
  have made := (keeps_compile refers direction take held).2
  rw [built] at made
  exact made root rfl

end Chain

end FieldPipeline
