import FieldPipeline.Proofs.Plan

namespace FieldPipeline

open Outcome

variable {ρ σ α : Type}

namespace Act

variable {change : List String → Rejection → Rejection} {body : Act σ α} {s : RunState σ}

@[simp] theorem onRejection_snd : (onRejection change body s).2 = (body s).2 := by
  unfold onRejection
  rcases body s with ⟨fault | a, s'⟩
  · cases fault <;> rfl
  · rfl

theorem onRejection_hard {fault : Fault} (hard : ∀ r, fault ≠ .rejected r) :
    (onRejection change body s).1 = .error fault ↔ (body s).1 = .error fault := by
  unfold onRejection
  rcases body s with ⟨raised | a, s'⟩
  · cases raised with
    | rejected r =>
      constructor <;> intro h <;> cases h
      · exact absurd rfl (hard _)
      · exact absurd rfl (hard r)
    | _ => rfl
  · rfl

theorem onRejection_rejected {r : Rejection} :
    (onRejection change body s).1 = .error (.rejected r) ↔
      ∃ raised, (body s).1 = .error (.rejected raised) ∧
        r = change (body s).2.trace.frames raised := by
  unfold onRejection
  rcases body s with ⟨fault | a, s'⟩
  · cases fault with
    | rejected raised =>
      constructor
      · intro h
        cases h
        exact ⟨raised, rfl, rfl⟩
      · rintro ⟨_, h, rfl⟩
        cases h
        rfl
    | _ =>
      constructor
      · intro h
        cases h
      · rintro ⟨_, h, -⟩
        cases h
  · constructor
    · intro h
      cases h
    · rintro ⟨_, h, -⟩
      cases h

end Act

namespace Scope

/-- The state under a frame. -/
def enter (scope : Scope ρ) (name : String) (s : RunState σ) : RunState σ :=
  if scope.tracePaths then { s with trace := s.trace.push name } else s

/-- The frames that a run keeps for the elements at these positions. -/
def elementFrames (scope : Scope ρ) (place : List Nat) : List String :=
  if scope.tracePaths then place.map fun i => "[" ++ toString i ++ "]" else []

@[simp] theorem elementFrames_nil (scope : Scope ρ) : scope.elementFrames [] = [] := by
  rw [elementFrames]
  split <;> rfl

variable (scope : Scope ρ) (name : String) (body : Act σ α) (s : RunState σ)

@[simp] theorem enter_frames :
    (scope.enter name s).trace.frames =
      s.trace.frames ++ if scope.tracePaths then [name] else [] := by
  unfold enter
  split
  · rfl
  · exact (List.append_nil _).symm

theorem enter_element (i : Nat) (inner : List Nat) :
    (scope.enter ("[" ++ toString i ++ "]") s).trace.frames ++ scope.elementFrames inner =
      s.trace.frames ++ scope.elementFrames (i :: inner) := by
  rw [enter_frames, List.append_assoc]
  unfold elementFrames
  split <;> rfl

@[simp] theorem enter_app : (scope.enter name s).app = s.app := by
  unfold enter
  split <;> rfl

@[simp] theorem framed_fst : (scope.framed name body s).1 = (body (scope.enter name s)).1 := by
  unfold framed enter
  split <;> rfl

@[simp] theorem framed_app :
    (scope.framed name body s).2.app = (body (scope.enter name s)).2.app := by
  unfold framed enter
  split <;> rfl

variable {scope name body s}

/-- A frame is gone afterwards if everything on top of it is. -/
theorem framed_trace (h : (body (scope.enter name s)).2.trace = (scope.enter name s).trace) :
    (scope.framed name body s).2.trace = s.trace := by
  unfold framed enter at *
  split
  · next traced =>
    rw [if_pos traced] at h
    change (body _).2.trace.cut s.trace.depth = s.trace
    rw [h, Trace.cut, Trace.push, Trace.depth, List.take_left]
  · next untraced =>
    rw [if_neg untraced] at h
    exact h

end Scope

/-- Code that leaves the trace as it finds it does so as a node too. -/
theorem Callable.asNode_trace {body : Callable ρ σ} {v : Value} {scope : Scope ρ}
    (balanced : ∀ s, (body v scope s).2.trace = s.trace) (name : String) (s : RunState σ) :
    (body.asNode name v scope s).2.trace = s.trace := by
  refine Scope.framed_trace ?_
  rw [Act.onRejection_snd]
  exact balanced _

/-- What one site came to in the course of a run. -/
structure Answer (ρ σ : Type) where
  site : Site ρ σ
  /-- The positions of the elements around the site, outermost first. -/
  place : List Nat
  before : RunState σ
  result : Except Fault Value
  after : RunState σ

/-- Answers that take the application's state from `a` to `b`, each from where the one before left
it. -/
def Answer.Linked : σ → List (Answer ρ σ) → σ → Prop
  | a, [], b => a = b
  | a, answer :: rest, b => answer.before.app = a ∧ Linked answer.after.app rest b

theorem Answer.Linked.append {a b c : σ} {earlier later : List (Answer ρ σ)}
    (h : Linked a earlier b) (h' : Linked b later c) : Linked a (earlier ++ later) c := by
  induction earlier generalizing a with
  | nil =>
    cases h
    exact h'
  | cons answer rest ih => exact ⟨h.1, ih h.2⟩

theorem Answer.Linked.last {a b : σ} {earlier : List (Answer ρ σ)} {answer : Answer ρ σ}
    (h : Linked a (earlier ++ [answer]) b) : answer.after.app = b := by
  induction earlier generalizing a with
  | nil => exact h.2
  | cons first rest ih => exact ih h.2

/-- The rejection `raised`, from inside the elements at `inner`. -/
def Rejection.Relays (r raised : Rejection) (inner : List Nat) : Prop :=
  r = { raised with
    template := r.template, overridden := r.overridden, indices := inner ++ raised.indices }

theorem Rejection.Relays.refl (r : Rejection) : r.Relays r [] := rfl

theorem Rejection.Relays.origin {r raised : Rejection} {inner : List Nat}
    (h : r.Relays raised inner) : r.origin = raised.origin := by
  rw [Relays] at h
  rw [h]

theorem Rejection.Relays.path {r raised : Rejection} {inner : List Nat}
    (h : r.Relays raised inner) : r.path = raised.path := by
  rw [Relays] at h
  rw [h]

theorem Rejection.Relays.indices {r raised : Rejection} {inner : List Nat}
    (h : r.Relays raised inner) : r.indices = inner ++ raised.indices := by
  rw [Relays] at h
  rw [h]

theorem Rejection.Relays.inElement {r raised : Rejection} {inner : List Nat}
    (h : r.Relays raised inner) (i : Nat) : (r.inElement i).Relays raised (i :: inner) := by
  rw [Relays] at h ⊢
  rw [h]
  rfl

theorem Rejection.Relays.retemplate {r raised : Rejection} {inner : List Nat}
    (h : r.Relays raised inner) (template : Option String) (pairs : List (String × String)) :
    (Strategy.retemplate template pairs r).Relays raised inner := by
  unfold Strategy.retemplate
  split
  · exact h
  split
  · rw [Relays] at h ⊢
    rw [h]
    rfl
  · exact h

/-- A site that leaves the trace as it finds it. -/
def Site.Balanced [Record ρ σ] (scope : Scope ρ) (site : Site ρ σ) : Prop :=
  ∀ s, (site.run scope s).2.trace = s.trace

namespace Plan

variable [Record ρ σ]

/-- The answers in a run that starts at `place`, in order. -/
def answers (scope : Scope ρ) :
    {α : Type} → Plan ρ σ α → List Nat → RunState σ → List (Answer ρ σ)
  | _, done _, _, _ => []
  | _, ask site, place, s => [⟨site, place, s, (site.run scope s).1, (site.run scope s).2⟩]
  | _, andThen first next, place, s =>
    first.answers scope place s ++
      match first.run scope s with
      | (.ok a, s') => (next a).answers scope place s'
      | (.error _, _) => []
  | _, element i inner, place, s =>
    inner.answers scope (place ++ [i]) (scope.enter ("[" ++ toString i ++ "]") s)
  | _, orElse first next, place, s =>
    first.answers scope place s ++
      match first.run scope s with
      | (.error (.rejected r), s') => (next r).answers scope place s'
      | _ => []
  | _, retemplate _ _ inner, place, s => inner.answers scope place s

variable {scope : Scope ρ} {plan : Plan ρ σ α} {place : List Nat} {s : RunState σ}
  {answer : Answer ρ σ}

theorem answers_andThen {β : Type} (first : Plan ρ σ α) (next : α → Plan ρ σ β) :
    (andThen first next).answers scope place s = first.answers scope place s ++
      match first.run scope s with
      | (.ok a, s') => (next a).answers scope place s'
      | (.error _, _) => [] := by
  rw [answers]

theorem answers_element (i : Nat) (inner : Plan ρ σ Value) :
    (element i inner).answers scope place s =
      inner.answers scope (place ++ [i]) (scope.enter ("[" ++ toString i ++ "]") s) :=
  rfl

theorem answers_orElse (first : Plan ρ σ Value) (next : Rejection → Plan ρ σ Value) :
    (orElse first next).answers scope place s = first.answers scope place s ++
      match first.run scope s with
      | (.error (.rejected r), s') => (next r).answers scope place s'
      | _ => [] := by
  rw [answers]

theorem answers_retemplate (template : Option String) (pairs : List (String × String))
    (inner : Plan ρ σ Value) :
    (retemplate template pairs inner).answers scope place s = inner.answers scope place s :=
  rfl

section Sequence

variable {β : Type} {first : Plan ρ σ α} {next : α → Plan ρ σ β} {first' : Plan ρ σ Value}
  {next' : Rejection → Plan ρ σ Value}

theorem andThen_run (first : Plan ρ σ α) (next : α → Plan ρ σ β) (scope : Scope ρ)
    (s : RunState σ) :
    (andThen first next).run scope s =
      match first.run scope s with
      | (.ok a, s') => (next a).run scope s'
      | (.error fault, s') => (.error fault, s') := by
  rw [run, bind_run]
  rcases first.run scope s with ⟨fault | a, s'⟩ <;> rfl

theorem mem_answers_andThen :
    answer ∈ (andThen first next).answers scope place s ↔
      answer ∈ first.answers scope place s ∨
        ∃ a s', first.run scope s = (.ok a, s') ∧ answer ∈ (next a).answers scope place s' := by
  rw [answers_andThen, List.mem_append]
  refine or_congr_right ?_
  rcases first.run scope s with ⟨fault | a, s'⟩
  · constructor
    · intro h
      cases h
    · rintro ⟨a, s'', h, -⟩
      cases h
  · constructor
    · intro h
      exact ⟨a, s', rfl, h⟩
    · rintro ⟨a', s'', h, mem⟩
      cases h
      exact mem

theorem mem_answers_orElse :
    answer ∈ (orElse first' next').answers scope place s ↔
      answer ∈ first'.answers scope place s ∨
        ∃ r s', first'.run scope s = (.error (.rejected r), s') ∧
          answer ∈ (next' r).answers scope place s' := by
  rw [answers_orElse, List.mem_append]
  refine or_congr_right ?_
  constructor
  · intro h
    split at h
    · next r s' ran => exact ⟨r, s', ran, h⟩
    · cases h
  · rintro ⟨r, s', ran, mem⟩
    rw [ran]
    exact mem

end Sequence

/-- A fault that is not a rejection is the last answer, and the run ends with it. -/
theorem answers_hard {fault : Fault} (hard : ∀ r, fault ≠ .rejected r)
    (mem : answer ∈ plan.answers scope place s) (raised : answer.result = .error fault) :
    (∃ earlier, plan.answers scope place s = earlier ++ [answer]) ∧
      (plan.run scope s).1 = .error fault := by
  induction plan generalizing place s with
  | done a => cases mem
  | ask site =>
    cases List.mem_singleton.mp mem
    exact ⟨⟨[], rfl⟩, raised⟩
  | andThen first next ihf ihn =>
    rw [answers_andThen, andThen_run]
    rcases mem_answers_andThen.mp mem with mem | ⟨a, s', ran, mem⟩
    · obtain ⟨⟨earlier, last⟩, failed⟩ := ihf mem
      rcases ran : first.run scope s with ⟨_ | a, s'⟩
      · rw [ran] at failed
        cases failed
        exact ⟨⟨earlier, by rw [last, List.append_nil]⟩, rfl⟩
      · rw [ran] at failed
        cases failed
    · obtain ⟨⟨earlier, last⟩, failed⟩ := ihn a mem
      rw [ran]
      dsimp only
      rw [last, ← List.append_assoc]
      exact ⟨⟨_, rfl⟩, failed⟩
  | element i inner ih =>
    obtain ⟨last, failed⟩ := ih mem
    rw [run, Scope.framed_fst, Act.onRejection_hard hard]
    exact ⟨last, failed⟩
  | orElse first next ihf ihn =>
    rw [answers_orElse, run, Act.orElseRejected]
    rcases mem_answers_orElse.mp mem with mem | ⟨r, s', ran, mem⟩
    · obtain ⟨⟨earlier, last⟩, failed⟩ := ihf mem
      rcases ran : first.run scope s with ⟨_ | v, s'⟩
      · rw [ran] at failed
        cases failed
        cases fault with
        | rejected r => exact absurd rfl (hard r)
        | _ => exact ⟨⟨earlier, by rw [last, List.append_nil]⟩, rfl⟩
      · rw [ran] at failed
        cases failed
    · obtain ⟨⟨earlier, last⟩, failed⟩ := ihn r mem
      rw [ran]
      dsimp only
      rw [last, ← List.append_assoc]
      exact ⟨⟨_, rfl⟩, failed⟩
  | retemplate template pairs inner ih =>
    obtain ⟨last, failed⟩ := ih mem
    rw [run, Act.onRejection_hard hard]
    exact ⟨last, failed⟩

/-- The application's state changes with the answers, one after the other, and not otherwise. -/
theorem answers_linked (scope : Scope ρ) (plan : Plan ρ σ α) (place : List Nat) (s : RunState σ) :
    Answer.Linked s.app (plan.answers scope place s) (plan.run scope s).2.app := by
  induction plan generalizing place s with
  | done a => rfl
  | ask site => exact ⟨rfl, rfl⟩
  | andThen first next ihf ihn =>
    have before := ihf place s
    rw [answers_andThen, andThen_run]
    rcases ran : first.run scope s with ⟨fault | a, s'⟩
    · rw [ran] at before
      exact before.append rfl
    · rw [ran] at before
      exact before.append (ihn a place s')
  | element i inner ih =>
    have inside := ih (place ++ [i]) (scope.enter ("[" ++ toString i ++ "]") s)
    rw [Scope.enter_app] at inside
    rw [answers_element, run, Scope.framed_app, Act.onRejection_snd]
    exact inside
  | orElse first next ihf ihn =>
    have before := ihf place s
    rw [answers_orElse, run, Act.orElseRejected]
    rcases ran : first.run scope s with ⟨fault | v, s'⟩
    · rw [ran] at before
      cases fault with
      | rejected r => exact before.append (ihn r place s')
      | _ => exact before.append rfl
    · rw [ran] at before
      exact before.append rfl
  | retemplate template pairs inner ih =>
    rw [answers_retemplate, run, Act.onRejection_snd]
    exact ih place s

/-- A rejection that leaves a run was the answer of a site. -/
theorem answers_rejected {r : Rejection} (h : (plan.run scope s).1 = .error (.rejected r)) :
    ∃ answer ∈ plan.answers scope place s, ∃ raised inner,
      answer.result = .error (.rejected raised) ∧ answer.place = place ++ inner ∧
        r.Relays raised inner := by
  induction plan generalizing place s r with
  | done a => cases h
  | ask site => exact ⟨_, List.mem_singleton_self _, r, [], h, (List.append_nil _).symm, .refl r⟩
  | andThen first next ihf ihn =>
    rw [andThen_run] at h
    rcases ran : first.run scope s with ⟨fault | a, s'⟩
    · rw [ran] at h
      cases h
      obtain ⟨answer, mem, found⟩ := ihf (congrArg Prod.fst ran)
      exact ⟨answer, mem_answers_andThen.mpr (.inl mem), found⟩
    · rw [ran] at h
      obtain ⟨answer, mem, found⟩ := ihn a h
      exact ⟨answer, mem_answers_andThen.mpr (.inr ⟨a, s', ran, mem⟩), found⟩
  | element i inner ih =>
    rw [run, Scope.framed_fst, Act.onRejection_rejected] at h
    obtain ⟨seen, failed, rfl⟩ := h
    obtain ⟨answer, mem, raised, positions, result, there, relayed⟩ := ih failed
    refine ⟨answer, mem, raised, i :: positions, result, ?_, relayed.inElement i⟩
    rw [there, List.append_assoc]
    rfl
  | orElse first next ihf ihn =>
    rw [run, Act.orElseRejected] at h
    rcases ran : first.run scope s with ⟨fault | v, s'⟩
    · rw [ran] at h
      cases fault with
      | rejected seen =>
        obtain ⟨answer, mem, found⟩ := ihn seen h
        exact ⟨answer, mem_answers_orElse.mpr (.inr ⟨seen, s', ran, mem⟩), found⟩
      | _ => cases h
    · rw [ran] at h
      cases h
  | retemplate template pairs inner ih =>
    rw [run, Act.onRejection_rejected] at h
    obtain ⟨seen, failed, rfl⟩ := h
    obtain ⟨answer, mem, raised, positions, result, there, relayed⟩ := ih failed
    exact ⟨answer, mem, raised, positions, result, there, relayed.retemplate template pairs⟩

/-- An answer is what its site comes to in the state that it is asked in. -/
theorem answers_run (mem : answer ∈ plan.answers scope place s) :
    answer.site.run scope answer.before = (answer.result, answer.after) := by
  induction plan generalizing place s with
  | done a => cases mem
  | ask site =>
    cases List.mem_singleton.mp mem
    rfl
  | andThen first next ihf ihn =>
    rcases mem_answers_andThen.mp mem with mem | ⟨a, s', -, mem⟩
    · exact ihf mem
    · exact ihn a mem
  | element i inner ih => exact ih mem
  | orElse first next ihf ihn =>
    rcases mem_answers_orElse.mp mem with mem | ⟨r, s', -, mem⟩
    · exact ihf mem
    · exact ihn r mem
  | retemplate template pairs inner ih => exact ih mem

theorem answers_within {P : Site ρ σ → Prop} (within_ : plan.Within P)
    (mem : answer ∈ plan.answers scope place s) : P answer.site := by
  induction plan generalizing place s with
  | done a => cases mem
  | ask site =>
    cases List.mem_singleton.mp mem
    exact within_
  | andThen first next ihf ihn =>
    rcases mem_answers_andThen.mp mem with mem | ⟨a, s', -, mem⟩
    · exact ihf within_.1 mem
    · exact ihn a (within_.2 a) mem
  | element i inner ih => exact ih within_ mem
  | orElse first next ihf ihn =>
    rcases mem_answers_orElse.mp mem with mem | ⟨r, s', -, mem⟩
    · exact ihf within_.1 mem
    · exact ihn r (within_.2 r) mem
  | retemplate template pairs inner ih => exact ih within_ mem

@[simp] theorem run_trace (balanced : plan.Within (·.Balanced scope)) (s : RunState σ) :
    (plan.run scope s).2.trace = s.trace := by
  induction plan generalizing s with
  | done a => rfl
  | ask site => exact balanced s
  | andThen first next ihf ihn =>
    have here := ihf balanced.1 s
    rw [andThen_run]
    rcases ran : first.run scope s with ⟨fault | a, s'⟩
    · rw [ran] at here
      exact here
    · rw [ran] at here
      exact (ihn a (balanced.2 a) s').trans here
  | element i inner ih =>
    refine Scope.framed_trace ?_
    rw [Act.onRejection_snd]
    exact ih balanced _
  | orElse first next ihf ihn =>
    have here := ihf balanced.1 s
    rw [run, Act.orElseRejected]
    rcases ran : first.run scope s with ⟨fault | v, s'⟩
    · rw [ran] at here
      cases fault with
      | rejected r => exact (ihn r (balanced.2 r) s').trans here
      | _ => exact here
    · rw [ran] at here
      exact here
  | retemplate template pairs inner ih =>
    rw [run, Act.onRejection_snd]
    exact ih balanced s

/-- A site finds the frames of the elements around it, and no others. -/
theorem answers_frames (balanced : plan.Within (·.Balanced scope))
    (mem : answer ∈ plan.answers scope place s) :
    ∃ inner, answer.place = place ++ inner ∧
      answer.before.trace.frames = s.trace.frames ++ scope.elementFrames inner := by
  induction plan generalizing place s with
  | done a => cases mem
  | ask site =>
    cases List.mem_singleton.mp mem
    refine ⟨[], (List.append_nil _).symm, ?_⟩
    simp
  | andThen first next ihf ihn =>
    rcases mem_answers_andThen.mp mem with mem | ⟨a, s', ran, mem⟩
    · exact ihf balanced.1 mem
    · have here := run_trace balanced.1 s
      rw [ran] at here
      obtain ⟨inner, there, frames⟩ := ihn a (balanced.2 a) mem
      exact ⟨inner, there, here ▸ frames⟩
  | element i inner ih =>
    obtain ⟨positions, there, frames⟩ := ih balanced mem
    refine ⟨i :: positions, by rw [there, List.append_assoc]; rfl, ?_⟩
    rw [frames, Scope.enter_element]
  | orElse first next ihf ihn =>
    rcases mem_answers_orElse.mp mem with mem | ⟨r, s', ran, mem⟩
    · exact ihf balanced.1 mem
    · have here := run_trace balanced.1 s
      rw [ran] at here
      obtain ⟨inner, there, frames⟩ := ihn r (balanced.2 r) mem
      exact ⟨inner, there, here ▸ frames⟩
  | retemplate template pairs inner ih => exact ih balanced mem

end Plan

namespace Node

variable [Record ρ σ] {root : Node ρ σ} {v : Value} {scope : Scope ρ} {s : RunState σ}
  {answer : Answer ρ σ}

/-- What a node turns to when it runs on a value, in order. -/
def answers (root : Node ρ σ) (v : Value) (scope : Scope ρ) (s : RunState σ) :
    List (Answer ρ σ) :=
  (root.plan v).answers scope [] s

theorem answers_mayAsk (mem : answer ∈ root.answers v scope s) : root.MayAsk answer.site := by
  have sites : (root.plan v).Within root.MayAsk :=
    plan_within (fun part hp site asks => ⟨part, hp, asks⟩) v
  exact Plan.answers_within sites mem

theorem plan_balanced (balanced : ∀ site, root.MayAsk site → site.Balanced scope) (v : Value) :
    (root.plan v).Within (·.Balanced scope) :=
  plan_within (fun part hp site asks => balanced site ⟨part, hp, asks⟩) v

/-- What a node turns to finds the frames of the elements around it, and no others. -/
theorem answers_frames (balanced : ∀ site, root.MayAsk site → site.Balanced scope)
    (mem : answer ∈ root.answers v scope s) :
    answer.before.trace.frames = s.trace.frames ++ scope.elementFrames answer.place := by
  obtain ⟨inner, there, frames⟩ := Plan.answers_frames (plan_balanced balanced v) mem
  rw [there]
  exact frames

/-- A node leaves the trace as it finds it if everything does that it turns to. -/
theorem compile_trace (isFresh : root.IsFresh)
    (balanced : ∀ site, root.MayAsk site → site.Balanced scope) (v : Value) (s : RunState σ) :
    (root.compile v scope s).2.trace = s.trace := by
  rw [compile_plan isFresh]
  exact Plan.run_trace (plan_balanced balanced v) s

end Node

end FieldPipeline
