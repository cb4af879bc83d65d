import FieldPipeline.Proofs.Letters
import FieldPipeline.Proofs.Precedence
import FieldPipeline.Scripted.Form
import Mathlib.Data.List.Chain

namespace FieldPipeline

open Outcome Text

/-- No capital that lacks a small letter comes right after a capital that ends in one. -/
def Settled (name : List Char) : Prop :=
  name.IsChain fun c d => ¬(endsSmall c = true ∧ lacksSmall d = true)

instance (name : List Char) : Decidable (Settled name) :=
  inferInstanceAs (Decidable (name.IsChain _))

variable {c : Char}

theorem methodChars_plain (plain : isUppercase c = false) (afterLower : Bool) (rest : List Char) :
    methodChars afterLower (c :: rest) = c :: methodChars (isLowercase c || c.isDigit) rest := by
  rw [methodChars, if_neg (by rw [plain]; exact Bool.false_ne_true)]

theorem methodChars_capital (capital : isUppercase c = true) (afterLower : Bool)
    (rest : List Char) :
    methodChars afterLower (c :: rest) =
      (if afterLower then ['_'] else []) ++ (Character.lowercase c ++ methodChars false rest) := by
  rw [methodChars, if_pos capital, List.append_assoc]

theorem methodChars_underscore (afterLower : Bool) (rest : List Char) :
    methodChars afterLower ('_' :: rest) = '_' :: methodChars false rest :=
  methodChars_plain rfl afterLower rest

theorem methodChars_setOff (lacks : lacksSmall c = true) (rest : List Char) :
    methodChars true (c :: rest) = '_' :: c :: methodChars false rest := by
  have capital : isUppercase c = true := (Bool.and_eq_true_iff.mp lacks).1
  rw [methodChars_capital capital, lowercase_of_lacksSmall lacks]
  rfl

/-- Past the lower case of a capital, a name goes on as after that capital. -/
theorem methodChars_lowered {afterLower : Bool} (capital : isUppercase c = true)
    (free : lacksSmall c = true → afterLower = false) (rest : List Char) :
    methodChars afterLower (Character.lowercase c ++ rest) =
      Character.lowercase c ++ methodChars (endsSmall c) rest := by
  obtain kept | rfl | ⟨small, low, lowered⟩ := Character.lowercase_cases c
  · have lacks : lacksSmall c = true := by
      rw [lacksSmall, capital, kept]
      exact beq_self_eq_true [c]
    rw [free lacks, not_endsSmall_of_kept kept, kept, List.singleton_append,
      methodChars_capital capital, kept]
    rfl
  · -- What is left of the dotted capital I ends in its dot, which is no letter.
    obtain ⟨letter, dot⟩ := dotted_plain
    have notLow : (isLowercase '\u0307' || Char.isDigit '\u0307') = false := by decide +kernel
    have ends : endsSmall '\u0130' = false := by decide +kernel
    rw [ends]
    change methodChars afterLower ('i' :: '\u0307' :: rest) = 'i' :: '\u0307' :: _
    rw [methodChars_plain letter, methodChars_plain dot, notLow]
    rfl
  · have ends : endsSmall c = true := by
      rw [endsSmall, capital, lowered]
      exact low
    rw [ends, lowered, List.singleton_append,
      methodChars_plain (not_isUppercase_of_isLowercase low), low]
    rfl

/-- Spelled once more, a name changes only where a capital is set off that was not before: right
after a capital that was written small, or at the start if something else comes before it now. -/
theorem methodChars_again {before after : Bool} (le : before = true → after = true)
    (name : List Char) :
    methodChars after (methodChars before name) = methodChars before name ↔
      Settled name ∧ (before = after ∨ ∀ c ∈ name.head?, lacksSmall c = false) := by
  -- Both passes agree on what came last, except after a capital that was written small.
  induction name generalizing before after with
  | nil => simp [methodChars, Settled]
  | cons c rest ih =>
    rw [Settled, List.isChain_cons, ← Settled]
    cases capital : isUppercase c with
    | false =>
      have lacks : lacksSmall c = false := by rw [lacksSmall, capital, Bool.false_and]
      rw [methodChars_plain capital, methodChars_plain capital, List.cons_inj_right, ih id]
      simp [not_endsSmall_of_plain capital, lacks]
    | true =>
      have next := @ih false (endsSmall c) fun h => (Bool.false_ne_true h).elim
      have follows : (∀ d ∈ rest.head?, ¬(endsSmall c = true ∧ lacksSmall d = true)) ↔
          false = endsSmall c ∨ ∀ d ∈ rest.head?, lacksSmall d = false := by
        cases endsSmall c <;> simp
      rw [methodChars_capital capital, follows, and_comm (a := _ ∨ _), ← next]
      cases before with
      | true =>
        rw [le rfl, if_pos rfl, List.singleton_append, methodChars_underscore, List.cons_inj_right,
          methodChars_lowered capital fun _ => rfl, List.append_cancel_left_eq]
        exact (and_iff_left (.inl rfl)).symm
      | false =>
        rw [if_neg Bool.false_ne_true, List.nil_append]
        by_cases free : lacksSmall c = true → after = false
        · have still : false = after ∨ ∀ d ∈ (c :: rest).head?, lacksSmall d = false := by
            cases after <;> simp_all
          rw [methodChars_lowered capital free, List.append_cancel_left_eq]
          exact (and_iff_left still).symm
        · obtain ⟨lacks, low⟩ := Classical.not_imp.mp free
          rw [Bool.not_eq_false] at low
          have other : '_' ≠ c := by
            rintro rfl
            cases capital
          rw [lowercase_of_lacksSmall lacks, List.singleton_append, low, methodChars_setOff lacks]
          refine iff_of_false (fun same => other (List.cons.inj same).1) ?_
          simp [lacks]

theorem not_endsSmall_of_mem_methodChars {afterLower : Bool} {name : List Char} {d : Char}
    (mem : d ∈ methodChars afterLower name) : endsSmall d = false := by
  induction name generalizing afterLower with
  | nil => cases mem
  | cons c rest ih =>
    cases capital : isUppercase c with
    | false =>
      rw [methodChars_plain capital] at mem
      rcases List.mem_cons.mp mem with rfl | later
      · exact not_endsSmall_of_plain capital
      · exact ih later
    | true =>
      rw [methodChars_capital capital] at mem
      rcases List.mem_append.mp mem with mark | mem
      · obtain rfl : d = '_' := by
          cases afterLower with
          | false => cases mark
          | true => exact List.mem_singleton.mp mark
        rfl
      rcases List.mem_append.mp mem with lowered | later
      · exact not_endsSmall_of_mem_lowercase lowered
      · exact ih later

/-- The name of a method settles. -/
theorem settled_methodChars (afterLower : Bool) (name : List Char) :
    Settled (methodChars afterLower name) := by
  refine (List.pairwise_of_forall_mem_list ?_).isChain
  rintro c mem d - ⟨ends, -⟩
  cases (not_endsSmall_of_mem_methodChars mem).symm.trans ends

theorem methodName_again_iff (name : String) :
    methodName (methodName name) = methodName name ↔ Settled name.toList := by
  unfold methodName
  rw [String.ofList_inj, String.toList_ofList, methodChars_again id]
  simp

namespace Resolver

variable {ρ σ : Type} [Record ρ σ] {r : Resolver ρ σ} {owner : ρ} {arity : Arity}

/-- Two names for one method resolve alike. -/
theorem resolve_method_congr {name name' : String} {request request' : Request ρ σ}
    (identity : request.identity = .named name) (identity' : request'.identity = .named name')
    (args : request'.callArgs = request.callArgs) (unknown : r.info? name = none)
    (unknown' : r.info? name' = none) (same : methodName name' = methodName name)
    (there : Record.arity? owner (methodName name) = some arity) :
    r.resolve (.node request') owner = r.resolve (.node request) owner := by
  funext w
  have there' := there
  rw [← same] at there'
  rw [resolve, resolve, bind_of_ok (locate_method identity unknown there),
    bind_of_ok (locate_method identity' unknown' there'), callArgs, callArgs, args, same]
  rfl

/-- What a name for a method resolves to is in the cache then, under the key of the method, and is
found there again. -/
theorem resolve_method {name : String} {request : Request ρ σ}
    (identity : request.identity = .named name) (unknown : r.info? name = none)
    (there : Record.arity? owner (methodName name) = some arity) (w : Workspace ρ σ) :
    ∃ l w', r.resolve (.node request) owner w = (.ok l, w') ∧
      r.resolve (.node request) owner w' = (.ok l, w') ∧
      l.className = Record.typeName owner ∧ l.method = some (methodName name) ∧
      w'.cache.step? (methodKey (Record.typeName owner) (methodName name))
        (Arg.key request.callArgs) = some l.step := by
  have located (w : Workspace ρ σ) := locate_method (w := w) identity unknown there
  have chosen : (Resolution.method (methodKey (Record.typeName owner) (methodName name))
      (methodName name) arity (Record.typeName owner) : Resolution ρ σ).choice? =
        some (choice owner request name .method) := rfl
  obtain ⟨l, w', made, steps, className, method⟩ :=
    leaf_total chosen r (Declaration.node request).name request.callArgs owner w
  refine ⟨l, w', ?_, ?_, className, method, steps.stored⟩
  · rw [resolve, bind_of_ok (located w)]
    exact made
  · rw [resolve, bind_of_ok (located w')]
    exact leaf_again made (.refl w'.cache) (.same _) owner

/-- Spelled once more, the name of a method stays as it is exactly if the declared name is settled.
Spelled again after that, it always does. A settled name and the name of its method resolve to one
leaf, by one entry of the cache. -/
theorem method_respelled (r : Resolver ρ σ) (owner : ρ) (request : Request ρ σ) (name : String) :
    (methodName (methodName name) = methodName name ↔ Settled name.toList) ∧
    methodName (methodName (methodName name)) = methodName (methodName name) ∧
    (Settled name.toList → ∀ (arity : Arity) (w : Workspace ρ σ),
      (∀ spelling ∈ [name, methodName name], r.info? spelling = none) →
      Record.arity? owner (methodName name) = some arity →
      ∃ l w', l.className = Record.typeName owner ∧ l.method = some (methodName name) ∧
        w'.cache.step? (methodKey (Record.typeName owner) (methodName name))
          (Arg.key request.callArgs) = some l.step ∧
        ∀ spelling ∈ [name, methodName name],
          let declaration := .node { request with identity := .named spelling }
          r.resolve declaration owner w = (.ok l, w') ∧
            r.resolve declaration owner w' = (.ok l, w')) := by
  refine ⟨methodName_again_iff name, ?_, ?_⟩
  · rw [methodName_again_iff, methodName, String.toList_ofList]
    exact settled_methodChars false name.toList
  · intro settled arity w unknown there
    have same := (methodName_again_iff name).mpr settled
    have first := unknown name (by simp)
    have identity (spelling : String) :
        ({ request with identity := .named spelling } : Request ρ σ).identity = .named spelling :=
      rfl
    obtain ⟨l, w', now, again, className, method, stored⟩ :=
      resolve_method (identity name) first there w
    refine ⟨l, w', className, method, stored, ?_⟩
    intro spelling mem declaration
    have alike : r.resolve declaration owner =
        r.resolve (.node { request with identity := .named name }) owner := by
      rcases List.mem_pair.mp mem with rfl | rfl
      · rfl
      · exact resolve_method_congr (identity name) (identity _) rfl first (unknown _ mem) same there
    rw [alike]
    exact ⟨now, again⟩

/-- A capital without a small letter is set off, and another one follows on a dotted capital I. -/
theorem method_respelled_dotted :
    let form : Scripted.Form := { methods := [("set_ℂi\u0307ℂ", ⟨.append "!", false⟩)] }
    methodName "Setℂ\u0130ℂ" = "set_ℂi\u0307ℂ" ∧ methodName "set_ℂi\u0307ℂ" = "set_ℂi\u0307ℂ" ∧
    ∃ l w', l.method = some "set_ℂi\u0307ℂ" ∧ ∀ name ∈ ["Setℂ\u0130ℂ", "set_ℂi\u0307ℂ"],
      resolve {} (.node { identity := .named name }) form { run := { app := {} } } =
        (.ok l, w') := by
  intro form
  have name : methodName "Setℂ\u0130ℂ" = "set_ℂi\u0307ℂ" := by decide +kernel
  have settled : Settled "Setℂ\u0130ℂ".toList := by decide +kernel
  obtain ⟨again, -, resolved⟩ :=
    method_respelled {} form { identity := .named "Setℂ\u0130ℂ" } "Setℂ\u0130ℂ"
  rw [name] at again resolved
  obtain ⟨l, w', -, method, -, both⟩ :=
    resolved settled .value { run := { app := {} } } (fun _ _ => rfl) rfl
  exact ⟨name, again.mpr settled, l, w', method, fun spelling mem => (both spelling mem).1⟩

/-- The second capital has no small letter and is not set off from the first. It is set off once the
first one is small, so the name of the method stands for another method. -/
theorem method_misspelled :
    let form : Scripted.Form :=
      { methods := [("aℂ", ⟨.append "!", false⟩), ("a_ℂ", ⟨.append "?", false⟩)] }
    methodName "Aℂ" = "aℂ" ∧ methodName (methodName "Aℂ") ≠ methodName "Aℂ" ∧
    ∃ l w l' w',
      resolve {} (.node { identity := .named "Aℂ" }) form { run := { app := {} } } = (.ok l, w) ∧
      resolve {} (.node { identity := .named "aℂ" }) form w = (.ok l', w') ∧
      l.method = some "aℂ" ∧ l'.method = some "a_ℂ" := by
  intro form
  have first : methodName "Aℂ" = "aℂ" := by decide +kernel
  have second : methodName "aℂ" = "a_ℂ" := by decide +kernel
  have there : Record.arity? form (methodName "Aℂ") = some .value := by
    rw [first]
    rfl
  have there' : Record.arity? form (methodName "aℂ") = some .value := by
    rw [second]
    rfl
  have identity (name : String) :
      ({ identity := .named name } : Request Scripted.Form Scripted.Desk).identity = .named name :=
    rfl
  obtain ⟨l, w, made, -, -, method, -⟩ :=
    resolve_method (r := {}) (identity "Aℂ") rfl there { run := { app := {} } }
  obtain ⟨l', w', made', -, -, method', -⟩ :=
    resolve_method (r := {}) (identity "aℂ") rfl there' w
  rw [first] at method
  rw [second] at method'
  rw [first, second]
  exact ⟨rfl, by decide, l, w, l', w', made, made', method, method'⟩

end Resolver

end FieldPipeline
