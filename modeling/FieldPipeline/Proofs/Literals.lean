import FieldPipeline.Node
import FieldPipeline.Proofs.ArgumentKey
import FieldPipeline.Proofs.Gathering
import FieldPipeline.Scripted.Form

namespace FieldPipeline

namespace Value

mutual

/-- Every integer fits 64 bits with a sign, and no object has a key twice. -/
def Regular : Value → Prop
  | number (.int n) => Arg.fitsInt n = true
  | array items => AllRegular items
  | object fields => (Table.keys fields).Nodup ∧ FieldsRegular fields
  | _ => True

def AllRegular : List Value → Prop
  | [] => True
  | v :: rest => v.Regular ∧ AllRegular rest

def FieldsRegular : List (String × Value) → Prop
  | [] => True
  | (_, v) :: rest => v.Regular ∧ FieldsRegular rest

end

theorem allRegular_iff {vs : List Value} : AllRegular vs ↔ ∀ v ∈ vs, v.Regular := by
  induction vs with
  | nil => simp [AllRegular]
  | cons v vs ih => simp [AllRegular, ih]

end Value

namespace KeyTree

mutual

/-- The value itself, as a tree. -/
def ofValue : Value → KeyTree
  | .null => null
  | .bool b => bool b
  | .number n => number n
  | .string s => string s
  | .array items => array (ofValues items)
  | .object fields => object (ofFields fields)

def ofValues : List Value → List KeyTree
  | [] => []
  | v :: rest => ofValue v :: ofValues rest

def ofFields : List (String × Value) → List (String × KeyTree)
  | [] => []
  | (k, v) :: rest => (k, ofValue v) :: ofFields rest

end

theorem keys_ofFields (fields : List (String × Value)) :
    Table.keys (ofFields fields) = Table.keys fields := by
  induction fields with
  | nil => rfl
  | cons f rest ih =>
    obtain ⟨key, v⟩ := f
    exact congrArg (key :: ·) ih

mutual

@[simp] theorem chars_ofValue (v : Value) : (ofValue v).chars = v.chars := by
  cases v with
  | array items => exact congrArg Text.Compact.array (itemsChars_ofValues items)
  | object fields => exact congrArg Text.Compact.object (fieldsChars_ofFields fields)
  | _ => rfl

@[simp] theorem itemsChars_ofValues (vs : List Value) :
    itemsChars (ofValues vs) = Value.itemsChars vs := by
  cases vs with
  | nil => rfl
  | cons v vs => exact congrArg₂ List.cons (chars_ofValue v) (itemsChars_ofValues vs)

@[simp] theorem fieldsChars_ofFields (fields : List (String × Value)) :
    fieldsChars (ofFields fields) = Value.fieldsChars fields := by
  cases fields with
  | nil => rfl
  | cons f rest =>
    obtain ⟨key, v⟩ := f
    exact congrArg₂ (fun cs rest => Text.Compact.field key cs :: rest) (chars_ofValue v)
      (fieldsChars_ofFields rest)

end

@[simp] theorem text_ofValue (v : Value) : (ofValue v).text = v.text :=
  congrArg String.ofList (chars_ofValue v)

end KeyTree

namespace Arg

theorem ofValues_eq (vs : List Value) : ofValues vs = vs.map ofValue := by
  induction vs with
  | nil => rfl
  | cons v vs ih => rw [ofValues, ih, List.map_cons]

mutual

theorem toValue_ofValue (v : Value) (regular : v.Regular) : (ofValue v).toValue = v := by
  match v with
  | .null | .bool _ | .string _ => rfl
  | .number (.int n) =>
    have fits : fitsInt n = true := regular
    rw [ofValue, if_pos fits, toValue]
  | .number (.float d finite) => rw [ofValue, toValue, dif_pos finite]
  | .array items => exact congrArg Value.array (toValues_ofValues items regular)
  | .object fields =>
    rw [ofValue, toValue, toPairs_ofPairs fields regular.2, Value.ofPairs,
      Table.ofPairs_of_nodup regular.1]

theorem toValues_ofValues (vs : List Value) (regular : Value.AllRegular vs) :
    toValues (ofValues vs) = vs := by
  cases vs with
  | nil => rfl
  | cons v vs =>
    exact congrArg₂ List.cons (toValue_ofValue v regular.1) (toValues_ofValues vs regular.2)

theorem toPairs_ofPairs (fields : List (String × Value)) (regular : Value.FieldsRegular fields) :
    toPairs (ofPairs fields) = fields := by
  cases fields with
  | nil => rfl
  | cons f rest =>
    obtain ⟨key, v⟩ := f
    exact congrArg₂ (fun v rest => (key, v) :: rest) (toValue_ofValue v regular.1)
      (toPairs_ofPairs rest regular.2)

end

mutual

theorem keyTree_ofValue (v : Value) (regular : v.Regular) :
    (ofValue v).keyTree = KeyTree.ofValue v := by
  match v with
  | .null | .bool _ | .string _ => rfl
  | .number (.int n) =>
    have fits : fitsInt n = true := regular
    rw [ofValue, if_pos fits]
    rfl
  | .number (.float d finite) =>
    rw [ofValue, keyTree, dif_pos finite]
    rfl
  | .array items => exact congrArg KeyTree.array (keyTrees_ofValues items regular)
  | .object fields =>
    have distinct : (Table.keys (KeyTree.ofFields fields)).Nodup := by
      rw [KeyTree.keys_ofFields]
      exact regular.1
    rw [ofValue, keyTree, keyPairs_ofPairs fields regular.2, Table.ofPairs_of_nodup distinct]
    rfl

theorem keyTrees_ofValues (vs : List Value) (regular : Value.AllRegular vs) :
    keyTrees (ofValues vs) = KeyTree.ofValues vs := by
  cases vs with
  | nil => rfl
  | cons v vs =>
    exact congrArg₂ List.cons (keyTree_ofValue v regular.1) (keyTrees_ofValues vs regular.2)

theorem keyPairs_ofPairs (fields : List (String × Value)) (regular : Value.FieldsRegular fields) :
    keyPairs (ofPairs fields) = KeyTree.ofFields fields := by
  cases fields with
  | nil => rfl
  | cons f rest =>
    obtain ⟨key, v⟩ := f
    exact congrArg₂ (fun t rest => (key, t) :: rest) (keyTree_ofValue v regular.1)
      (keyPairs_ofPairs rest regular.2)

end

/-- The key of arguments that are written as values is the text of the list of these values. -/
theorem key_ofValues (vs : List Value) (regular : ∀ v ∈ vs, v.Regular) :
    key (vs.map ofValue) = (Value.array vs).text := by
  have trees := keyTrees_ofValues vs (Value.allRegular_iff.mpr regular)
  rw [← ofValues_eq, key, trees]
  exact KeyTree.text_ofValue (.array vs)

end Arg

variable {ρ σ : Type} [Record ρ σ]

/-- Values that are written as arguments survive: as values, in keys, as what a rejection is
recovered with, and as what a condition puts in place of its input. -/
theorem literals_survive (vs : List Value) (regular : ∀ v ∈ vs, v.Regular) :
    Arg.key (vs.map Arg.ofValue) = (Value.array vs).text ∧
      ∀ v ∈ vs,
        (Arg.ofValue v).toValue = v ∧
        (Arg.ofValue v).keyTree = KeyTree.ofValue v ∧
        (Arg.ofValue v).keyTree.text = v.text ∧
        ∀ (name : String) (children : List (Node ρ σ)) (x : Value) (scope : Scope ρ)
          (s s' : RunState σ),
          (∀ r, Node.wrapAll .identity children x scope s = (.error (.rejected r), s') →
            (Node.fresh name children (.recover (Arg.ofValue v) none)).compile x scope s =
              (.ok v, s')) ∧
          ∀ (predicate : Callable ρ σ) (negate : Bool) (verdict : Value),
            predicate x scope s = (.ok verdict, s') → verdict.truthy = negate →
            (Node.fresh name children (.conditional predicate negate
              ((some (Arg.ofValue v)).map Arg.toValue))).compile x scope s = (.ok v, s') := by
  refine ⟨Arg.key_ofValues vs regular, fun v mem => ?_⟩
  have value := Arg.toValue_ofValue v (regular v mem)
  have tree := Arg.keyTree_ofValue v (regular v mem)
  refine ⟨value, tree, ?_, fun name children x scope s s' => ⟨fun r rejected => ?_, ?_⟩⟩
  · simp [tree]
  · change Strategy.runRecover _ none _ x scope s = _
    rw [Strategy.runRecover, Act.orElseRejected, rejected]
    exact congrArg (fun v => (Except.ok v, s')) value
  · intro predicate negate verdict judged other
    change Strategy.runConditional predicate negate _ _ x scope s = _
    rw [Strategy.runConditional, Outcome.bind_of_ok judged, if_neg (not_not.mpr other)]
    exact congrArg (fun v => (Except.ok v, s')) value

/-- An object whose fields are named like marks, with integers at both ends of the range and a float
inside. -/
theorem literals_survive_marks :
    let half : Value := .number (.float ⟨0x3FE0000000000000⟩ (by decide))
    let v : Value := .object
      [("$float", .string "NaN"),
        ("$enum", .object [("$datetime", .number (.int (2 ^ 63 - 1))), ("offset", .null)]),
        ("z", .array [.number (.int (-2 ^ 63)), half, .array [], .bool false]),
        ("a", .object [])]
    let scope : Scope Scripted.Form :=
      { record := {}, context := .null, direction := .inbound, tracePaths := true }
    let s : RunState Scripted.Desk := { app := {} }
    let range : Node Scripted.Form Scripted.Desk := .leaf
      { step := ⟨0, fun _ scope => scope.reject "Range" { template := "range" }⟩
        className := "Range" }
    Arg.key [.ofValue v] = (Value.array [v]).text ∧
      (Arg.ofValue v).toValue = v ∧ (Arg.ofValue v).keyTree = KeyTree.ofValue v ∧
      (Node.fresh "FailTo(Range)" [range] (.recover (.ofValue v) none)).compile .null scope s =
        (.ok v, s) ∧
      (Node.fresh "When(Check)" [range] (.conditional (fun _ _ => pure .null) false
        ((some (Arg.ofValue v)).map Arg.toValue))).compile .null scope s = (.ok v, s) := by
  intro half v scope s range
  have regular : ∀ w ∈ [v], w.Regular := by
    rw [← Value.allRegular_iff]
    simp [v, half, Value.AllRegular, Value.Regular, Value.FieldsRegular, Table.keys]
    decide
  obtain ⟨key, all⟩ := @literals_survive Scripted.Form Scripted.Desk _ [v] regular
  obtain ⟨value, tree, -, runs⟩ := all v (List.mem_singleton_self v)
  obtain ⟨recovered, -⟩ := runs "FailTo(Range)" [range] .null scope s s
  obtain ⟨-, replaced⟩ := runs "When(Check)" [range] .null scope s s
  exact ⟨key, value, tree, recovered _ rfl, replaced _ false .null rfl rfl⟩

end FieldPipeline
