import FieldPipeline.Proofs.KeyText

namespace FieldPipeline

namespace KeyTree

/-- The keys that mark a reduced argument. -/
def tags : List String :=
  ["$float", "$enum", "$datetime", "$object", "$resource"]

def instantAt : KeyTree → List (String × KeyTree) → Value
  | number (.int micros), [(_, number (.int offset))] =>
    .string (Instant.text ⟨micros / 1000000, (micros % 1000000).toNat * 1000, offset⟩)
  | _, _ => .null

mutual

/-- The value of the argument that reduces to this tree. -/
def value : KeyTree → Value
  | null => .null
  | bool b => .bool b
  | number n => .number n
  | string s => .string s
  | array items => .array (values items)
  | object [] => .object []
  | object ((key, t) :: rest) =>
    if key = "$float" then .null
    else if key = "$enum" then caseValue t.value rest
    else if key = "$datetime" then instantAt t rest
    else if key = "$object" then .object [("class", t.value)]
    else if key = "$resource" then t.value
    else .object ((key, t.value) :: fieldValues rest)
  | identity _ => .null

/-- A case stands for its name or for what backs it. -/
def caseValue (name : Value) : List (String × KeyTree) → Value
  | [] => name
  | (_, null) :: _ => name
  | (_, t) :: _ => t.value

def values : List KeyTree → List Value
  | [] => []
  | t :: rest => t.value :: values rest

def fieldValues : List (String × KeyTree) → List (String × Value)
  | [] => []
  | (k, t) :: rest => (k, t.value) :: fieldValues rest

end

theorem fieldValues_eq (fields : List (String × KeyTree)) :
    fieldValues fields = fields.map (Prod.map id value) := by
  induction fields with
  | nil => rfl
  | cons f rest ih =>
    obtain ⟨k, t⟩ := f
    rw [fieldValues, ih]
    rfl

/-- Fields of which the first has no tag are just fields. -/
theorem value_object {fields : List (String × KeyTree)}
    (untagged : ∀ key ∈ fields.head?.map (·.1), key ∉ tags) :
    (object fields).value = .object (fieldValues fields) := by
  match fields with
  | [] => rfl
  | (key, t) :: rest =>
    have free := untagged key rfl
    simp only [tags, List.mem_cons, List.not_mem_nil, or_false, not_or] at free
    simp only [value, free, if_false, fieldValues]

theorem caseValue_backed (name : Value) {t : KeyTree} (backed : t ≠ null) (key : String) :
    caseValue name [(key, t)] = t.value := by
  cases t with
  | null => exact absurd rfl backed
  | _ => rw [caseValue]; nofun

end KeyTree

namespace Arg

theorem toValues_eq (as : List Arg) : toValues as = as.map toValue := by
  induction as with
  | nil => rfl
  | cons a rest ih => rw [toValues, ih, List.map_cons]

theorem keyPairs_head (entries : List (String × Arg)) :
    (keyPairs entries).head?.map (·.1) = entries.head?.map (·.1) := by
  cases entries <;> rfl

mutual

/-- No map imitates another kind of argument, no case is backed by null, no instant is finer than a
microsecond or in a leap second, and no identity contains the sign that ends it. -/
def Plain : Arg → Prop
  | list items => AllPlain items
  | map entries => (∀ key ∈ entries.head?.map (·.1), key ∉ KeyTree.tags) ∧ EntriesPlain entries
  | backedCase _ value => value ≠ null ∧ value.Plain
  | instant t => t.nanos % 1000 = 0 ∧ t.nanos < 1000000000
  | object _ id => '>' ∉ id.toList
  | _ => True

def AllPlain : List Arg → Prop
  | [] => True
  | a :: rest => a.Plain ∧ AllPlain rest

def EntriesPlain : List (String × Arg) → Prop
  | [] => True
  | (_, a) :: rest => a.Plain ∧ EntriesPlain rest

end

theorem allPlain_iff {as : List Arg} : AllPlain as ↔ ∀ a ∈ as, a.Plain := by
  induction as with
  | nil => simp [AllPlain]
  | cons a as ih => simp [AllPlain, ih]

theorem keyTree_ne_null {a : Arg} (h : a ≠ null) : a.keyTree ≠ .null := by
  cases a with
  | null => exact absurd rfl h
  | float d =>
    rw [keyTree]
    split <;> nofun
  | _ => nofun

theorem untagged_ofPairs {entries : List (String × Arg)}
    (untagged : ∀ key ∈ entries.head?.map (·.1), key ∉ KeyTree.tags) :
    ∀ key ∈ (Table.ofPairs (keyPairs entries)).head?.map (·.1), key ∉ KeyTree.tags := by
  rwa [Table.ofPairs_head, keyPairs_head]

theorem value_instant {t : Instant} (coarse : t.nanos % 1000 = 0) (fits : t.nanos < 1000000000) :
    (instant t).keyTree.value = (instant t).toValue := by
  have seconds : t.micros / 1000000 = t.seconds := by
    unfold Instant.micros
    omega
  have nanos : (t.micros % 1000000).toNat * 1000 = t.nanos := by
    unfold Instant.micros
    omega
  change Value.string (Instant.text ⟨t.micros / 1000000, (t.micros % 1000000).toNat * 1000,
    t.offset⟩) = _
  rw [seconds, nanos]
  rfl

mutual

/-- The value of a plain argument can be read off its key. -/
theorem value_keyTree (a : Arg) (plain : a.Plain) : a.keyTree.value = a.toValue := by
  cases a with
  | float d =>
    rw [keyTree, toValue]
    split <;> rfl
  | list items => exact congrArg Value.array (values_keyTrees items plain)
  | map entries =>
    rw [keyTree, KeyTree.value_object (untagged_ofPairs plain.1), toValue, Value.ofPairs,
      KeyTree.fieldValues_eq, ← Table.ofPairs_map, ← KeyTree.fieldValues_eq,
      fieldValues_keyPairs entries plain.2]
  | backedCase name value =>
    have backed := KeyTree.caseValue_backed (.string name) (keyTree_ne_null plain.1) "value"
    exact backed.trans (value_keyTree value plain.2)
  | instant t => exact value_instant plain.1 plain.2
  | _ => rfl

theorem values_keyTrees (as : List Arg) (plain : AllPlain as) :
    KeyTree.values (keyTrees as) = toValues as := by
  cases as with
  | nil => rfl
  | cons a as =>
    exact congrArg₂ List.cons (value_keyTree a plain.1) (values_keyTrees as plain.2)

theorem fieldValues_keyPairs (entries : List (String × Arg)) (plain : EntriesPlain entries) :
    KeyTree.fieldValues (keyPairs entries) = toPairs entries := by
  cases entries with
  | nil => rfl
  | cons entry entries =>
    obtain ⟨key, a⟩ := entry
    exact congrArg₂ (fun v rest => (key, v) :: rest) (value_keyTree a plain.1)
      (fieldValues_keyPairs entries plain.2)

end

mutual

theorem keyTree_named (a : Arg) (plain : a.Plain) : a.keyTree.Named := by
  cases a with
  | float d =>
    rw [keyTree]
    split
    · trivial
    · exact ⟨trivial, trivial⟩
  | list items => exact keyTrees_named items plain
  | map entries =>
    have named := KeyTree.fieldsNamed_iff.mp (keyPairs_named entries plain.2)
    exact KeyTree.fieldsNamed_iff.mpr fun f hf => named f (Table.mem_ofPairs hf)
  | backedCase name value => exact ⟨trivial, keyTree_named value plain.2, trivial⟩
  | object className id => exact ⟨trivial, plain, trivial⟩
  | _ => simp [keyTree, KeyTree.Named, KeyTree.FieldsNamed, KeyTree.int]

theorem keyTrees_named (as : List Arg) (plain : AllPlain as) : KeyTree.AllNamed (keyTrees as) := by
  cases as with
  | nil => trivial
  | cons a as => exact ⟨keyTree_named a plain.1, keyTrees_named as plain.2⟩

theorem keyPairs_named (entries : List (String × Arg)) (plain : EntriesPlain entries) :
    KeyTree.FieldsNamed (keyPairs entries) := by
  cases entries with
  | nil => trivial
  | cons entry entries =>
    obtain ⟨key, a⟩ := entry
    exact ⟨keyTree_named a plain.1, keyPairs_named entries plain.2⟩

end

/-- Plain arguments that share a key stand for the same values. -/
theorem values_of_key_eq {as bs : List Arg} (plain : ∀ a ∈ as, a.Plain)
    (plain' : ∀ b ∈ bs, b.Plain) (same : key as = key bs) : as.map toValue = bs.map toValue := by
  rw [← allPlain_iff] at plain plain'
  have trees : KeyTree.array (keyTrees as) = .array (keyTrees bs) :=
    KeyTree.chars_inj (keyTrees_named as plain) (keyTrees_named bs plain')
      (String.ofList_injective same)
  have values : toValues as = toValues bs := by
    rw [← values_keyTrees as plain, ← values_keyTrees bs plain', KeyTree.array.inj trees]
  rwa [toValues_eq, toValues_eq] at values

/-- A repeated entry and a float without a number are lost in the key, and in the value too. -/
theorem values_of_key_eq_repeated :
    key [.map [("id", .int 1), ("id", .int 2)], .float .nan] =
        key [.map [("id", .int 2)], .float .nan] ∧
      [.map [("id", .int 1), ("id", .int 2)], .float .nan].map toValue =
        [.map [("id", .int 2)], .float .nan].map toValue := by
  have same : key [.map [("id", .int 1), ("id", .int 2)], .float .nan] =
      key [.map [("id", .int 2)], .float .nan] := rfl
  refine ⟨same, values_of_key_eq ?_ ?_ same⟩
  · rw [← allPlain_iff]
    simp [AllPlain, Plain, EntriesPlain, KeyTree.tags]
  · rw [← allPlain_iff]
    simp [AllPlain, Plain, EntriesPlain, KeyTree.tags]

/-- A case that is backed by null has the key of one that is not backed, and a map can have the key
of a resource. -/
theorem key_ambiguous :
    key [.case "Mode::Strict"] = key [.backedCase "Mode::Strict" .null] ∧
      [.case "Mode::Strict"].map toValue ≠ [.backedCase "Mode::Strict" .null].map toValue ∧
      key [.resource "stream"] = key [.map [("$resource", .string "stream")]] ∧
      [.resource "stream"].map toValue ≠ [.map [("$resource", .string "stream")]].map toValue := by
  refine ⟨rfl, ?_, rfl, ?_⟩
  · simp [toValue]
  · simp [toValue, Value.ofPairs]

end Arg

end FieldPipeline
