import FieldPipeline.Scripted.Behaviour
import FieldPipeline.Transformer

namespace FieldPipeline.Scripted

structure Method where
  behaviour : Behaviour
  /-- Whether the method takes the context. -/
  takesContext : Bool

/-- A scripted record. A full form answers every question a pipeline may ask; a bare one knows only
its type and its fields. -/
structure Form where
  typeName : String := "Doc"
  fields : Table String Value := []
  /-- The fields that were supplied. -/
  filled : List String := []
  groups : List String := []
  groupsOut : List String := []
  context : Value := .null
  methods : Table String Method := []
  bare : Bool := false

namespace Form

def method? (f : Form) (name : String) : Option Method :=
  if f.bare then none else Table.get? name f.methods

def get? (f : Form) (field : String) : Option Value :=
  Table.get? field f.fields

/-- A full form marks the field as supplied. -/
def set (f : Form) (field : String) (v : Value) : Form :=
  let f := { f with fields := Table.put field v f.fields }
  if f.bare ∨ field ∈ f.filled then f else { f with filled := field :: f.filled }

/-- A full form keeps the value; a bare one has no marks and drops the field. -/
def unfill (f : Form) (field : String) : Form :=
  if f.bare then { f with fields := Table.erase field f.fields }
  else { f with filled := f.filled.filter (· ≠ field) }

def isFilled (f : Form) (field : String) : Bool :=
  if f.bare then (f.get? field).isSome else field ∈ f.filled

@[simp] theorem get?_set (r : Form) (field other : String) (v : Value) :
    (r.set field v).get? other = if other = field then some v else r.get? other := by
  have fields : (r.set field v).fields = Table.put field v r.fields := by
    simp only [set]
    split <;> rfl
  rw [get?, fields, Table.get?_put]
  rfl

@[simp] theorem isFilled_set (r : Form) (field other : String) (v : Value) :
    (r.set field v).isFilled other = (decide (other = field) || r.isFilled other) := by
  cases plain : r.bare with
  | true =>
    have bare : (r.set field v).bare = true := by simp [set, plain]
    rw [isFilled, if_pos bare, get?_set, isFilled, if_pos plain]
    split <;> simp_all
  | false =>
    by_cases there : field ∈ r.filled
    · have same : (r.set field v).isFilled other = r.isFilled other := by
        simp [set, isFilled, plain, there]
      rw [same]
      by_cases here : other = field
      · simp [isFilled, plain, here, there]
      · simp [here]
    · simp [set, isFilled, plain, there]

@[simp] theorem get?_unfill (r : Form) (field other : String) :
    (r.unfill field).get? other =
      if other = field ∧ r.bare = true then none else r.get? other := by
  cases plain : r.bare with
  | true => simp [get?, unfill, plain, Table.get?_erase]
  | false => simp [get?, unfill, plain]

@[simp] theorem isFilled_unfill (r : Form) (field other : String) :
    (r.unfill field).isFilled other = (decide (other ≠ field) && r.isFilled other) := by
  cases plain : r.bare with
  | true =>
    have bare : (r.unfill field).bare = true := by simp [unfill, plain]
    rw [isFilled, if_pos bare, get?_unfill, isFilled, if_pos plain]
    by_cases here : other = field
    · simp [here, plain]
    · simp [here]
  | false => simp [unfill, isFilled, plain, Bool.and_comm]

/-- The supplied fields in order, each once. -/
def filledNames (f : Form) : List String :=
  (Table.sorted ((f.filled ++ Table.keys f.fields).filter f.isFilled)).eraseReps

def callMethod (f : Form) (name : String) (call : MethodCall) : Act Desk Value :=
  match f.method? name with
  | some m =>
    m.behaviour.run
      { args := call.args, recordType := f.typeName, field? := f.get?, context := call.context,
        failure := call.failure }
      call.value
  | none =>
    throw <| .configuration <|
      if f.bare then .methodMissing f.typeName name
      else .custom ("full record: no method `" ++ name ++ "`")

end Form

instance : Record Form Desk where
  typeName := (·.typeName)
  arity? f name :=
    (f.method? name).map fun m => if m.takesContext then .valueContext else .value
  callMethod := Form.callMethod
  activeGroups f direction :=
    if f.bare then []
    else match direction with
      | .inbound => f.groups
      | .outbound => f.groupsOut
  context f := if f.bare then .null else f.context
  get? := Form.get?
  set := Form.set
  isFilled := Form.isFilled
  unfill := Form.unfill

/-- What a step sees in its scope. -/
def surroundings (scope : Scope Form) (args : List Arg) : Surroundings where
  args
  recordType := scope.record.typeName
  field? := scope.record.get?
  context := some scope.context
  scope := some (Scope.diagnostic scope, scope.direction, scope.tracePaths)

/-- A failure handler that follows a behaviour. -/
def handler (b : Behaviour) : Handler Form Desk :=
  .function fun f =>
    b.run
      { recordType := f.record.typeName, field? := f.record.get?, failure := some f.rejection,
        fallback := some f.fallback }
      f.value

/-- A callable that follows a behaviour. -/
def callable (b : Behaviour) : Callable Form Desk := fun v scope =>
  b.run (surroundings scope []) v

end FieldPipeline.Scripted
