import FieldPipeline.Chain
import FieldPipeline.Processing.Metadata
import FieldPipeline.Processing.Options

namespace FieldPipeline

structure Report where
  /-- Collected rejections, in field order. -/
  errors : List Rejection := []
  /-- Fields whose pipeline succeeded, in field order. -/
  processed : List String := []
deriving Repr

namespace Report

def isClean (r : Report) : Bool :=
  r.errors.isEmpty

def rejectionAt? (r : Report) (field : String) : Option Rejection :=
  r.errors.find? (·.property == some field)

end Report

/-- Processes records: the pipelines of all supplied fields run in order, and what becomes of a
rejected field is up to the error mode. -/
structure Processor (ρ σ : Type) where
  resolver : Resolver ρ σ := {}
  metadata : Metadata ρ σ := []
  options : Options := {}

namespace Processor

variable {ρ σ : Type}

/-- A sorted list without repetitions. -/
def distinctSorted (names : List String) : List String :=
  (Table.sorted names).eraseReps

/-- The cache key of a pipeline. The order of active groups does not matter. -/
def keyOf (recordType field : String) (direction : Direction) (groups : List String) :
    String :=
  let base := recordType ++ "." ++ field ++ "." ++ direction.text
  match distinctSorted groups with
  | [] => base
  | groups => base ++ "|" ++ String.intercalate "," groups

/-- The pipeline of a field, compiled at most once for each key. -/
def pipeline [Record ρ σ] (p : Processor ρ σ) (record : ρ) (field : FieldDeclarations ρ σ)
    (direction : Direction) : Build ρ σ (Compiled ρ σ) := do
  let key := keyOf (Record.typeName record) field.field direction
    (Record.activeGroups record direction)
  match (← Build.cache).pipeline? key with
  | some made => return made
  | none =>
    let made ← Chain.compileAll p.resolver field.declarations record direction
    Build.onCache (·.keepPipeline key made)

/-- What a rejection leaves of its field; nothing if the run ends. -/
def afterRejection [Record ρ σ] (mode : ErrorMode) (record : ρ) (field : String) : Option ρ :=
  match mode with
  | .failFast => none
  | .collectFailToInput => some record
  | .collectFailToNull => some (Record.set record field .null)
  | .collectNone => some (Record.unfill (Record.set record field .null) field)

/-- Runs a compiled pipeline on the current value of a field. -/
def runField [Record ρ σ] (p : Processor ρ σ) (made : Compiled ρ σ) (record : ρ) (field : String)
    (context : Value) (direction : Direction) : Build ρ σ Value :=
  Build.ofAct <|
    made.run ((Record.get? record field).getD .null)
      { record, context, direction, tracePaths := p.options.tracePaths }

/-- The remaining fields, after those in `report`. The record keeps what was set before a fault. -/
def processFields [Record ρ σ] (p : Processor ρ σ) (context : Value) (direction : Direction) :
    List (FieldDeclarations ρ σ) → ρ → Report →
      StateM (Workspace ρ σ) (Except Fault Report × ρ)
  | [], record, report => pure (.ok report, record)
  | f :: rest, record, report => do
    if !Record.isFilled record f.field then
      processFields p context direction rest record report
    else
      match ← (p.pipeline record f direction).run with
      | .error fault => return (.error fault, record)
      | .ok made =>
        match ← (p.runField made record f.field context direction).run with
        | .ok v =>
          processFields p context direction rest (Record.set record f.field v)
            { report with processed := report.processed ++ [f.field] }
        | .error (.rejected r) =>
          let r := { r with property := some f.field }
          match afterRejection p.options.errorMode record f.field with
          | none => return (.error (.rejected r), record)
          | some record =>
            processFields p context direction rest record
              { report with errors := report.errors ++ [r] }
        | .error fault => return (.error fault, record)

/-- Processes every supplied field in the order of its declaration. -/
def process [Record ρ σ] (p : Processor ρ σ) (record : ρ) (direction : Direction) :
    StateM (Workspace ρ σ) (Except Fault Report × ρ) :=
  p.processFields (Record.context record) direction
    (p.metadata.fields (Record.typeName record) direction) record {}

end Processor

end FieldPipeline
