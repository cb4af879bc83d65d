import FieldPipeline.Declaration

namespace FieldPipeline

open Text.Literal (encode fields list option)

variable {ρ σ : Type}

def CollectShape.diagnostic : CollectShape → String
  | count n => "Count(" ++ toString n ++ ")"
  | labels names => "Labels(" ++ list (names.map encode) ++ ")"

def Handler.diagnostic : Handler ρ σ → String
  | method name => "RecordMethod(" ++ encode name ++ ")"
  | function _ => "Function(..)"

def Identity.diagnostic : Identity ρ σ → String
  | named name => "Named(" ++ encode name ++ ")"
  | given _ node => "Instance(" ++ encode node.name ++ ")"

def argsDiagnostic (args : List Arg) : String :=
  list (args.map Arg.diagnostic)

def countDiagnostic (count : Option Nat) : String × String :=
  ("count", option (count.map toString))

def boolDiagnostic (b : Bool) : String :=
  if b then "true" else "false"

/-- The three parts of every declaration. -/
def declarationDiagnostic (identity : String) (callArgs : List Arg)
    (constructorArgs : Option (List Arg)) : String :=
  fields "Declaration"
    [("identity", identity), ("call_args", argsDiagnostic callArgs),
      ("constructor_args", option (constructorArgs.map argsDiagnostic))]

/-- A declaration other than a request, by its own parts. -/
def modifierDiagnostic (name : String) (parts : List (String × String)) : String :=
  declarationDiagnostic ("Modifier(" ++ fields name parts ++ ")") [] none

mutual

def Declaration.diagnostic : Declaration ρ σ → String
  | .node r => declarationDiagnostic r.identity.diagnostic r.callArgs r.constructorArgs
  | .failTo fallback handler =>
    modifierDiagnostic "FailTo"
      [("fallback", fallback.diagnostic), ("handler", option (handler.map Handler.diagnostic))]
  | .group g => modifierDiagnostic g.name g.diagnosticParts

def Grouping.diagnosticParts : Grouping ρ σ → List (String × String)
  | .wrap count | .each count | .any count | .all count => [countDiagnostic count]
  | .collect shape => [("shape", shape.diagnostic)]
  | .when condition negate count otherwise =>
    [("condition", condition.diagnostic), ("negate", boolDiagnostic negate),
      countDiagnostic count, ("otherwise", option (otherwise.map Arg.diagnostic))]
  | .failNextTo fallback handler count =>
    [("fallback", fallback.diagnostic), ("handler", option (handler.map Handler.diagnostic)),
      countDiagnostic count]
  | .errorTemplate template pairs count =>
    [("template", option (template.map encode)),
      ("map", list (pairs.map fun (old, new) => "(" ++ encode old ++ ", " ++ encode new ++ ")")),
      countDiagnostic count]
  | .groups names count => [("groups", list (names.map encode)), countDiagnostic count]

end

end FieldPipeline
