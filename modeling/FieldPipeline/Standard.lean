import FieldPipeline.Decimal.Numeral
import FieldPipeline.Pattern.Reader
import FieldPipeline.Registry
import FieldPipeline.Text.CodePoints

namespace FieldPipeline.Standard

variable {ρ σ : Type}

/-- The string that the node `name` needs. -/
def expectString (name : String) (v : Value) : Except Rejection String :=
  match v with
  | .string s => .ok s
  | v => .error <|
    ({ template := "string.expected" } : Rejection).addParam "node" (.string name)
      |>.addParam "type" (.string v.kind)

/-- A node that depends on the value and the arguments only. -/
def ofFunction (name : String) (apply : Value → List Arg → Except Rejection Value) :
    Transformer ρ σ where
  name
  apply v args _ :=
    match apply v args with
    | .ok v => pure v
    | .error r => throw (.rejected r)

def firstString? (args : List Arg) : Option String :=
  args.head?.bind Arg.string?

/-- Strips the characters listed in the first argument, or blanks. -/
def trim : Transformer ρ σ :=
  ofFunction "Trim" fun v args => do
    let s ← expectString "Trim" v
    match firstString? args with
    | some chars => return .string (.ofList (Text.trimBoth (chars.toList.contains ·) s.toList))
    | none => return .string (Text.trim s)

/-- The pieces of a text between separators, which are found from the left and do not overlap.
`skip` characters still belong to a separator, and `piece` is the current piece in reverse. -/
def piecesFrom (separator : List Char) :
    Nat → List Char → List Char → List (List Char)
  | _, piece, [] => [piece.reverse]
  | skip + 1, piece, _ :: rest => piecesFrom separator skip piece rest
  | 0, piece, c :: rest =>
    if separator.isPrefixOf (c :: rest) then
      piece.reverse :: piecesFrom separator (separator.length - 1) [] rest
    else piecesFrom separator 0 (c :: piece) rest

/-- An empty separator lies before and after every character. -/
def pieces (separator text : List Char) : List (List Char) :=
  if separator.isEmpty then [] :: text.map ([·]) ++ [[]] else piecesFrom separator 0 [] text

/-- Splits at the first argument, or at commas. -/
def split : Transformer ρ σ :=
  ofFunction "Split" fun v args => do
    let s ← expectString "Split" v
    let separator := (firstString? args).getD ","
    return .array ((pieces separator.toList s.toList).map fun piece => .string (.ofList piece))

/-- Reads a finite float; numbers pass. -/
def toFloat : Transformer ρ σ :=
  ofFunction "ToFloat" fun v _ =>
    let invalid : Except Rejection Value :=
      .error (({ template := "to_float.invalid" } : Rejection).addParam "value" v)
    match v with
    | .number _ => .ok v
    | .string s =>
      match Double.ofText? (Text.trim s) with
      | some d => if h : d.isFinite then .ok (.number (.float d h)) else invalid
      | none => invalid
    | _ => invalid

def uppercase : Transformer ρ σ :=
  ofFunction "Uppercase" fun v _ => do
    return .string (Text.uppercase (← expectString "Uppercase" v))

def isBlankValue : Value → Bool
  | .null => true
  | .string s => Text.trim s == ""
  | .array items => items.isEmpty
  | .object fields => fields.isEmpty
  | _ => false

/-- Rejects null, blank strings and empty collections. -/
def notBlank : Transformer ρ σ :=
  ofFunction "NotBlank" fun v _ =>
    if isBlankValue v then .error { template := "not_blank" } else .ok v

/-- Rejects strings without a match of a pattern, which is written as `source`. -/
def checkPattern (source : String) (p : Pattern) : Transformer ρ σ :=
  ofFunction "Matches" fun v _ => do
    let s ← expectString "Matches" v
    if p.isMatch s then return v
    else throw (({ template := "matches.no_match" } : Rejection).addParam "pattern"
      (.string source))

/-- Reads the pattern for `checkPattern`. -/
def matchesPattern (source : String) : Except Cause (Transformer ρ σ) :=
  match Pattern.ofText? source with
  | some p => .ok (checkPattern source p)
  | none => .error .pattern

def constant (t : Transformer ρ σ) : Constructor ρ σ :=
  fun _ => pure t

def constructMatches : Constructor ρ σ := fun args =>
  match firstString? args with
  | none => throw (.text "expected a pattern string as first constructor argument")
  | some source =>
    match matchesPattern source with
    | .ok t => pure t
    | .error cause => throw cause

def registry : Registry ρ σ :=
  Registry.add [] "Trim" (constant trim)
    |>.add "Split" (constant split)
    |>.add "ToFloat" (constant toFloat)
    |>.add "Uppercase" (constant uppercase)
    |>.add "NotBlank" (constant notBlank)
    |>.addWithArgs "Matches" constructMatches

end FieldPipeline.Standard
