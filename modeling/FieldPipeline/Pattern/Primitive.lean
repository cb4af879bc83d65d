import FieldPipeline.Pattern
import FieldPipeline.Text.CodePoints
import FieldPipeline.Text.Notation

namespace FieldPipeline.Pattern

open Text (CodePoints)

/-- A part of a written pattern that stands for one character, a set of characters or an anchor.
Every reader of such a part yields what is left of the text. -/
inductive Primitive where
  | literal (c : Char)
  | set (s : CodePoints)
  | anchor (a : Anchor)
deriving DecidableEq, Repr

/-- The character of a code point, which must not be a surrogate. -/
def charOfCode? (n : Nat) : Option Char :=
  if h : n.isValidChar then some (.ofNatAux n h) else none

/-- Hexadecimal digits in braces. -/
def bracedCode? (cs : List Char) : Option (Char × List Char) :=
  match cs.dropWhile (· ≠ '\x7d') with
  | _ :: rest => do
    let digits := cs.takeWhile (· ≠ '\x7d')
    if digits.isEmpty then none
    return (← charOfCode? (← Text.hexNumber? digits), rest)
  | [] => none

/-- A code point in braces, or with exactly `width` digits. -/
def code? (width : Nat) : List Char → Option (Char × List Char)
  | '\x7b' :: rest => bracedCode? rest
  | cs => do
    if cs.length < width then none
    return (← charOfCode? (← Text.hexNumber? (cs.take width)), cs.drop width)

/-- Characters that may be escaped without a meaning of their own. -/
def isEscapable (c : Char) : Bool :=
  c.toNat < 128 && !c.isAlphanum && c ≠ '<' && c ≠ '>'

/-- What a word boundary in braces is called. -/
def boundary? (name : String) : Option Anchor :=
  [("start", .wordStart), ("end", .wordEnd), ("start-half", .noWordBefore),
    ("end-half", .noWordAfter)].lookup name

/-- A word boundary, which may be named in braces. Braces that hold no name are a repetition. -/
def wordBoundary? : List Char → Option (Primitive × List Char)
  | '\x7b' :: c :: rest =>
    if c.isAlpha ∨ c = '-' then
      let isPart (c : Char) := c.isAlpha || c = '-'
      match (c :: rest).dropWhile isPart with
      | '\x7d' :: after => do
        return (.anchor (← boundary? (.ofList ((c :: rest).takeWhile isPart))), after)
      | _ => none
    else some (.anchor .wordBoundary, '\x7b' :: c :: rest)
  | rest => some (.anchor .wordBoundary, rest)

/-- What follows a backslash. -/
def escape? : List Char → Option (Primitive × List Char)
  | [] => none
  | c :: rest =>
    match c with
    | 'x' => (code? 2 rest).map fun (c, rest) => (.literal c, rest)
    | 'u' => (code? 4 rest).map fun (c, rest) => (.literal c, rest)
    | 'U' => (code? 8 rest).map fun (c, rest) => (.literal c, rest)
    | 'd' => some (.set Text.decimalDigits, rest)
    | 's' => some (.set Text.blanks, rest)
    | 'w' => some (.set Text.wordCharacters, rest)
    | 'D' => some (.set Text.decimalDigits.complement, rest)
    | 'S' => some (.set Text.blanks.complement, rest)
    | 'W' => some (.set Text.wordCharacters.complement, rest)
    | 'A' => some (.anchor .textStart, rest)
    | 'z' => some (.anchor .textEnd, rest)
    | 'b' => wordBoundary? rest
    | 'B' => some (.anchor .noWordBoundary, rest)
    | '<' => some (.anchor .wordStart, rest)
    | '>' => some (.anchor .wordEnd, rest)
    | 'a' => some (.literal '\x07', rest)
    | 'f' => some (.literal '\x0c', rest)
    | 't' => some (.literal '\t', rest)
    | 'n' => some (.literal '\n', rest)
    | 'r' => some (.literal '\r', rest)
    | 'v' => some (.literal '\x0b', rest)
    | c => if isEscapable c then some (.literal c, rest) else none

/-- A number below 2^32, with blanks around it. -/
def count? (cs : List Char) : Option (Nat × List Char) :=
  let cs := cs.dropWhile Text.isBlank
  let digits := cs.takeWhile Char.isDigit
  let n := digits.foldl (fun n c => 10 * n + (c.toNat - '0'.toNat)) 0
  if digits.isEmpty ∨ 0x100000000 ≤ n then none
  else some (n, (cs.dropWhile Char.isDigit).dropWhile Text.isBlank)

/-- The bounds of a counted repetition, after the opening brace. -/
def bounds? (cs : List Char) : Option ((Nat × Option Nat) × List Char) := do
  let (least, rest) ← count? cs
  match rest with
  | '\x7d' :: rest => return ((least, some least), rest)
  | ',' :: '\x7d' :: rest => return ((least, none), rest)
  | ',' :: rest =>
    let (most, rest) ← count? rest
    match rest with
    | '\x7d' :: rest => if least ≤ most then return ((least, some most), rest) else none
    | _ => none
  | _ => none

/-- The bounds that a repetition sign stands for, if the text starts with one. -/
def repetition? : List Char → Option ((Nat × Option Nat) × List Char)
  | '*' :: rest => some ((0, none), rest)
  | '+' :: rest => some ((1, none), rest)
  | '?' :: rest => some ((0, some 1), rest)
  | '\x7b' :: rest => bounds? rest
  | _ => none

end FieldPipeline.Pattern
