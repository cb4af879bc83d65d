import FieldPipeline.Pattern.Primitive
import FieldPipeline.Text.CaseFolding

namespace FieldPipeline.Pattern

open Text (CodePoints)

/-- Flags of a pattern: whether case is ignored, whether anchors hold at lines, whether the dot
includes line ends, and whether repetitions are lazy unless they are marked. -/
structure Flags where
  ignoreCase : Bool := false
  multiLine : Bool := false
  dotAll : Bool := false
  isLazy : Bool := false
deriving DecidableEq, Repr

namespace Bracket

def fold (flags : Flags) (s : CodePoints) : CodePoints :=
  if flags.ignoreCase then s.anyCase else s

def close (flags : Flags) (negated : Bool) (s : CodePoints) : CodePoints :=
  if negated then (fold flags s).complement else fold flags s

/-- Ranges of the named sets of ASCII characters. -/
def named? (name : String) : Option (List (Char × Char)) :=
  [("alnum", [('0', '9'), ('A', 'Z'), ('a', 'z')]),
    ("alpha", [('A', 'Z'), ('a', 'z')]),
    ("ascii", [('\x00', '\x7f')]),
    ("blank", [('\t', '\t'), (' ', ' ')]),
    ("cntrl", [('\x00', '\x1f'), ('\x7f', '\x7f')]),
    ("digit", [('0', '9')]),
    ("graph", [('!', '~')]),
    ("lower", [('a', 'z')]),
    ("print", [(' ', '~')]),
    ("punct", [('!', '/'), (':', '@'), ('[', '\x60'), ('\x7b', '~')]),
    ("space", [('\t', '\r'), (' ', ' ')]),
    ("upper", [('A', 'Z')]),
    ("word", [('0', '9'), ('A', 'Z'), ('_', '_'), ('a', 'z')]),
    ("xdigit", [('0', '9'), ('A', 'F'), ('a', 'f')])].lookup name

def ofRanges (ranges : List (Char × Char)) : CodePoints :=
  ranges.foldl (fun s (first, last) => s.add first.toNat last.toNat) []

/-- A named set such as `[:alpha:]` or `[:^alpha:]`, after its opening bracket. -/
def namedSet? (flags : Flags) : List Char → Option (CodePoints × List Char)
  | ':' :: cs => do
    let (negated, cs) :=
      match cs with
      | '^' :: rest => (true, rest)
      | cs => (false, cs)
    let ranges ← named? (.ofList (cs.takeWhile (· ≠ ':')))
    match cs.dropWhile (· ≠ ':') with
    | ':' :: ']' :: rest => return (close flags negated (ofRanges ranges), rest)
    | _ => none
  | _ => none

/-- One character or set. -/
def item? : List Char → Option (Primitive × List Char)
  | '\\' :: rest => escape? rest
  | c :: rest => some (.literal c, rest)
  | [] => none

def ofPrimitive? : Primitive → Option CodePoints
  | .literal c => some (.single c)
  | .set s => some s
  | .anchor _ => none

/-- One item, or two literals with a hyphen between them. A hyphen before a closing bracket or
before another hyphen is no range. -/
def range? (cs : List Char) : Option (CodePoints × List Char) := do
  let (first, rest) ← item? cs
  match rest with
  | '-' :: next :: more =>
    if next = ']' ∨ next = '-' then return (← ofPrimitive? first, rest)
    else
      match first, ← item? (next :: more) with
      | .literal a, (.literal b, rest) =>
        if a ≤ b then return ([(a.toNat, b.toNat)], rest) else none
      | _, _ => none
  | _ => return (← ofPrimitive? first, rest)

inductive Operator where
  | intersection
  | difference
  | exclusive
deriving DecidableEq, Repr

def Operator.apply (flags : Flags) (s t : CodePoints) : Operator → CodePoints
  | intersection => (fold flags s).intersection (fold flags t)
  | difference => (fold flags s).difference (fold flags t)
  | exclusive => (fold flags s).exclusive (fold flags t)

/-- What a bracket holds so far: its members, the number of items, and how deep they nest. -/
structure Content where
  members : CodePoints := []
  items : Nat := 0
  depth : Nat := 0
deriving DecidableEq, Repr

namespace Content

def add (c : Content) (s : CodePoints) (depth : Nat) : Content :=
  { members := c.members.union s, items := c.items + 1, depth := max c.depth depth }

/-- How deep it nests as a whole; several items are a level of their own. -/
def height (c : Content) : Nat :=
  if c.items ≤ 1 then c.depth else c.depth + 1

end Content

/-- A bracket that is still open: what surrounds it, whether it is negated, and the operation that
waits for its second operand, with the members and the height of the first one. -/
structure Level where
  outer : Content
  negated : Bool
  pending : Option (CodePoints × Nat × Operator) := none
deriving DecidableEq, Repr

/-- Completes the operation that waits for `c`; yields the members and the height. -/
def Level.operand (flags : Flags) (level : Level) (c : Content) : CodePoints × Nat :=
  match level.pending with
  | some (s, height, op) => (op.apply flags s c.members, max height c.height + 1)
  | none => (c.members, c.height)

def Level.await (flags : Flags) (level : Level) (c : Content) (op : Operator) : Level :=
  let (s, height) := level.operand flags c
  { level with pending := some (s, height, op) }

/-- The start of a bracket: a caret negates it, and then hyphens, or one closing bracket, are
literal. -/
def start (cs : List Char) : Bool × Content × List Char :=
  let (negated, cs) :=
    match cs with
    | '^' :: rest => (true, rest)
    | cs => (false, cs)
  match cs with
  | '-' :: rest =>
    let hyphens := (rest.takeWhile (· = '-')).length + 1
    (negated, { members := .single '-', items := hyphens }, rest.dropWhile (· = '-'))
  | ']' :: rest => (negated, { members := .single ']', items := 1 }, rest)
  | cs => (negated, {}, cs)

/-- Reads to the end of the outermost bracket and yields the members and the height. Each round
takes at least one character, so `fuel` need not exceed their number. -/
def read? (flags : Flags) :
    Nat → Level → List Level → Content → List Char → Option ((CodePoints × Nat) × List Char)
  | 0, _, _, _, _ => none
  | _, _, _, _, [] => none
  | fuel + 1, level, outer, c, ']' :: rest =>
    let (s, height) := level.operand flags c
    let closed := close flags level.negated s
    match outer with
    | [] => some ((closed, height + 1), rest)
    | next :: outer => read? flags fuel next outer (level.outer.add closed (height + 1)) rest
  | fuel + 1, level, outer, c, '[' :: rest =>
    match namedSet? flags rest with
    | some (named, rest) => read? flags fuel level outer (c.add named 0) rest
    | none =>
      let (negated, first, rest) := start rest
      read? flags fuel { outer := c, negated } (level :: outer) first rest
  | fuel + 1, level, outer, c, '&' :: '&' :: rest =>
    read? flags fuel (level.await flags c .intersection) outer {} rest
  | fuel + 1, level, outer, c, '-' :: '-' :: rest =>
    read? flags fuel (level.await flags c .difference) outer {} rest
  | fuel + 1, level, outer, c, '~' :: '~' :: rest =>
    read? flags fuel (level.await flags c .exclusive) outer {} rest
  | fuel + 1, level, outer, c, cs =>
    match range? cs with
    | some (s, rest) => read? flags fuel level outer (c.add s 0) rest
    | none => none

/-- Reads a bracketed set after its opening bracket. -/
def ofChars? (flags : Flags) (cs : List Char) : Option ((CodePoints × Nat) × List Char) :=
  let (negated, first, rest) := start cs
  read? flags (cs.length + 1) { outer := {}, negated } [] first rest

end Bracket

end FieldPipeline.Pattern
