import FieldPipeline.Pattern.Automaton
import FieldPipeline.Pattern.Bracket
import FieldPipeline.Text.Alphanumeric

namespace FieldPipeline.Pattern

open Text (CodePoints)

/-- What a flag letter does. The letter `u` changes nothing that a match shows. -/
def Flags.set? (flags : Flags) (c : Char) (on : Bool) : Option Flags :=
  match c with
  | 'i' => some { flags with ignoreCase := on }
  | 'm' => some { flags with multiLine := on }
  | 's' => some { flags with dotAll := on }
  | 'U' => some { flags with isLazy := on }
  | 'u' => if on then some flags else none
  | _ => none

/-- Flags before a colon or a closing parenthesis. A letter and the hyphen that turns flags off
occur at most once each, and a letter follows the hyphen. Yields the letters and whether a group
starts here. -/
def flags? (flags : Flags) (seen : List Char) :
    List Char → Option (Flags × List Char × Bool × List Char)
  | [] => none
  | c :: rest =>
    if c = ':' ∨ c = ')' then
      if seen.head? = some '-' then none else some (flags, seen, c = ':', rest)
    else if c ∈ seen then none
    else if c = '-' then flags? flags (c :: seen) rest
    else do flags? (← flags.set? c (decide ('-' ∉ seen))) (c :: seen) rest

def isNameStart (c : Char) : Bool :=
  c = '_' || Text.isAlphabetic c

def isNamePart (c : Char) : Bool :=
  c = '_' || c = '.' || c = '[' || c = ']' || Text.isAlphanumeric c

/-- The name of a group, up to its closing angle bracket. -/
def groupName? (cs : List Char) : Option (List Char × List Char) :=
  let name := cs.takeWhile (· ≠ '>')
  match name, cs.dropWhile (· ≠ '>') with
  | first :: more, _ :: rest =>
    if isNameStart first ∧ more.all isNamePart then some (name, rest) else none
  | _, _ => none

/-- What an opening parenthesis starts: flags for the rest of the group, a group that is not kept,
or one that is kept and may have a name. -/
inductive Opening where
  | flags (flags : Flags)
  | group (flags : Flags)
  | capture (name : Option (List Char))

/-- Conditions on the surroundings are not supported. -/
def opening? (flags : Flags) : List Char → Option (Opening × List Char)
  | '?' :: '=' :: _ | '?' :: '!' :: _ | '?' :: '<' :: '=' :: _ | '?' :: '<' :: '!' :: _ => none
  | '?' :: 'P' :: '<' :: rest | '?' :: '<' :: rest => do
    let (name, rest) ← groupName? rest
    return (.capture (some name), rest)
  | '?' :: rest => do
    let (flags, seen, opens, rest) ← flags? flags [] rest
    if opens then return (.group flags, rest)
    else if seen.isEmpty then none
    else return (.flags flags, rest)
  | rest => some (.capture none, rest)

/-- A part of a branch and how deep it nests. Flags leave a part without a pattern. -/
structure Part where
  pattern : Option Pattern
  depth : Nat := 0

/-- How deep several parts nest together; more than one are a level of their own. -/
def depthOfAll (parts : List Part) : Nat :=
  match parts with
  | [part] => part.depth
  | parts => parts.foldl (fun n part => max n (part.depth + 1)) 0

/-- A group that is still open. -/
structure Group where
  /-- The flags that hold again after the group. -/
  outer : Flags := {}
  /-- The number of a group that is kept. -/
  number : Option Nat := none
  /-- Finished branches, last one first. -/
  branches : List Part := []
  /-- What the current branch holds so far, last part first. -/
  parts : List Part := []

namespace Group

def add (g : Group) (part : Part) : Group :=
  { g with parts := part :: g.parts }

/-- The current branch. -/
def branch (g : Group) : Part where
  pattern := some (ofParts (g.parts.reverse.filterMap (·.pattern)))
  depth := depthOfAll g.parts

/-- All branches; the first one written comes first. -/
def content (g : Group) : Part :=
  let branches := (g.branch :: g.branches).reverse
  { pattern := some (ofBranches (branches.filterMap (·.pattern))), depth := depthOfAll branches }

def startBranch (g : Group) : Group :=
  { g with branches := g.branch :: g.branches, parts := [] }

/-- The closed group as a part of the next one. -/
def closed (g : Group) : Part :=
  let content := g.content
  let pattern :=
    match g.number with
    | some n => content.pattern.map (capture n)
    | none => content.pattern
  { pattern, depth := content.depth + 1 }

/-- Repeats the last part. -/
def repeat? (g : Group) (least : Nat) (most : Option Nat) (isLazy : Bool) : Option Group :=
  match g.parts with
  | ⟨some p, depth⟩ :: parts =>
    some { g with parts := ⟨some (repeated p least most isLazy), depth + 1⟩ :: parts }
  | _ => none

end Group

/-- What one character or escape stands for under some flags. -/
def ofPrimitive (flags : Flags) : Primitive → Pattern
  | .literal c => ofSet (Bracket.fold flags (.single c))
  | .set s => ofSet s
  | .anchor a => anchor a

def dot (flags : Flags) : CodePoints :=
  if flags.dotAll then CodePoints.complement [] else (CodePoints.single '\n').complement

def isRepetitionSign (c : Char) : Bool :=
  c = '*' || c = '+' || c = '?' || c = '\x7b'

/-- One part of a branch other than a group. -/
def part? (flags : Flags) : List Char → Option (Part × List Char)
  | [] => none
  | '[' :: rest =>
    (Bracket.ofChars? flags rest).map fun ((s, depth), rest) => (⟨some (ofSet s), depth⟩, rest)
  | '\\' :: rest =>
    (escape? rest).map fun (p, rest) => ({ pattern := some (ofPrimitive flags p) }, rest)
  | '.' :: rest => some ({ pattern := some (ofSet (dot flags)) }, rest)
  | '^' :: rest =>
    some ({ pattern := some (anchor (if flags.multiLine then .lineStart else .textStart)) }, rest)
  | '$' :: rest =>
    some ({ pattern := some (anchor (if flags.multiLine then .lineEnd else .textEnd)) }, rest)
  | c :: rest => some ({ pattern := some (ofPrimitive flags (.literal c)) }, rest)

/-- A question mark after a repetition turns its preference around. -/
def turned : List Char → Bool × List Char
  | '?' :: rest => (true, rest)
  | rest => (false, rest)

/-- Reads to the end of a text. Each round takes at least one character, so `fuel` need not exceed
their number; `names` are the group names used so far, and `kept` is the number of groups that are
kept. -/
def read? : Nat → Flags → List (List Char) → Nat → Group → List Group → List Char → Option Part
  | _, _, _, _, g, [], [] => some g.content
  | _, _, _, _, _, _ :: _, [] => none
  | 0, _, _, _, _, _, _ => none
  | fuel + 1, flags, names, kept, g, outer, '(' :: rest => do
    match ← opening? flags rest with
    | (.flags flags, rest) => read? fuel flags names kept (g.add { pattern := none }) outer rest
    | (.group inner, rest) => read? fuel inner names kept { outer := flags } (g :: outer) rest
    | (.capture name, rest) =>
      if name.any (· ∈ names) then none
      else
        read? fuel flags (name.toList ++ names) (kept + 1)
          { outer := flags, number := some (kept + 1) } (g :: outer) rest
  | fuel + 1, _, names, kept, g, outer, ')' :: rest =>
    match outer with
    | next :: outer => read? fuel g.outer names kept (next.add g.closed) outer rest
    | [] => none
  | fuel + 1, flags, names, kept, g, outer, '|' :: rest =>
    read? fuel flags names kept g.startBranch outer rest
  | fuel + 1, flags, names, kept, g, outer, c :: rest =>
    if isRepetitionSign c then do
      let ((least, most), rest) ← repetition? (c :: rest)
      let (isTurned, rest) := turned rest
      read? fuel flags names kept (← g.repeat? least most (flags.isLazy != isTurned)) outer rest
    else do
      let (part, rest) ← part? flags (c :: rest)
      read? fuel flags names kept (g.add part) outer rest

/-- How deep groups, repetitions, brackets and lists of parts may nest. -/
def maxDepth : Nat :=
  250

/-- Reads a whole pattern. One that nests too deeply or needs too large an automaton is refused. -/
def ofText? (s : String) : Option Pattern := do
  let cs := s.toList
  let part ← read? (cs.length + 1) {} [] 0 {} [] cs
  let p ← part.pattern
  if part.depth ≤ maxDepth ∧ p.isAffordable then return p else none

end FieldPipeline.Pattern
