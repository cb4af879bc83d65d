import FieldPipeline.Pattern.Reduced
import Std.Data.HashMap

namespace FieldPipeline.Pattern

open Text (CodePoints ByteRange)

/-- The states of an automaton, and the bytes of the lists that they hold. The automaton of a
pattern is not built: its states are only counted, in the order in which they would be numbered. -/
structure Footprint where
  states : Nat := 0
  listed : Nat := 0
deriving DecidableEq, Repr

namespace Footprint

def bytes (f : Footprint) : Nat :=
  32 * f.states + f.listed

def isExcessive (f : Footprint) : Bool :=
  10 * 1024 * 1024 < f.bytes

def addStates (f : Footprint) (n : Nat) : Footprint :=
  { f with states := f.states + n }

/-- A state that branches by the next byte, in `n` ways. -/
def addBranching (f : Footprint) (n : Nat) : Footprint :=
  { states := f.states + 1, listed := f.listed + 8 * n }

/-- Lists the targets of `n` more steps that read nothing. -/
def addSteps (f : Footprint) (n : Nat) : Footprint :=
  { f with listed := f.listed + 4 * n }

/-- Repeats `body`, unless the automaton is too large already. -/
def times (body : Footprint → Footprint) : Nat → Footprint → Footprint
  | 0, f => f
  | n + 1, f => if f.isExcessive then f else times body n (body f)

end Footprint

/-- States that can be used again, by what they were made from. The table has a fixed number of
slots, and a new entry takes the place of the one in its slot. -/
abbrev Known (κ : Type) := Std.HashMap Nat (κ × Nat)

namespace Known

/-- The slot of a key by the FNV-1a hash of its numbers. -/
def slot (slots : Nat) (key : List Nat) : Nat :=
  let hash := key.foldl (fun (h : UInt64) n => (h ^^^ UInt64.ofNat n) * 1099511628211)
    14695981039346656037
  hash.toNat % slots

def find? {κ : Type} [DecidableEq κ] (known : Known κ) (slot : Nat) (key : κ) : Option Nat :=
  match known[slot]? with
  | some (k, state) => if k = key then some state else none
  | none => none

end Known

/-- A step that reads a byte of a range. -/
structure Edge where
  range : ByteRange
  target : Nat
deriving DecidableEq, Repr

def Edge.numbers (e : Edge) : List Nat :=
  [e.range.first, e.range.last, e.target]

/-- An automaton that grows, and its states that can be used again. -/
structure Growth (κ : Type) where
  footprint : Footprint
  known : Known κ := {}

/-- The state with some edges; a new one unless it is known. -/
def Growth.branching (g : Growth (List Edge)) (edges : List Edge) : Nat × Growth (List Edge) :=
  let slot := Known.slot 10000 (edges.flatMap Edge.numbers)
  match g.known.find? slot edges with
  | some state => (state, g)
  | none =>
    (g.footprint.states, {
      footprint := g.footprint.addBranching edges.length
      known := g.known.insert slot (edges, g.footprint.states) })

/-- The state before a range of bytes that leads to `target`; a new one unless it is known. -/
def Growth.before (g : Growth Edge) (edge : Edge) : Nat × Growth Edge :=
  let slot := Known.slot 1000 [edge.target, edge.range.first, edge.range.last]
  match g.known.find? slot edge with
  | some state => (state, g)
  | none =>
    (g.footprint.states, {
      footprint := g.footprint.addStates 1
      known := g.known.insert slot (edge, g.footprint.states) })

/-- The state from which some sequences lead to `final`. Sequences that start alike share the start,
and equal ends share their states; `depth` is the length of the longest sequence. -/
def shareEnds (final : Nat) :
    Nat → List (List ByteRange) → Growth (List Edge) → Nat × Growth (List Edge)
  | 0, _, g => (final, g)
  | depth + 1, sequences, g =>
    let groups := sequences.splitBy fun a b => a.head? == b.head?
    let (edges, g) := groups.foldl (fun (edges, g) group =>
      match group with
      | [range] :: _ => (edges ++ [⟨range, final⟩], g)
      | (range :: _) :: _ =>
        let (target, g) := shareEnds final depth (group.map List.tail) g
        (edges ++ [⟨range, target⟩], g)
      | _ => (edges, g)) ([], g)
    g.branching edges

/-- A set that is read forwards. -/
def Footprint.addSet (f : Footprint) (s : CodePoints) : Footprint :=
  (shareEnds f.states 4 s.encodings { footprint := f.addStates 1 }).2.footprint

/-- A set that is read backwards: a state with a step for each sequence of bytes, and the common
end. -/
def Footprint.addSetBackward (f : Footprint) (s : CodePoints) : Footprint :=
  let final := f.states + 1
  let g : Growth Edge := { footprint := f.addStates 2 }
  let g := s.encodings.foldl (fun g ranges =>
    let (_, g) := ranges.foldl (fun (target, g) range => g.before ⟨range, target⟩) (final, g)
    { g with footprint := g.footprint.addSteps 1 }) g
  g.footprint

/-- Cuts a list of texts at its empty texts. Of several at the start only one counts. -/
def cutAtEmpty (texts : List (List Nat)) : List (List (List Nat)) :=
  match texts with
  | [] :: rest => [] :: (rest.dropWhile List.isEmpty).splitOnP List.isEmpty
  | texts => texts.splitOnP List.isEmpty

/-- A tree of texts that share their starts, as far as the order of preference allows it. `depth` is
more than the length of the longest text. -/
def Footprint.addTree : Nat → List (List Nat) → Footprint → Footprint
  | 0, _, f => f
  | depth + 1, texts, f =>
    let runs := cutAtEmpty texts
    let f := runs.foldl (fun f run =>
      let heads := (run.filterMap List.head?).eraseDups
      let f := heads.foldl (fun f head =>
        let rests := (run.filter (·.head? == some head)).map List.tail
        if rests.all List.isEmpty then f else addTree depth rests f) f
      match heads with
      | [] => f
      | [_] => (f.addStates 1).addSteps 1
      | heads => (f.addBranching heads.length).addSteps 1) f
    (f.addStates 1).addSteps (runs.length - 1)

/-- Alternative literals. -/
def Footprint.addLiterals (f : Footprint) (backward : Bool) (literals : List (List Char)) :
    Footprint :=
  let texts := literals.map fun cs =>
    let bytes := cs.flatMap fun c => Text.encode c.toNat
    if backward then bytes.reverse else bytes
  addTree (texts.foldl (fun n bytes => max n bytes.length) 0 + 1) texts (f.addStates 1)

def literal? : Pattern → Option (List Char)
  | literal cs => some cs
  | _ => none

/-- Whether the states of `p` that match it once more come before its end. -/
def loopsAtOnce (p : Pattern) : Bool :=
  match minWidth? p with
  | some n => 0 < n
  | none => false

mutual

/-- Whether the last state of a pattern lists its successors, so that what follows adds to its
list. -/
def endsInList (backward : Bool) : Pattern → Bool
  | repetition p 0 none _ => loopsAtOnce p
  | repetition _ _ none _ => true
  | repetition p least (some most) _ => least == most && endsInList backward p
  | capture _ p => backward && endsInList backward p
  | seq parts => if backward then firstEndsInList backward parts else lastEndsInList backward parts
  | _ => false

def firstEndsInList (backward : Bool) : List Pattern → Bool
  | [] => false
  | p :: _ => endsInList backward p

def lastEndsInList (backward : Bool) : List Pattern → Bool
  | [] => false
  | [p] => endsInList backward p
  | _ :: rest => lastEndsInList backward rest

end

/-- Joins what follows to the end of a pattern, `n` times. -/
def Footprint.join (f : Footprint) (backward : Bool) (p : Pattern) (n : Nat) : Footprint :=
  if endsInList backward p then f.addSteps n else f

mutual

def Footprint.add (backward : Bool) : Pattern → Footprint → Footprint
  | empty, f | anchor _, f => f.addStates 1
  | literal cs, f => f.addStates (Text.width cs)
  | set s, f =>
    if s.isAscii then (f.addStates 1).addBranching s.length
    else if backward then f.addSetBackward s
    else f.addSet s
  | seq parts, f =>
    let joined := if backward then parts.tail else parts.dropLast
    addAll backward parts (joined.foldl (fun f p => f.join backward p 1) f)
  | alt branches, f =>
    match branches.mapM literal? with
    | some literals => f.addLiterals backward literals
    | none => addAny backward 0 branches f
  | repetition p 0 (some 1) _, f =>
    (add backward p (f.addStates 1)).addStates 1 |>.addSteps 2 |>.join backward p 1
  | repetition p least none _, f =>
    if 0 < least then
      (Footprint.times (add backward p) least (f.join backward p least)).addStates 1 |>.addSteps 1
    else if loopsAtOnce p then
      (add backward p (f.addStates 1)).addSteps 1 |>.join backward p 1
    else (add backward p f).addStates 3 |>.addSteps 4 |>.join backward p 1
  | repetition p least (some most) _, f =>
    if least = most then Footprint.times (add backward p) least (f.join backward p (least - 1))
    else
      let f := f.join backward p most
      let f := if least = 0 then f.addStates 1 else Footprint.times (add backward p) least f
      Footprint.times (fun f => (add backward p (f.addStates 1)).addSteps 2) (most - least)
        (f.addStates 1)
  | capture _ p, f =>
    if backward then add backward p f
    else (add backward p (f.addStates 1)).addStates 1 |>.join backward p 1

def Footprint.addAll (backward : Bool) : List Pattern → Footprint → Footprint
  | [], f => f
  | p :: rest, f =>
    if backward then add backward p (addAll backward rest f)
    else addAll backward rest (add backward p f)

/-- Branches, `n` of which are done. The state that chooses follows the second one. -/
def Footprint.addAny (backward : Bool) : Nat → List Pattern → Footprint → Footprint
  | _, [], f => f
  | n, p :: rest, f =>
    let f := (add backward p f).addSteps 1 |>.join backward p 1
    addAny backward (n + 1) rest (if n = 1 then f.addStates 2 else f)

end

mutual

/-- Whether every match starts (or ends, if `backward`) at an anchor. -/
def isAnchored (backward : Bool) (a : Anchor) : Pattern → Bool
  | anchor b => a == b
  | seq parts =>
    if backward then lastIsAnchored backward a parts else firstIsAnchored backward a parts
  | alt branches => areAnchored backward a branches
  | repetition p least _ _ => 0 < least && isAnchored backward a p
  | capture _ p => isAnchored backward a p
  | _ => false

def firstIsAnchored (backward : Bool) (a : Anchor) : List Pattern → Bool
  | [] => false
  | p :: rest => isAnchored backward a p || isWidthless p && firstIsAnchored backward a rest

def lastIsAnchored (backward : Bool) (a : Anchor) : List Pattern → Bool
  | [] => false
  | p :: rest =>
    lastIsAnchored backward a rest || areWidthless rest && isAnchored backward a p

def areAnchored (backward : Bool) (a : Anchor) : List Pattern → Bool
  | [] => true
  | p :: rest => isAnchored backward a p && areAnchored backward a rest

end

/-- The whole automaton. Unless every match starts at the start of the text, it first skips any
bytes; only the one that reads forwards keeps track of the match. -/
def footprint (backward : Bool) (p : Pattern) : Footprint :=
  let anchored := isAnchored backward (if backward then .textEnd else .textStart) p
  let start : Footprint :=
    if anchored then { states := 1 }
    else ({ states := 2 } : Footprint).addBranching 1 |>.addSteps 2
  let whole := if backward then p else capture 0 p
  (Footprint.add backward whole start).addStates 1 |>.join backward whole 1

/-- Whether neither automaton takes more than ten mebibytes: the one that reads the bytes of a text
forwards, and the one that reads them backwards. -/
def isAffordable (p : Pattern) : Bool :=
  !(p.footprint false).isExcessive && !(p.footprint true).isExcessive

end FieldPipeline.Pattern
