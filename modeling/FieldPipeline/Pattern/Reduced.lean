import FieldPipeline.Pattern
import FieldPipeline.Text.Encoding

namespace FieldPipeline.Pattern

open Text (CodePoints)

/-- A set, or the literal of its only member. -/
def ofSet (s : CodePoints) : Pattern :=
  match s with
  | [(first, last)] => if first = last then literal [.ofNat first] else set s
  | s => set s

def sum? (a b : Option Nat) : Option Nat := do
  return (← a) + (← b)

mutual

/-- The fewest bytes that a match takes; none if nothing matches. -/
def minWidth? : Pattern → Option Nat
  | empty | anchor _ => some 0
  | literal cs => some (Text.width cs)
  | set s => s.head?.map fun (first, _) => Text.codeWidth first
  | seq parts => minWidthOfAll? parts
  | alt branches => minWidthOfAny? branches
  | repetition p least _ _ => (minWidth? p).map (least * ·)
  | capture _ p => minWidth? p

def minWidthOfAll? : List Pattern → Option Nat
  | [] => some 0
  | p :: rest => sum? (minWidth? p) (minWidthOfAll? rest)

def minWidthOfAny? : List Pattern → Option Nat
  | [] => none
  | [p] => minWidth? p
  | p :: rest => do return min (← minWidth? p) (← minWidthOfAny? rest)

end

mutual

/-- Whether every match is empty. A set without members has no match, and counts as one that takes
a character. -/
def isWidthless : Pattern → Bool
  | empty | anchor _ => true
  | literal cs => cs.isEmpty
  | set _ => false
  | seq parts | alt parts => areWidthless parts
  | repetition p _ most _ => isWidthless p && most.isSome
  | capture _ p => isWidthless p

def areWidthless : List Pattern → Bool
  | [] => true
  | p :: rest => isWidthless p && areWidthless rest

end

mutual

/-- Whether two patterns are written alike. -/
def same : Pattern → Pattern → Bool
  | empty, empty => true
  | literal cs, literal ds => cs == ds
  | set s, set t => s == t
  | anchor a, anchor b => a == b
  | seq ps, seq qs | alt ps, alt qs => sameAll ps qs
  | repetition p least most isLazy, repetition q least' most' isLazy' =>
    least == least' && most == most' && isLazy == isLazy' && same p q
  | capture m p, capture n q => m == n && same p q
  | _, _ => false

def sameAll : List Pattern → List Pattern → Bool
  | [], [] => true
  | p :: ps, q :: qs => same p q && sameAll ps qs
  | _, _ => false

end

/-- How many parts two sequences share at their start. -/
def commonLength : List Pattern → List Pattern → Nat
  | p :: ps, q :: qs => if same p q then commonLength ps qs + 1 else 0
  | _, _ => 0

/-- Puts a part in front of a sequence. -/
def link (p : Pattern) (parts : List Pattern) : List Pattern :=
  match p, parts with
  | literal cs, literal ds :: rest => literal (cs ++ ds) :: rest
  | p, parts => p :: parts

/-- The parts of a pattern as a sequence. -/
def parts : Pattern → List Pattern
  | empty => []
  | seq ps => ps
  | p => [p]

/-- One pattern after the other. -/
def ofParts (ps : List Pattern) : Pattern :=
  match (ps.flatMap parts).foldr link [] with
  | [] => empty
  | [p] => p
  | ps => seq ps

def branches : Pattern → List Pattern
  | alt ps => ps
  | p => [p]

def onlyChar? : Pattern → Option Char
  | literal [c] => some c
  | _ => none

def members? : Pattern → Option CodePoints
  | set s => some s
  | _ => none

def sequence? : Pattern → Option (List Pattern)
  | seq ps => some ps
  | _ => none

/-- Alternatives as one set: all of them literal characters, or all of them sets. -/
def asSet? (ps : List Pattern) : Option CodePoints :=
  match ps.mapM onlyChar? with
  | some cs => some (cs.foldl (fun s c => s.union (.single c)) [])
  | none => (ps.mapM members?).map (·.foldl CodePoints.union [])

/-- The number of parts that all of some sequences share at their start. -/
def sharedLength : List (List Pattern) → Nat
  | [] => 0
  | ps :: rest => rest.foldl (fun n qs => commonLength (ps.take n) qs) ps.length

/-- Alternatives; `depth` bounds how often a shared start is taken out. -/
def ofBranchesWithin : Nat → List Pattern → Pattern
  | 0, ps => alt ps
  | depth + 1, ps =>
    match ps.flatMap branches with
    | [] => set []
    | [p] => p
    | ps =>
      match asSet? ps, ps.mapM sequence? with
      | some s, _ => ofSet s
      | none, none => alt ps
      | none, some sequences =>
        let n := sharedLength sequences
        if n = 0 then alt ps
        else
          ofParts ((sequences.headD []).take n ++
            [ofBranchesWithin depth (sequences.map fun qs => ofParts (qs.drop n))])

mutual

/-- The number of nested parts. -/
def nodes : Pattern → Nat
  | seq ps | alt ps => nodesOfAll ps + 1
  | repetition p .. | capture _ p => nodes p + 1
  | _ => 1

def nodesOfAll : List Pattern → Nat
  | [] => 0
  | p :: rest => nodes p + nodesOfAll rest

end

/-- Alternatives, the first one preferred. Taking out a shared start leaves fewer parts. -/
def ofBranches (ps : List Pattern) : Pattern :=
  ofBranchesWithin (nodesOfAll ps + 1) ps

/-- A repetition. More than one empty match is no different from one. -/
def repeated (p : Pattern) (least : Nat) (most : Option Nat) (isLazy : Bool) : Pattern :=
  let (least, most) :=
    if isWidthless p then (min least 1, some (min (most.getD 1) 1)) else (least, most)
  match least, most with
  | 0, some 0 => empty
  | 1, some 1 => p
  | least, most => repetition p least most isLazy

end FieldPipeline.Pattern
