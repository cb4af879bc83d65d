import FieldPipeline.Text.WordCharacter

namespace FieldPipeline

open Text (CodePoints)

/-- A condition on a position between characters. -/
inductive Anchor where
  | textStart
  | textEnd
  | lineStart
  | lineEnd
  | wordBoundary
  | noWordBoundary
  | wordStart
  | wordEnd
  | noWordBefore
  | noWordAfter
deriving DecidableEq, Repr

/-- A pattern over texts. It takes the positions at which a match may start to those at which it may
end. -/
inductive Pattern where
  | empty
  | literal (cs : List Char)
  /-- One character of a set. -/
  | set (s : CodePoints)
  | anchor (a : Anchor)
  | seq (parts : List Pattern)
  | alt (branches : List Pattern)
  /-- At least `least` times, and at most `most` times if that is given; a lazy repetition prefers
  fewer. -/
  | repetition (p : Pattern) (least : Nat) (most : Option Nat) (isLazy : Bool)
  /-- A group whose match is kept; groups are numbered. -/
  | capture (number : Nat) (p : Pattern)
deriving Repr, Inhabited

namespace Anchor

/-- Whether an anchor holds between the characters before and after a position. -/
def holds (before after : Option Char) : Anchor → Bool
  | textStart => before.isNone
  | textEnd => after.isNone
  | lineStart => before.isNone || before == some '\n'
  | lineEnd => after.isNone || after == some '\n'
  | wordBoundary => before.any Text.isWordCharacter != after.any Text.isWordCharacter
  | noWordBoundary => before.any Text.isWordCharacter == after.any Text.isWordCharacter
  | wordStart => !before.any Text.isWordCharacter && after.any Text.isWordCharacter
  | wordEnd => before.any Text.isWordCharacter && !after.any Text.isWordCharacter
  | noWordBefore => !before.any Text.isWordCharacter
  | noWordAfter => !after.any Text.isWordCharacter

end Anchor

namespace Pattern

/-- Applies `f` `n` times. -/
def iterate {α : Type} (f : α → α) : Nat → α → α
  | 0, a => a
  | n + 1, a => iterate f n (f a)

def join (a b : List Nat) : List Nat :=
  a ++ b.filter (· ∉ a)

/-- What at most `n` rounds of `step` reach, given what is known and which part of it is new. -/
def grow (step : List Nat → List Nat) : Nat → List Nat → List Nat → List Nat
  | 0, known, _ => known
  | n + 1, known, new =>
    let next := (step new).filter (· ∉ known)
    if next.isEmpty then known else grow step n (known ++ next) next

/-- Whether `text` reads `cs` from position `i` on. -/
def readsAt (text : Array Char) : List Char → Nat → Bool
  | [], _ => true
  | c :: cs, i => text[i]? == some c && readsAt text cs (i + 1)

mutual

/-- Where matches in `text` may end that start at one of some positions. A position is never left
backwards, so rounds beyond the number of positions change nothing. -/
def ends (text : Array Char) : Pattern → List Nat → List Nat
  | empty, starts => starts
  | literal cs, starts => (starts.filter (readsAt text cs)).map (· + cs.length)
  | set s, starts => (starts.filter fun i => text[i]?.any s.contains).map (· + 1)
  | anchor a, starts =>
    starts.filter fun i => a.holds (if i = 0 then none else text[i - 1]?) text[i]?
  | seq parts, starts => endsOfAll text parts starts
  | alt branches, starts => endsOfAny text branches starts
  | repetition p least most _, starts =>
    let rounds := text.size + 2
    let first := iterate (p.ends text) (min least rounds) starts
    let more :=
      match most with
      | some most => min (most - least) rounds
      | none => rounds
    grow (p.ends text) more first first
  | capture _ p, starts => p.ends text starts

def endsOfAll (text : Array Char) : List Pattern → List Nat → List Nat
  | [], starts => starts
  | p :: rest, starts => endsOfAll text rest (p.ends text starts)

def endsOfAny (text : Array Char) : List Pattern → List Nat → List Nat
  | [], _ => []
  | p :: rest, starts => join (p.ends text starts) (endsOfAny text rest starts)

end

/-- Whether some part of a text matches. -/
def isMatch (p : Pattern) (s : String) : Bool :=
  let text := s.toList.toArray
  !(p.ends text (List.range (text.size + 1))).isEmpty

end Pattern

end FieldPipeline
