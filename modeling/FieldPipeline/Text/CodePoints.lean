namespace FieldPipeline.Text

/-- A set of code points as closed ranges in increasing order that do not touch. -/
abbrev CodePoints := List (Nat × Nat)

namespace CodePoints

def holds : CodePoints → Nat → Bool
  | [], _ => false
  | (first, last) :: rest, n => if n < first then false else n ≤ last || holds rest n

def contains (set : CodePoints) (c : Char) : Bool :=
  set.holds c.toNat

/-- Adds a range. Ranges that overlap or touch it become one with it. -/
def add (first last : Nat) : CodePoints → CodePoints
  | [] => [(first, last)]
  | (a, b) :: rest =>
    if last + 1 < a then (first, last) :: (a, b) :: rest
    else if b + 1 < first then (a, b) :: add first last rest
    else add (min first a) (max last b) rest

def single (c : Char) : CodePoints :=
  [(c.toNat, c.toNat)]

def union (s t : CodePoints) : CodePoints :=
  t.foldr (fun (first, last) s => s.add first last) s

/-- What a set leaves out from `next` on. -/
def gaps (next : Nat) : CodePoints → CodePoints
  | [] => if next ≤ 0x10FFFF then [(next, 0x10FFFF)] else []
  | (first, last) :: rest =>
    if next < first then (next, first - 1) :: gaps (last + 1) rest else gaps (last + 1) rest

/-- All other characters. Surrogates are none. -/
def complement (s : CodePoints) : CodePoints :=
  gaps 0 (s.add 0xD800 0xDFFF)

def intersection (s t : CodePoints) : CodePoints :=
  (s.complement.union t.complement).complement

def difference (s t : CodePoints) : CodePoints :=
  s.intersection t.complement

/-- What is in one of two sets but not in both. -/
def exclusive (s t : CodePoints) : CodePoints :=
  (s.union t).difference (s.intersection t)

def isAscii (s : CodePoints) : Bool :=
  s.all fun (_, last) => last < 0x80

end CodePoints

/-- The property White_Space. -/
def blanks : CodePoints := [
  (0x9, 0xD), (0x20, 0x20), (0x85, 0x85), (0xA0, 0xA0), (0x1680, 0x1680), (0x2000, 0x200A),
  (0x2028, 0x2029), (0x202F, 0x202F), (0x205F, 0x205F), (0x3000, 0x3000)]

def isBlank (c : Char) : Bool :=
  blanks.contains c

/-- Drops the characters that satisfy `p` from both ends. -/
def trimBoth (p : Char → Bool) (cs : List Char) : List Char :=
  ((cs.dropWhile p).reverse.dropWhile p).reverse

/-- Drops the blank characters from both ends. -/
def trim (s : String) : String :=
  .ofList (trimBoth isBlank s.toList)

end FieldPipeline.Text
