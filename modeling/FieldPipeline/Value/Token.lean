import FieldPipeline.Decimal.Numeral
import FieldPipeline.Text.Notation

namespace FieldPipeline

/-- A string whose escapes name an unpaired surrogate is well formed but has no characters. -/
inductive Token where
  | arrayStart
  | arrayEnd
  | objectStart
  | objectEnd
  | comma
  | colon
  | null
  | bool (b : Bool)
  | number (n : Numeral)
  | string (s : Option String)
deriving DecidableEq, Repr

namespace Token

/-- Numbers have digits on both sides of a point, no plus sign and no leading zero. -/
def ofNumber? (cs : List Char) : Option Token := do
  let n ← Numeral.read? cs
  if n.sign ≠ some '+' ∧ n.fraction ≠ some [] ∧
      (n.whole = ['0'] ∨ (n.whole ≠ [] ∧ n.whole.head? ≠ some '0')) then
    return number n
  else none

def ofWord? (word : List Char) : Option Token :=
  if word = ['n', 'u', 'l', 'l'] then some null
  else if word = ['t', 'r', 'u', 'e'] then some (bool true)
  else if word = ['f', 'a', 'l', 's', 'e'] then some (bool false)
  else none

/-- The code units between two quotes: characters as they are, and one unit for each escape. -/
def units? : List Char → Option (List Nat)
  | [] => some []
  | '\\' :: 'u' :: a :: b :: c :: d :: rest => do
    return (← Text.hexNumber? [a, b, c, d]) :: (← units? rest)
  | '\\' :: c :: rest => do
    let unit ←
      if c = '"' ∨ c = '\\' ∨ c = '/' then some c.toNat
      else if c = 'b' then some 0x08
      else if c = 'f' then some 0x0C
      else if c = 'n' then some 0x0A
      else if c = 'r' then some 0x0D
      else if c = 't' then some 0x09
      else none
    return unit :: (← units? rest)
  | c :: rest => if c = '\\' then none else do return c.toNat :: (← units? rest)

/-- Joins surrogate pairs; an unpaired surrogate has no character. -/
def joinUnits? : List Nat → Option (List Char)
  | [] => some []
  | high :: low :: rest =>
    if 0xD800 ≤ high ∧ high < 0xDC00 then
      if 0xDC00 ≤ low ∧ low < 0xE000 then do
        return .ofNat (0x10000 + (high - 0xD800) * 0x400 + (low - 0xDC00)) :: (← joinUnits? rest)
      else none
    else if 0xDC00 ≤ high ∧ high < 0xE000 then none
    else do return .ofNat high :: (← joinUnits? (low :: rest))
  | [unit] => if 0xD800 ≤ unit ∧ unit < 0xE000 then none else some [.ofNat unit]

def ofQuoted? (body : List Char) : Option Token := do
  let units ← units? body
  return string ((joinUnits? units).map String.ofList)

/-- What has been read of the current token, in reverse. -/
inductive Scan where
  | blank
  | word (seen : List Char)
  | number (seen : List Char)
  | quoted (seen : List Char)
  | escape (seen : List Char)
deriving DecidableEq, Repr

namespace Scan

/-- The token that ends here, if one is open. -/
def finish? : Scan → Option (List Token)
  | blank => some []
  | word seen => (ofWord? seen.reverse).map ([·])
  | number seen => (ofNumber? seen.reverse).map ([·])
  | quoted _ | escape _ => none

def isNumeric (c : Char) : Bool :=
  c.isDigit || c = '+' || c = '-' || c = '.' || c = 'e' || c = 'E'

/-- The first character of a token, or one between tokens. -/
def start? (c : Char) : Option (List Token × Scan) :=
  if c = ' ' ∨ c = '\t' ∨ c = '\n' ∨ c = '\r' then some ([], blank)
  else if c = '[' then some ([arrayStart], blank)
  else if c = ']' then some ([arrayEnd], blank)
  else if c = '\x7b' then some ([objectStart], blank)
  else if c = '\x7d' then some ([objectEnd], blank)
  else if c = ',' then some ([comma], blank)
  else if c = ':' then some ([colon], blank)
  else if c = '"' then some ([], quoted [])
  else if c = '-' ∨ c.isDigit then some ([], number [c])
  else if c.isLower then some ([], word [c])
  else none

def step? (c : Char) : Scan → Option (List Token × Scan)
  | blank => start? c
  | word seen =>
    if c.isLower then some ([], word (c :: seen))
    else do
      let done ← (word seen).finish?
      let (more, next) ← start? c
      return (done ++ more, next)
  | number seen =>
    if isNumeric c then some ([], number (c :: seen))
    else do
      let done ← (number seen).finish?
      let (more, next) ← start? c
      return (done ++ more, next)
  | quoted seen =>
    if c = '"' then (ofQuoted? seen.reverse).map fun t => ([t], blank)
    else if c = '\\' then some ([], escape (c :: seen))
    else if c.toNat < 0x20 then none
    else some ([], quoted (c :: seen))
  | escape seen => some ([], quoted (c :: seen))

end Scan

/-- All tokens of a text, after those that are `done`, which are in reverse. -/
def scan? (done : List Token) : Scan → List Char → Option (List Token)
  | s, [] => s.finish?.map fun last => (last.reverse ++ done).reverse
  | s, c :: rest =>
    match s.step? c with
    | some (ended, next) => scan? (ended.reverse ++ done) next rest
    | none => none

def ofChars? (cs : List Char) : Option (List Token) :=
  scan? [] .blank cs

end Token

end FieldPipeline
