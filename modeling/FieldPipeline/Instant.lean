namespace FieldPipeline

/-- An instant: `seconds` since the start of 1970 in universal time, and nanoseconds, which reach
`10 ^ 9` within a leap second. It is shown `offset` seconds east. -/
structure Instant where
  seconds : Int
  nanos : Nat
  offset : Int
deriving DecidableEq, Repr

namespace Instant

/-- Microseconds since the start of 1970, rounded down. -/
def micros (t : Instant) : Int :=
  t.seconds * 1000000 + (t.nanos / 1000 : Nat)

/-- A day of the calendar. -/
structure Day where
  year : Int
  month : Nat
  day : Nat
deriving DecidableEq, Repr

/-- The day that comes `n` days after the first of 1970. Years are counted from March, so that a
leap day ends its year, in eras of 400 years. -/
def Day.ofCount (n : Int) : Day :=
  let fromMarch := n + 719468
  let era := fromMarch / 146097
  let dayOfEra := (fromMarch % 146097).toNat
  let yearOfEra := (dayOfEra - dayOfEra / 1460 + dayOfEra / 36524 - dayOfEra / 146096) / 365
  let dayOfYear := dayOfEra - (365 * yearOfEra + yearOfEra / 4 - yearOfEra / 100)
  let fifth := (5 * dayOfYear + 2) / 153
  let month := if fifth < 10 then fifth + 3 else fifth - 9
  { year := yearOfEra + era * 400 + (if month ≤ 2 then 1 else 0)
    month
    day := dayOfYear - (153 * fifth + 2) / 5 + 1 }

/-- At least `width` digits. -/
def padded (width n : Nat) : List Char :=
  let digits := Nat.toDigits 10 n
  List.replicate (width - digits.length) '0' ++ digits

/-- Four digits, with a sign before years of more digits or before year zero. -/
def yearChars (year : Int) : List Char :=
  if 0 ≤ year ∧ year ≤ 9999 then padded 4 year.toNat
  else (if year < 0 then '-' else '+') :: padded 4 year.natAbs

/-- Nothing, or three, six or nine digits after a point. -/
def fractionChars (nanos : Nat) : List Char :=
  if nanos = 0 then []
  else if nanos % 1000000 = 0 then '.' :: padded 3 (nanos / 1000000)
  else if nanos % 1000 = 0 then '.' :: padded 6 (nanos / 1000)
  else '.' :: padded 9 nanos

/-- Hours and minutes, rounded to the nearest minute; a half goes away from zero. -/
def offsetChars (offset : Int) : List Char :=
  let minutes := (offset.natAbs + 30) / 60
  (if offset < 0 then '-' else '+') ::
    padded 2 (minutes / 60) ++ ':' :: padded 2 (minutes % 60)

def text (t : Instant) : String :=
  let shown := t.seconds + t.offset
  let day := Day.ofCount (shown / 86400)
  let second := (shown % 86400).toNat
  .ofList <|
    yearChars day.year ++ '-' :: padded 2 day.month ++ '-' :: padded 2 day.day ++
    'T' :: padded 2 (second / 3600) ++ ':' :: padded 2 (second / 60 % 60) ++
    ':' :: padded 2 (second % 60 + t.nanos / 1000000000) ++
    fractionChars (t.nanos % 1000000000) ++ offsetChars t.offset

end Instant

end FieldPipeline
