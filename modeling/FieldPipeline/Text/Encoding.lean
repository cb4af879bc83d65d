import FieldPipeline.Text.CodePoints

namespace FieldPipeline.Text

/-- The number of bytes that encode a code point. -/
def codeWidth (n : Nat) : Nat :=
  if n < 0x80 then 1 else if n < 0x800 then 2 else if n < 0x10000 then 3 else 4

/-- The number of bytes that encode a text. -/
def width (cs : List Char) : Nat :=
  cs.foldl (fun n c => n + codeWidth c.toNat) 0

/-- The bytes that encode a code point in UTF-8. -/
def encode (n : Nat) : List Nat :=
  if n < 0x80 then [n]
  else if n < 0x800 then [0xC0 + n / 64, 0x80 + n % 64]
  else if n < 0x10000 then [0xE0 + n / 4096, 0x80 + n / 64 % 64, 0x80 + n % 64]
  else [0xF0 + n / 262144, 0x80 + n / 4096 % 64, 0x80 + n / 64 % 64, 0x80 + n % 64]

structure ByteRange where
  first : Nat
  last : Nat
deriving DecidableEq, Repr

/-- Cuts a range before `n`. -/
def cutBefore (n : Nat) : Nat × Nat → List (Nat × Nat)
  | (first, last) => if first < n ∧ n ≤ last then [(first, n - 1), (n, last)] else [(first, last)]

/-- Cuts a range so that each part consists of whole blocks of `size` code points or lies within
one. -/
def cutBlocks (size : Nat) : Nat × Nat → List (Nat × Nat)
  | (first, last) =>
    if first / size = last / size then [(first, last)]
    else
      let start := if first % size = 0 then first else (first / size + 1) * size
      let stop := if last % size = size - 1 then last + 1 else last / size * size
      (if first < start then [(first, start - 1)] else []) ++
      (if start < stop then [(start, stop - 1)] else []) ++
      (if stop ≤ last then [(stop, last)] else [])

/-- The parts of a range that one sequence of byte ranges encodes: all of one width, none of them
surrogates, and split into blocks byte by byte. -/
def encodable (range : Nat × Nat) : List (Nat × Nat) :=
  let sameWidth := [0x80, 0x800, 0xD800, 0xE000, 0x10000].foldl
    (fun parts n => parts.flatMap (cutBefore n)) [range]
  (sameWidth.filter fun (first, _) => first < 0xD800 ∨ 0xE000 ≤ first).flatMap fun part =>
    if part.2 < 0x80 then [part]
    else [64, 4096, 262144].foldl (fun parts size => parts.flatMap (cutBlocks size)) [part]

/-- The sequences of byte ranges that encode the members of a set, in increasing order. -/
def CodePoints.encodings (s : CodePoints) : List (List ByteRange) :=
  (s.flatMap encodable).map fun (first, last) =>
    (encode first).zipWith ByteRange.mk (encode last)

end FieldPipeline.Text
