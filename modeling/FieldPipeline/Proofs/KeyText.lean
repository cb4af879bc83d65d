import FieldPipeline.Arg.Key
import FieldPipeline.Proofs.Cutting
import FieldPipeline.Proofs.NumberText
import FieldPipeline.Value.Token

namespace FieldPipeline

namespace Text

namespace Quoted

/-- What a letter after a backslash stands for. -/
def letter? : Char → Option Char
  | '"' => some '"'
  | '\\' => some '\\'
  | 'b' => some '\x08'
  | 'f' => some '\x0c'
  | 'n' => some '\n'
  | 'r' => some '\r'
  | 't' => some '\t'
  | _ => none

/-- Reads a string back up to its closing quote, and gives what follows. -/
def read? : List Char → Option (List Char × List Char)
  | [] => none
  | '"' :: rest => some ([], rest)
  | '\\' :: 'u' :: a :: b :: c :: d :: rest =>
    (hexNumber? [a, b, c, d]).bind fun n => (read? rest).map fun p => (.ofNat n :: p.1, p.2)
  | '\\' :: c :: rest =>
    (letter? c).bind fun c => (read? rest).map fun p => (c :: p.1, p.2)
  | c :: rest => (read? rest).map fun p => (c :: p.1, p.2)

theorem hexNumber?_hexFour {n : Nat} (h : n < 0x20) : hexNumber? (hexFour n) = some n := by
  revert n
  decide

theorem read?_escape (c : Char) (rest : List Char) :
    read? (escape c ++ rest) = (read? rest).map fun p => (c :: p.1, p.2) := by
  unfold escape
  split; · next h => rw [h]; rfl
  split; · next h => rw [h]; rfl
  split; · next h => rw [h]; rfl
  split; · next h => rw [h]; rfl
  split; · next h => rw [h]; rfl
  split; · next h => rw [h]; rfl
  split; · next h => rw [h]; rfl
  split
  · next control =>
    change ((hexNumber? (hexFour c.toNat)).bind fun n =>
      (read? rest).map fun p => (Char.ofNat n :: p.1, p.2)) = _
    rw [hexNumber?_hexFour control, Option.bind_some, Char.ofNat_toNat]
  · next quote slash _ _ _ _ _ _ =>
    rw [List.singleton_append]
    conv => lhs; unfold read?
    split
    · next e => cases e
    · next e => exact absurd (List.cons.inj e).1 quote
    · next e => exact absurd (List.cons.inj e).1 slash
    · next e => exact absurd (List.cons.inj e).1 slash
    · next e =>
      obtain ⟨rfl, rfl⟩ := List.cons.inj e
      rfl

theorem read?_encode (cs r : List Char) : read? (cs.flatMap escape ++ '"' :: r) = some (cs, r) := by
  induction cs with
  | nil => rfl
  | cons c cs ih =>
    rw [List.flatMap_cons, List.append_assoc, read?_escape, ih]
    rfl

/-- A quoted string ends where its text says. -/
theorem encode_cut {cs cs' r r' : List Char} (h : encode cs ++ r = encode cs' ++ r') :
    cs = cs' ∧ r = r' := by
  have body : cs.flatMap escape ++ '"' :: r = cs'.flatMap escape ++ '"' :: r' := by
    simpa [encode] using h
  have read := congrArg read? body
  rw [read?_encode, read?_encode] at read
  exact Prod.mk.inj (Option.some.inj read)

end Quoted

namespace Compact

/-- What may follow a part: the end of the text, or the next sign. -/
def Closes (r : List Char) : Prop :=
  ∀ c ∈ r.head?, c = ',' ∨ c = ']' ∨ c = '\x7d'

theorem opens_ne {a b r : List Char} (opens : ¬ Closes a) (closes : Closes b) : a ++ r ≠ b := by
  rintro rfl
  apply opens
  cases a with
  | nil => nofun
  | cons c a => exact closes

section Parts

variable {α : Type} {chars : α → List Char} {P : α → Prop}

/-- The text of `a` tells it from everything else with `P`, whatever follows. -/
def Ends (chars : α → List Char) (P : α → Prop) (a : α) : Prop :=
  ∀ ⦃a' r r'⦄, P a' → Closes r → Closes r' → chars a ++ r = chars a' ++ r' → a = a' ∧ r = r'

@[simp] theorem joined_cons (part : List Char) (rest : List (List Char)) :
    joined (part :: rest) = part ++ rest.flatMap (',' :: ·) := by
  induction rest generalizing part with
  | nil => simp [joined]
  | cons next rest ih =>
    rw [joined, ih, List.flatMap_cons]
    rfl

theorem closes_rest {close : Char} (bracket : close = ']' ∨ close = '\x7d')
    (parts : List (List Char)) (r : List Char) :
    Closes (parts.flatMap (',' :: ·) ++ close :: r) := by
  cases parts with
  | nil =>
    rintro c ⟨⟩
    exact .inr bracket
  | cons part parts =>
    rintro c ⟨⟩
    exact .inl rfl

variable {close : Char} (bracket : close = ']' ∨ close = '\x7d')

include bracket in
theorem rest_cut {as as' : List α} {r r' : List Char} (ends : ∀ a ∈ as, Ends chars P a)
    (told : ∀ a ∈ as', P a)
    (h : (as.map chars).flatMap (',' :: ·) ++ close :: r =
      (as'.map chars).flatMap (',' :: ·) ++ close :: r') : as = as' ∧ r = r' := by
  have comma : ',' ≠ close := by rcases bracket with rfl | rfl <;> decide
  induction as generalizing as' with
  | nil =>
    cases as' with
    | nil => exact ⟨rfl, (List.cons.inj h).2⟩
    | cons a' as' => exact absurd (List.cons.inj h).1.symm comma
  | cons a as ih =>
    cases as' with
    | nil => exact absurd (List.cons.inj h).1 comma
    | cons a' as' =>
      simp only [List.map_cons, List.flatMap_cons, List.cons_append, List.append_assoc,
        List.cons.injEq, true_and] at h
      obtain ⟨rfl, rest⟩ := ends a List.mem_cons_self (told a' List.mem_cons_self)
        (closes_rest bracket _ r) (closes_rest bracket _ r') h
      obtain ⟨rfl, rfl⟩ := ih (fun b hb => ends b (List.mem_cons_of_mem a hb))
        (fun b hb => told b (List.mem_cons_of_mem a hb)) rest
      exact ⟨rfl, rfl⟩

include bracket in
/-- Parts between brackets are told apart if each of them is. -/
theorem joined_cut {as as' : List α} {r r' : List Char} (opens : ∀ a, ¬ Closes (chars a))
    (ends : ∀ a ∈ as, Ends chars P a) (told : ∀ a ∈ as', P a)
    (h : joined (as.map chars) ++ close :: r = joined (as'.map chars) ++ close :: r') :
    as = as' ∧ r = r' := by
  have closed (r : List Char) : Closes (close :: r) := closes_rest bracket [] r
  cases as with
  | nil =>
    cases as' with
    | nil => exact ⟨rfl, (List.cons.inj h).2⟩
    | cons a' as' =>
      rw [List.map_cons, joined_cons, List.append_assoc] at h
      exact absurd h.symm (opens_ne (opens a') (closed r))
  | cons a as =>
    cases as' with
    | nil =>
      rw [List.map_cons, joined_cons, List.append_assoc] at h
      exact absurd h (opens_ne (opens a) (closed r'))
    | cons a' as' =>
      rw [List.map_cons, List.map_cons, joined_cons, joined_cons, List.append_assoc,
        List.append_assoc] at h
      obtain ⟨rfl, rest⟩ := ends a List.mem_cons_self (told a' List.mem_cons_self)
        (closes_rest bracket _ r) (closes_rest bracket _ r') h
      obtain ⟨rfl, rfl⟩ := rest_cut bracket (fun b hb => ends b (List.mem_cons_of_mem a hb))
        (fun b hb => told b (List.mem_cons_of_mem a hb)) rest
      exact ⟨rfl, rfl⟩

end Parts

end Compact

end Text

namespace Numeral

variable {n : Numeral}

theorem mem_chars (h : n.Proper) : ∀ c ∈ n.chars, Token.Scan.isNumeric c = true := by
  have digit {c : Char} (hc : c.isDigit = true) : Token.Scan.isNumeric c = true := by
    simp [Token.Scan.isNumeric, hc]
  intro c hc
  simp only [chars, List.mem_append] at hc
  rcases hc with ((sign | whole) | fraction) | exponent
  · rcases h.sign with none_ | minus
    · simp [none_] at sign
    · rw [minus, Option.toList_some, List.mem_singleton] at sign
      rw [sign]
      rfl
  · exact digit (h.whole c whole)
  · cases digits : n.fraction with
    | none => simp [digits, fractionChars] at fraction
    | some ds =>
      rw [digits, fractionChars, List.mem_cons] at fraction
      rcases fraction with rfl | fraction
      · rfl
      · exact digit (h.fraction ds digits c fraction)
  · cases power : n.exponent with
    | none => simp [power, exponentChars] at exponent
    | some e =>
      rw [power, exponentChars, List.mem_cons, List.mem_cons] at exponent
      rcases exponent with rfl | rfl | exponent
      · rfl
      · split <;> rfl
      · exact digit (isDigit_of_mem_toDigits exponent)

theorem chars_head (h : n.Proper) :
    ∃ c rest, n.chars = c :: rest ∧ (c = '-' ∨ c.isDigit = true) := by
  unfold chars
  rcases h.sign with none_ | minus
  · obtain ⟨c, rest, whole⟩ := List.exists_cons_of_ne_nil h.nonempty
    rw [none_, whole]
    exact ⟨c, _, rfl, .inr (h.whole c (whole ▸ List.mem_cons_self))⟩
  · rw [minus]
    exact ⟨'-', _, rfl, .inl rfl⟩

end Numeral

namespace KeyTree

open Text.Compact (Closes Ends)

theorem itemsChars_eq (ts : List KeyTree) : itemsChars ts = ts.map chars := by
  induction ts with
  | nil => rfl
  | cons t ts ih => rw [itemsChars, ih, List.map_cons]

def fieldChars (f : String × KeyTree) : List Char :=
  Text.Compact.field f.1 f.2.chars

theorem fieldsChars_eq (fs : List (String × KeyTree)) : fieldsChars fs = fs.map fieldChars := by
  induction fs with
  | nil => rfl
  | cons f fs ih =>
    obtain ⟨key, t⟩ := f
    rw [fieldsChars, ih, List.map_cons]
    rfl

section Kinds

inductive Kind where
  | null
  | bool
  | number
  | string
  | array
  | object
  | identity

def kind : KeyTree → Kind
  | null => .null
  | bool _ => .bool
  | number _ => .number
  | string _ => .string
  | array _ => .array
  | object _ => .object
  | identity _ => .identity

/-- What the first character of a text shows. -/
def kindAt? (c : Char) : Option Kind :=
  if c = '-' ∨ c.isDigit then some .number
  else
    match c with
    | 'n' => some .null
    | 't' => some .bool
    | 'f' => some .bool
    | '"' => some .string
    | '[' => some .array
    | '\x7b' => some .object
    | '<' => some .identity
    | _ => none

theorem chars_kind (t : KeyTree) : ∃ c rest, t.chars = c :: rest ∧ kindAt? c = some t.kind := by
  cases t with
  | bool b => cases b <;> exact ⟨_, _, rfl, rfl⟩
  | number n =>
    obtain ⟨c, rest, text, digit⟩ := Numeral.chars_head n.numeral_proper
    exact ⟨c, rest, n.chars_eq_numeral.trans text, if_pos digit⟩
  | _ => exact ⟨_, _, rfl, rfl⟩

theorem kind_eq {t t' : KeyTree} {r r' : List Char} (h : t.chars ++ r = t'.chars ++ r') :
    t.kind = t'.kind := by
  obtain ⟨c, rest, text, kind⟩ := chars_kind t
  obtain ⟨c', rest', text', kind'⟩ := chars_kind t'
  rw [text, text'] at h
  rw [(List.cons.inj h).1, kind'] at kind
  exact (Option.some.inj kind).symm

theorem opens (t : KeyTree) : ¬ Closes t.chars := by
  intro closes
  obtain ⟨c, rest, text, kind⟩ := chars_kind t
  rcases closes c (by rw [text]; rfl) with rfl | rfl | rfl <;> cases kind

end Kinds

mutual

/-- No identity in the tree contains the sign that ends it. -/
def Named : KeyTree → Prop
  | array items => AllNamed items
  | object fields => FieldsNamed fields
  | identity id => '>' ∉ id.toList
  | _ => True

def AllNamed : List KeyTree → Prop
  | [] => True
  | t :: rest => t.Named ∧ AllNamed rest

def FieldsNamed : List (String × KeyTree) → Prop
  | [] => True
  | (_, t) :: rest => t.Named ∧ FieldsNamed rest

end

theorem allNamed_iff {ts : List KeyTree} : AllNamed ts ↔ ∀ t ∈ ts, t.Named := by
  induction ts with
  | nil => simp [AllNamed]
  | cons t ts ih => simp [AllNamed, ih]

theorem fieldsNamed_iff {fs : List (String × KeyTree)} :
    FieldsNamed fs ↔ ∀ f ∈ fs, f.2.Named := by
  induction fs with
  | nil => simp [FieldsNamed]
  | cons f fs ih => simp [FieldsNamed, ih]

theorem number_cut {n n' : Number} {r r' : List Char} (closes : Closes r) (closes' : Closes r')
    (h : n.chars ++ r = n'.chars ++ r') : n = n' ∧ r = r' := by
  have inside (n : Number) : ∀ c ∈ n.chars, Token.Scan.isNumeric c = true := by
    rw [n.chars_eq_numeral]
    exact Numeral.mem_chars n.numeral_proper
  have stop {r : List Char} (closes : Closes r) :
      ∀ c ∈ r.head?, Token.Scan.isNumeric c = false := by
    intro c hc
    rcases closes c hc with rfl | rfl | rfl <;> decide
  obtain ⟨same, rest⟩ := Text.span_cut (inside n) (inside n') (stop closes) (stop closes') h
  exact ⟨Number.chars_inj same, rest⟩

theorem field_ends {key : String} {t : KeyTree} (ends : Ends chars Named t) :
    Ends fieldChars (fun f => f.2.Named) (key, t) := by
  rintro ⟨key', t'⟩ r r' named closes closes' h
  simp only [fieldChars, Text.Compact.field, List.append_assoc, List.cons_append] at h
  obtain ⟨keys, rest⟩ := Text.Quoted.encode_cut h
  obtain ⟨rfl, rfl⟩ := ends named closes closes' (List.cons.inj rest).2
  rw [String.toList_inj.mp keys]
  exact ⟨rfl, rfl⟩

theorem field_opens (f : String × KeyTree) : ¬ Closes (fieldChars f) := by
  intro closes
  have quote := closes '"' rfl
  revert quote
  decide

mutual

theorem ends (t : KeyTree) (named : t.Named) : Ends chars Named t := by
  intro t' r r' named' closes closes' h
  have kinds := kind_eq h
  cases t with
  | null =>
    cases t' with
    | null => exact ⟨rfl, List.append_cancel_left h⟩
    | _ => cases kinds
  | bool b =>
    cases t' with
    | bool b' =>
      cases b <;> cases b' <;> first | exact ⟨rfl, List.append_cancel_left h⟩ | cases h
    | _ => cases kinds
  | number n =>
    cases t' with
    | number n' =>
      obtain ⟨rfl, rest⟩ := number_cut closes closes' h
      exact ⟨rfl, rest⟩
    | _ => cases kinds
  | string s =>
    cases t' with
    | string s' =>
      obtain ⟨same, rest⟩ := Text.Quoted.encode_cut h
      rw [String.toList_inj.mp same]
      exact ⟨rfl, rest⟩
    | _ => cases kinds
  | array items =>
    cases t' with
    | array items' =>
      simp only [chars, Text.Compact.array, itemsChars_eq, List.append_assoc, List.cons_append,
        List.nil_append, List.cons.injEq, true_and] at h
      obtain ⟨rfl, rest⟩ := Text.Compact.joined_cut (.inl rfl) opens (allEnd items named)
        (allNamed_iff.mp named') h
      exact ⟨rfl, rest⟩
    | _ => cases kinds
  | object fields =>
    cases t' with
    | object fields' =>
      simp only [chars, Text.Compact.object, fieldsChars_eq, List.append_assoc, List.cons_append,
        List.nil_append, List.cons.injEq, true_and] at h
      obtain ⟨rfl, rest⟩ := Text.Compact.joined_cut (.inr rfl) field_opens
        (fieldsEnd fields named) (fieldsNamed_iff.mp named') h
      exact ⟨rfl, rest⟩
    | _ => cases kinds
  | identity id =>
    cases t' with
    | identity id' =>
      simp only [chars, identityChars, List.append_assoc, List.cons_append, List.nil_append,
        List.cons.injEq, true_and] at h
      obtain ⟨same, rest⟩ := Text.first_cut named named' h
      rw [String.toList_inj.mp same]
      exact ⟨rfl, rest⟩
    | _ => cases kinds

theorem allEnd (ts : List KeyTree) (named : AllNamed ts) : ∀ t ∈ ts, Ends chars Named t := by
  cases ts with
  | nil => nofun
  | cons t ts => exact List.forall_mem_cons.mpr ⟨ends t named.1, allEnd ts named.2⟩

theorem fieldsEnd (fs : List (String × KeyTree)) (named : FieldsNamed fs) :
    ∀ f ∈ fs, Ends fieldChars (fun f => f.2.Named) f := by
  cases fs with
  | nil => nofun
  | cons f fs =>
    obtain ⟨key, t⟩ := f
    exact List.forall_mem_cons.mpr ⟨field_ends (ends t named.1), fieldsEnd fs named.2⟩

end

/-- The text of a tree determines the tree. -/
theorem chars_inj {t t' : KeyTree} (named : t.Named) (named' : t'.Named)
    (h : t.chars = t'.chars) : t = t' := by
  have closes : Closes [] := nofun
  have same : t.chars ++ [] = t'.chars ++ [] := by rw [h]
  exact (ends t named named' closes closes same).1

end KeyTree

end FieldPipeline
