import FieldPipeline.Proofs.KeyText
import FieldPipeline.Resolver

namespace FieldPipeline

namespace Text

/-- Where a reader of a key is. A reader that takes a bar of the name for the end of the name has
the inside of quotes for the outside up to the end, so it does not pass the rest of the key. -/
inductive Reading where
  | outside
  | inside
  /-- Inside quotes, behind a backslash. -/
  | escaped
deriving DecidableEq

namespace Reading

/-- Outside quotes there is neither a backslash nor a bar. -/
def next : Reading → Char → Option Reading
  | outside, c =>
    if c = '"' then some inside else if c = '\\' ∨ c = '|' then none else some outside
  | inside, c => if c = '"' then some outside else if c = '\\' then some escaped else some inside
  | escaped, _ => some inside

def through (m : Reading) (cs : List Char) : Option Reading :=
  cs.foldlM next m

@[simp] theorem through_append (m : Reading) (a b : List Char) :
    m.through (a ++ b) = (m.through a).bind (·.through b) :=
  List.foldlM_append

@[simp] theorem through_cons (m : Reading) (c : Char) (cs : List Char) :
    m.through (c :: cs) = (m.next c).bind (·.through cs) :=
  List.foldlM_cons

/-- Two readers of which one is inside quotes if and only if the other is not. -/
def Opposed : Reading → Reading → Prop
  | outside, inside | inside, outside => True
  | _, _ => False

theorem Opposed.symm {m m' : Reading} (h : m.Opposed m') : m'.Opposed m := by
  cases m <;> cases m' <;> exact h

theorem opposed_next {c : Char} {n n' : Reading} (first : outside.next c = some n)
    (second : inside.next c = some n') : n.Opposed n' := by
  rw [next] at first
  rw [next] at second
  by_cases quote : c = '"'
  · rw [if_pos quote] at first second
    cases first
    cases second
    trivial
  · rw [if_neg quote] at first second
    -- A backslash is read inside quotes only.
    by_cases slash : c = '\\'
    · rw [if_pos (.inl slash)] at first
      cases first
    · rw [if_neg slash] at second
      cases second
      split at first <;> cases first
      trivial

/-- Readers that disagree about quotes do so for as long as both can go on. -/
theorem Opposed.through {m m' n n' : Reading} {cs : List Char} (h : m.Opposed m')
    (first : m.through cs = some n) (second : m'.through cs = some n') : n.Opposed n' := by
  induction cs generalizing m m' with
  | nil =>
    cases first
    cases second
    exact h
  | cons c cs ih =>
    rw [through_cons] at first second
    obtain ⟨t, step, first⟩ := Option.bind_eq_some_iff.mp first
    obtain ⟨t', step', second⟩ := Option.bind_eq_some_iff.mp second
    refine ih ?_ first second
    cases m with
    | outside =>
      cases m' with
      | inside => exact opposed_next step step'
      | _ => exact h.elim
    | inside =>
      cases m' with
      | outside => exact (opposed_next step' step).symm
      | _ => exact h.elim
    | escaped => exact h.elim

end Reading

/-- A text that a reader can pass outside quotes. -/
def Passes (cs : List Char) : Prop :=
  Reading.outside.through cs = some .outside

theorem Passes.append {a b : List Char} (ha : Passes a) (hb : Passes b) : Passes (a ++ b) := by
  rw [Passes, Reading.through_append, ha]
  exact hb

/-- No bar outside the quotes of a text is followed by a text that a reader can pass. -/
theorem Passes.no_bar {a b : List Char} (h : Passes (a ++ '|' :: b)) : ¬ Passes b := by
  intro passes
  rw [Passes, Reading.through_append] at h
  obtain ⟨m, -, rest⟩ := Option.bind_eq_some_iff.mp h
  rw [Reading.through_cons] at rest
  obtain ⟨n, bar, rest⟩ := Option.bind_eq_some_iff.mp rest
  -- The reader is inside quotes behind the bar, and so outside at the end only if the other is not.
  have inside : n = .inside := by
    cases m <;> cases bar
    · rfl
    · rfl
  subst inside
  exact (show Reading.Opposed .outside .inside from trivial).through passes rest

/-- A bar before a text that a reader can pass is found again. -/
theorem bar_cut {a a' b b' : List Char} (hb : Passes b) (hb' : Passes b')
    (h : a ++ '|' :: b = a' ++ '|' :: b') : a = a' ∧ b = b' := by
  have none_between {a b b' e : List Char} (hb : Passes b) (hb' : Passes b')
      (h : '|' :: b = e ++ '|' :: b') : e = [] := by
    cases e with
    | nil => rfl
    | cons c e =>
      obtain ⟨-, rfl⟩ := List.cons.inj h
      exact absurd hb' hb.no_bar
  rcases List.append_eq_append_iff.mp h with ⟨e, rfl, rest⟩ | ⟨e, rfl, rest⟩
  · obtain rfl := none_between (a := a) hb hb' rest
    exact ⟨(List.append_nil a).symm, (List.cons.inj rest).2⟩
  · obtain rfl := none_between (a := a') hb' hb rest
    exact ⟨List.append_nil a', (List.cons.inj rest).2.symm⟩

theorem passes_of_forall {cs : List Char} (h : ∀ c ∈ cs, c ≠ '"' ∧ c ≠ '\\' ∧ c ≠ '|') :
    Passes cs := by
  induction cs with
  | nil => rfl
  | cons c cs ih =>
    obtain ⟨⟨quote, slash, bar⟩, rest⟩ := List.forall_mem_cons.mp h
    have step : Reading.outside.next c = some .outside := by
      rw [Reading.next, if_neg quote, if_neg (not_or.mpr ⟨slash, bar⟩)]
    rw [Passes, Reading.through_cons, step]
    exact ih rest

theorem inside_hexFour {n : Nat} (h : n < 0x20) :
    Reading.inside.through (hexFour n) = some .inside := by
  revert n
  decide

theorem inside_escape (c : Char) : Reading.inside.through (Quoted.escape c) = some .inside := by
  unfold Quoted.escape
  split; · rfl
  split; · rfl
  split; · rfl
  split; · rfl
  split; · rfl
  split; · rfl
  split; · rfl
  split
  · next control => exact inside_hexFour control
  · next quote slash _ _ _ _ _ _ =>
    rw [Reading.through_cons, Reading.next, if_neg quote, if_neg slash]
    rfl

theorem passes_encode (cs : List Char) : Passes (Quoted.encode cs) := by
  have inner : Reading.inside.through (cs.flatMap Quoted.escape) = some .inside := by
    induction cs with
    | nil => rfl
    | cons c cs ih =>
      rw [List.flatMap_cons, Reading.through_append, inside_escape]
      exact ih
  rw [Passes, Quoted.encode, List.cons_append, Reading.through_cons, Reading.next, if_pos rfl,
    Option.bind_some, Reading.through_append, inner]
  rfl

theorem passes_joined {parts : List (List Char)} (h : ∀ part ∈ parts, Passes part) :
    Passes (Compact.joined parts) := by
  cases parts with
  | nil => rfl
  | cons part rest =>
    obtain ⟨first, others⟩ := List.forall_mem_cons.mp h
    have behind : Passes (rest.flatMap (',' :: ·)) := by
      clear h
      induction rest with
      | nil => rfl
      | cons next rest ih =>
        obtain ⟨next, others⟩ := List.forall_mem_cons.mp others
        have comma : Passes [','] := rfl
        exact (comma.append next).append (ih others)
    rw [Compact.joined_cons]
    exact first.append behind

end Text

namespace KeyTree

open Text (Passes)

mutual

/-- No identity in the tree contains a quote, a backslash or a bar, as addresses do not. -/
def Addressed : KeyTree → Prop
  | array items => AllAddressed items
  | object fields => FieldsAddressed fields
  | identity id => ∀ c ∈ id.toList, c ≠ '"' ∧ c ≠ '\\' ∧ c ≠ '|'
  | _ => True

def AllAddressed : List KeyTree → Prop
  | [] => True
  | t :: rest => t.Addressed ∧ AllAddressed rest

def FieldsAddressed : List (String × KeyTree) → Prop
  | [] => True
  | (_, t) :: rest => t.Addressed ∧ FieldsAddressed rest

end

theorem passes_number (n : Number) : Passes n.chars := by
  refine Text.passes_of_forall fun c hc => ?_
  have numeric : Token.Scan.isNumeric c = true := by
    rw [n.chars_eq_numeral] at hc
    exact Numeral.mem_chars n.numeral_proper c hc
  refine ⟨?_, ?_, ?_⟩ <;> rintro rfl <;> cases numeric

mutual

/-- The text of a tree is one that a reader can pass. -/
theorem passes_chars (t : KeyTree) (addressed : t.Addressed) : Passes t.chars := by
  cases t with
  | null => rfl
  | bool b => cases b <;> rfl
  | number n => exact passes_number n
  | string s => exact Text.passes_encode s.toList
  | array items =>
    have opening : Passes ['['] := rfl
    have closing : Passes [']'] := rfl
    exact (opening.append (Text.passes_joined (passes_items items addressed))).append closing
  | object fields =>
    have opening : Passes ['\x7b'] := rfl
    have closing : Passes ['\x7d'] := rfl
    exact (opening.append (Text.passes_joined (passes_fields fields addressed))).append closing
  | identity id =>
    have opening : Passes ['<', 'o', 'b', 'j', ':'] := rfl
    have closing : Passes ['>'] := rfl
    exact (opening.append (Text.passes_of_forall addressed)).append closing

theorem passes_items (ts : List KeyTree) (addressed : AllAddressed ts) :
    ∀ part ∈ itemsChars ts, Passes part := by
  cases ts with
  | nil => nofun
  | cons t rest =>
    rw [itemsChars, List.forall_mem_cons]
    exact ⟨passes_chars t addressed.1, passes_items rest addressed.2⟩

theorem passes_fields (fs : List (String × KeyTree)) (addressed : FieldsAddressed fs) :
    ∀ part ∈ fieldsChars fs, Passes part := by
  cases fs with
  | nil => nofun
  | cons f rest =>
    obtain ⟨key, t⟩ := f
    have colon : Passes [':'] := rfl
    have named := (Text.passes_encode key.toList).append colon
    rw [fieldsChars, List.forall_mem_cons]
    refine ⟨?_, passes_fields rest addressed.2⟩
    have part := named.append (passes_chars t addressed.1)
    rwa [List.append_assoc] at part

end

end KeyTree

/-- What the key of an entry begins with. -/
inductive EntryKind where
  | type
  | fallback
  | ready
  | method

def EntryKind.letter : EntryKind → Char
  | type => 't'
  | fallback => 'f'
  | ready => 'i'
  | method => 'm'

theorem EntryKind.letter_injective : Function.Injective letter := by
  intro kind kind' same
  cases kind <;> cases kind' <;> first | rfl | simp [letter] at same

namespace Resolver

/-- What the cache has entries for. -/
inductive Entry where
  | type (name : String) (args : Option (List Arg))
  | fallback (name : String) (args : Option (List Arg))
  | ready (name : String) (id : InstanceId)
  | method (recordType name : String)

def Entry.kind : Entry → EntryKind
  | type .. => .type
  | fallback .. => .fallback
  | ready .. => .ready
  | method .. => .method

def Entry.key : Entry → String
  | type name args => typeKey name args
  | fallback name args => fallbackKey name args
  | ready name id => instanceKey name id
  | method recordType name => methodKey recordType name

theorem Entry.key_head (e : Entry) : e.key.toList.head? = some e.kind.letter := by
  cases e <;> simp [key, typeKey, fallbackKey, instanceKey, methodKey, kind, EntryKind.letter]

/-- Identities of objects in arguments stand for addresses. -/
def Addressed (args : Option (List Arg)) : Prop :=
  ∀ as, args = some as → KeyTree.AllAddressed (Arg.keyTrees as)

theorem passes_constructorKey {args : Option (List Arg)} (addressed : Addressed args) :
    Text.Passes (constructorKey args).toList := by
  cases args with
  | none => rfl
  | some as =>
    change Text.Passes (String.ofList (KeyTree.array (Arg.keyTrees as)).chars).toList
    rw [String.toList_ofList]
    exact (KeyTree.array (Arg.keyTrees as)).passes_chars (addressed as rfl)

/-- Arguments that were not declared differ from all that were, also from none. -/
theorem constructorKey_none (as : List Arg) : constructorKey none ≠ constructorKey (some as) := by
  intro same
  have heads := congrArg (·.toList.head?) same
  change some '-' = (String.ofList (KeyTree.array (Arg.keyTrees as)).chars).toList.head? at heads
  rw [String.toList_ofList] at heads
  cases heads

/-- The bar in a key tells the name and the arguments apart. -/
theorem bar_eq_iff (kind : String) {name name' : String} {args args' : Option (List Arg)}
    (addressed : Addressed args) (addressed' : Addressed args') :
    kind ++ name ++ "|" ++ constructorKey args = kind ++ name' ++ "|" ++ constructorKey args' ↔
      name = name' ∧ constructorKey args = constructorKey args' := by
  have parts (name : String) (args : Option (List Arg)) :
      (kind ++ name ++ "|" ++ constructorKey args).toList =
        kind.toList ++ (name.toList ++ '|' :: (constructorKey args).toList) := by
    simp only [String.toList_append, List.append_assoc]
    rfl
  constructor
  · intro same
    have texts := congrArg String.toList same
    rw [parts, parts] at texts
    obtain ⟨names, keys⟩ := Text.bar_cut (passes_constructorKey addressed)
      (passes_constructorKey addressed') (List.append_cancel_left texts)
    exact ⟨String.toList_inj.mp names, String.toList_inj.mp keys⟩
  · rintro ⟨names, keys⟩
    rw [names, keys]

/-- The key of a type tells its name and its arguments apart. -/
theorem typeKey_eq_iff {name name' : String} {args args' : Option (List Arg)}
    (addressed : Addressed args) (addressed' : Addressed args') :
    typeKey name args = typeKey name' args' ↔
      name = name' ∧ constructorKey args = constructorKey args' :=
  bar_eq_iff "type:" addressed addressed'

theorem fallbackKey_eq_iff {name name' : String} {args args' : Option (List Arg)}
    (addressed : Addressed args) (addressed' : Addressed args') :
    fallbackKey name args = fallbackKey name' args' ↔
      name = name' ∧ constructorKey args = constructorKey args' :=
  bar_eq_iff "fallback:" addressed addressed'

/-- A key tells what kind of entry it is for. -/
theorem Entry.key_ne {e e' : Entry} (apart : e.kind ≠ e'.kind) : e.key ≠ e'.key := by
  intro same
  have letters := e'.key_head
  rw [← same, e.key_head] at letters
  exact apart (EntryKind.letter_injective (Option.some.inj letters))

theorem typeKey_ne_fallbackKey (name name' : String) (args args' : Option (List Arg)) :
    typeKey name args ≠ fallbackKey name' args' :=
  Entry.key_ne (show (Entry.type name args).kind ≠ (Entry.fallback name' args').kind from nofun)

theorem typeKey_ne_instanceKey (name name' : String) (args : Option (List Arg))
    (id : InstanceId) : typeKey name args ≠ instanceKey name' id :=
  Entry.key_ne (show (Entry.type name args).kind ≠ (Entry.ready name' id).kind from nofun)

theorem instanceKey_ne_fallbackKey (name name' : String) (id : InstanceId)
    (args : Option (List Arg)) : instanceKey name id ≠ fallbackKey name' args :=
  Entry.key_ne (show (Entry.ready name id).kind ≠ (Entry.fallback name' args).kind from nofun)

/-- The key of a method tells its path, and nothing about where the record type ends in it. -/
theorem methodKey_eq_iff {recordType recordType' method method' : String} :
    methodKey recordType method = methodKey recordType' method' ↔
      recordType ++ "::" ++ method = recordType' ++ "::" ++ method' := by
  simp only [methodKey, String.append_assoc, String.append_right_inj]

/-- The key of a ready-made instance tells its label, since labels stand for addresses. -/
theorem instanceKey_inj {name name' label label' : String} (plain : '@' ∉ label.toList)
    (plain' : '@' ∉ label'.toList)
    (same : instanceKey name (.given label) = instanceKey name' (.given label')) :
    label = label' := by
  have parts (name label : String) : (instanceKey name (.given label)).toList =
      "instance:".toList ++
        (name.toList ++ '@' :: ("<inst:".toList ++ (label.toList ++ ['>']))) := by
    simp only [instanceKey, InstanceId.text, String.toList_append, List.append_assoc]
    rfl
  have unmarked {label : String} (plain : '@' ∉ label.toList) :
      '@' ∉ "<inst:".toList ++ (label.toList ++ ['>']) := by
    simp [plain]
  have texts := congrArg String.toList same
  rw [parts, parts] at texts
  obtain ⟨-, ids⟩ :=
    Text.last_cut (unmarked plain) (unmarked plain') (List.append_cancel_left texts)
  exact String.toList_inj.mp (List.append_cancel_right (List.append_cancel_left ids))

/-- Keys of types and of answers of the last resort tell the name and the arguments, and no key is
of two kinds. -/
theorem entryKeys_apart (name name' : String) {args args' : Option (List Arg)}
    (addressed : Addressed args) (addressed' : Addressed args') :
    (typeKey name args = typeKey name' args' ↔
      name = name' ∧ constructorKey args = constructorKey args') ∧
    (fallbackKey name args = fallbackKey name' args' ↔
      name = name' ∧ constructorKey args = constructorKey args') ∧
    ∀ e e' : Entry, e.kind ≠ e'.kind → e.key ≠ e'.key :=
  ⟨typeKey_eq_iff addressed addressed', fallbackKey_eq_iff addressed addressed',
    fun _ _ => Entry.key_ne⟩

/-- One text begins with the other: its bar is inside quotes in one and part of the name in the
other. -/
theorem entryKeys_apart_quoted :
    typeKey "A|[\"" none ≠ typeKey "A" (some [.string "|-"]) ∧
      fallbackKey "A|[\"" none ≠ fallbackKey "A" (some [.string "|-"]) ∧
      typeKey "A|[\"" none ≠ methodKey "A|[\"" "|-" := by
  have plain : Addressed none := nofun
  have quoted : Addressed (some [.string "|-"]) := by
    rintro as ⟨⟩
    exact ⟨trivial, trivial⟩
  have names : "A|[\"" ≠ "A" := by decide
  obtain ⟨types, fallbacks, kinds⟩ := entryKeys_apart "A|[\"" "A" plain quoted
  exact ⟨fun same => names (types.mp same).1, fun same => names (fallbacks.mp same).1,
    kinds (.type "A|[\"" none) (.method "A|[\"" "|-") nofun⟩

end Resolver

end FieldPipeline
