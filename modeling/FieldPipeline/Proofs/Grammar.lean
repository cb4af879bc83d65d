import FieldPipeline.Declaration

namespace FieldPipeline

/-- A tree of the grammar of declarations: a leaf, a group with a sequence of its own, or either of
them with protections behind it. -/
inductive Item (ρ σ : Type) where
  | leaf (request : Request ρ σ)
  | group (g : Grouping ρ σ) (body : List (Item ρ σ))
  /-- An item with a protection behind it, which takes no slot. -/
  | guarded (item : Item ρ σ) (fallback : Arg) (handler : Option (Handler ρ σ))

namespace Item

variable {ρ σ : Type}

mutual

/-- The declarations of an item in order: a group before its body, a protection behind what it
protects. -/
def declarations : Item ρ σ → List (Declaration ρ σ)
  | leaf request => [.node request]
  | group g body => .group g :: flatten body
  | guarded item fallback handler => item.declarations ++ [.failTo fallback handler]

def flatten : List (Item ρ σ) → List (Declaration ρ σ)
  | [] => []
  | item :: rest => item.declarations ++ flatten rest

end

def isGuarded : Item ρ σ → Bool
  | guarded .. => true
  | _ => false

/-- Where a sequence ends. One with a count has that many items and ends with the last of them, so
that a protection behind it belongs outside; one without runs to the end of the whole list. `final`
says whether that is where the sequence ends. -/
def Closes (take : Take) (final : Bool) (items : List (Item ρ σ)) : Prop :=
  match take with
  | .all => final = true
  | .exactly n => items.length = n ∧ ∀ item ∈ items.getLast?, item.isGuarded = false

mutual

/-- Every group in the item has the sequence it asks for. `final` says whether the whole list ends
behind the item. -/
def Fits (final : Bool) : Item ρ σ → Prop
  | leaf _ => True
  | group g body => Closes g.take final body ∧ AllFit final body
  | guarded item _ _ => item.Fits false

def AllFit (final : Bool) : List (Item ρ σ) → Prop
  | [] => True
  | item :: rest => item.Fits (final && rest.isEmpty) ∧ AllFit final rest

end

/-- The items are a derivation of the whole list. -/
def Derives (items : List (Item ρ σ)) (ds : List (Declaration ρ σ)) : Prop :=
  flatten items = ds ∧ AllFit true items

@[simp] theorem flatten_append (items more : List (Item ρ σ)) :
    flatten (items ++ more) = flatten items ++ flatten more := by
  induction items with
  | nil => rfl
  | cons item rest ih => rw [List.cons_append, flatten, flatten, ih, List.append_assoc]

@[simp] theorem flatten_snoc (items : List (Item ρ σ)) (item : Item ρ σ) :
    flatten (items ++ [item]) = flatten items ++ item.declarations := by
  simp [flatten]

theorem declarations_ne_nil (item : Item ρ σ) : item.declarations ≠ [] := by
  cases item <;> simp [declarations]

@[simp] theorem allFit_snoc {final : Bool} {items : List (Item ρ σ)} {item : Item ρ σ} :
    AllFit final (items ++ [item]) ↔ AllFit false items ∧ item.Fits final := by
  induction items with
  | nil => simp [AllFit]
  | cons first rest ih =>
    have followed : (rest ++ [item]).isEmpty = false := by cases rest <;> rfl
    simp [AllFit, ih, followed, and_assoc]

/-- Reading `declarations` after `taken` slots, with the items so far in reverse, ends with other
items in reverse and reads `used` declarations. -/
inductive Reads : Take → Nat → List (Item ρ σ) → List (Declaration ρ σ) → List (Item ρ σ) →
    Nat → Prop
  | full (n : Nat) (done : List (Item ρ σ)) (declarations : List (Declaration ρ σ)) :
      Reads (.exactly n) n done declarations done 0
  | atEnd (taken : Nat) (done : List (Item ρ σ)) : Reads .all taken done [] done 0
  | node {take : Take} {taken used : Nat} {done done' : List (Item ρ σ)} {request : Request ρ σ}
      {rest : List (Declaration ρ σ)} (open_ : take ≠ .exactly taken)
      (after : Reads take (taken + 1) (leaf request :: done) rest done' used) :
      Reads take taken done (.node request :: rest) done' (1 + used)
  | failTo {take : Take} {taken used : Nat} {last : Item ρ σ} {before done' : List (Item ρ σ)}
      {fallback : Arg} {handler : Option (Handler ρ σ)} {rest : List (Declaration ρ σ)}
      (open_ : take ≠ .exactly taken)
      (after : Reads take taken (guarded last fallback handler :: before) rest done' used) :
      Reads take taken (last :: before) (.failTo fallback handler :: rest) done' (1 + used)
  | group {take : Take} {taken used more : Nat} {done done' body : List (Item ρ σ)}
      {g : Grouping ρ σ} {rest : List (Declaration ρ σ)} (open_ : take ≠ .exactly taken)
      (inner : Reads g.take 0 [] rest body used)
      (after : Reads take (taken + 1) (group g body.reverse :: done) (rest.drop used) done' more) :
      Reads take taken done (.group g :: rest) done' (1 + used + more)

theorem Reads.unique {take : Take} {taken used used' : Nat} {done items items' : List (Item ρ σ)}
    {ds : List (Declaration ρ σ)} (h : Reads take taken done ds items used)
    (h' : Reads take taken done ds items' used') : items = items' ∧ used = used' := by
  induction h generalizing items' used' with
  | full n done ds =>
    cases h' with
    | full => exact ⟨rfl, rfl⟩
    | node open_ | failTo open_ | group open_ => exact absurd rfl open_
  | atEnd taken done =>
    cases h'
    exact ⟨rfl, rfl⟩
  | node open_ after ih =>
    cases h' with
    | full => exact absurd rfl open_
    | node open' after' =>
      obtain ⟨rfl, rfl⟩ := ih after'
      exact ⟨rfl, rfl⟩
  | failTo open_ after ih =>
    cases h' with
    | full => exact absurd rfl open_
    | failTo open' after' =>
      obtain ⟨rfl, rfl⟩ := ih after'
      exact ⟨rfl, rfl⟩
  | group open_ inner after ihi iha =>
    cases h' with
    | full => exact absurd rfl open_
    | group open' inner' after' =>
      obtain ⟨rfl, rfl⟩ := ihi inner'
      obtain ⟨rfl, rfl⟩ := iha after'
      exact ⟨rfl, rfl⟩

/-- Reading yields items that fit. Those so far must fit as well, and the last of them may be
guarded only while another slot is open. -/
theorem Reads.fits {take : Take} {taken used : Nat} {done done' : List (Item ρ σ)}
    {ds : List (Declaration ρ σ)} (h : Reads take taken done ds done' used)
    (slots : done.length = taken) (fit : AllFit ds.isEmpty done.reverse)
    (unguarded : ∀ item ∈ done.head?, item.isGuarded = true → take ≠ .exactly taken) :
    flatten done'.reverse = flatten done.reverse ++ ds.take used ∧
      AllFit (ds.drop used).isEmpty done'.reverse ∧
      Closes take (ds.drop used).isEmpty done'.reverse := by
  induction h with
  | full n done ds =>
    refine ⟨by simp, by simpa using fit, by simpa using slots, fun item hi => ?_⟩
    rw [List.getLast?_reverse] at hi
    cases guarded : item.isGuarded with
    | false => rfl
    | true => exact absurd rfl (unguarded item hi guarded)
  | atEnd taken done => exact ⟨by simp, fit, rfl⟩
  | @node _ _ used done _ request rest open_ after ih =>
    have before : AllFit false done.reverse := fit
    obtain ⟨text, fits, closes⟩ := ih (by simp [slots])
      (by rw [List.reverse_cons, allFit_snoc]; exact ⟨before, trivial⟩) (by simp [isGuarded])
    rw [List.reverse_cons, flatten_snoc] at text
    rw [Nat.add_comm 1 used]
    exact ⟨by simpa [declarations] using text, fits, closes⟩
  | @failTo _ _ used last before _ fallback handler rest open_ after ih =>
    have whole : AllFit false (last :: before).reverse := fit
    rw [List.reverse_cons, allFit_snoc] at whole
    obtain ⟨text, fits, closes⟩ := ih (by simpa using slots)
      (by rw [List.reverse_cons, allFit_snoc]; exact ⟨whole.1, whole.2⟩) (fun _ _ _ => open_)
    rw [List.reverse_cons, flatten_snoc] at text
    rw [Nat.add_comm 1 used, List.reverse_cons, flatten_snoc]
    exact ⟨by simpa [declarations] using text, fits, closes⟩
  | @group _ _ used more done _ body g rest open_ inner after ihi iha =>
    have before : AllFit false done.reverse := fit
    obtain ⟨inside, fits, closes⟩ := ihi rfl trivial (by simp)
    obtain ⟨text, fits, closes⟩ := iha (by simp [slots])
      (by rw [List.reverse_cons, allFit_snoc]; exact ⟨before, closes, fits⟩) (by simp [isGuarded])
    rw [List.reverse_cons, flatten_snoc, declarations, inside] at text
    rw [List.drop_drop] at fits closes
    have ends : (Declaration.group g :: rest).drop (1 + used + more) =
        rest.drop (used + more) := by
      rw [Nat.add_assoc, Nat.add_comm 1, List.drop_succ_cons]
    rw [ends]
    refine ⟨?_, fits, closes⟩
    rw [text, Nat.add_assoc, Nat.add_comm 1, List.take_succ_cons, List.take_add]
    simp [flatten]

mutual

/-- An item that fits is read wherever a slot is open for it, and for its protections. -/
theorem reads_item {item : Item ρ σ} {take : Take} {taken more : Nat}
    {done done' : List (Item ρ σ)} {rest : List (Declaration ρ σ)}
    (fit : item.Fits rest.isEmpty) (open_ : take ≠ .exactly taken)
    (room : item.isGuarded = true → take ≠ .exactly (taken + 1))
    (after : Reads take (taken + 1) (item :: done) rest done' more) :
    Reads take taken done (item.declarations ++ rest) done' (item.declarations.length + more) := by
  cases item with
  | leaf request => exact .node open_ after
  | guarded inner fallback handler =>
    have fit' : inner.Fits (Declaration.failTo fallback handler :: rest).isEmpty := fit
    have wider := room rfl
    have chain := reads_item fit' open_ (fun _ => wider) (.failTo wider after)
    rw [declarations, List.append_assoc, List.length_append, Nat.add_assoc]
    exact chain
  | group g body =>
    obtain ⟨closes, fits⟩ := fit
    have inner : Reads g.take 0 [] (flatten body ++ rest) body.reverse (flatten body).length := by
      rw [← List.append_nil body.reverse]
      refine reads_items fits (fun h => ?_) fun n h => ?_
      · rw [h] at closes
        exact List.isEmpty_iff.mp closes
      · rw [h] at closes
        exact ⟨by rw [Nat.zero_add, closes.1], closes.2⟩
    have behind : (flatten body ++ rest).drop (flatten body).length = rest := List.drop_left
    rw [declarations, List.length_cons, Nat.add_comm _ 1]
    refine .group open_ inner ?_
    rw [List.reverse_reverse]
    exact behind.symm ▸ after

/-- Items that fit and fill the open slots are read one after another. -/
theorem reads_items {items : List (Item ρ σ)} {take : Take} {taken : Nat}
    {done : List (Item ρ σ)} {rest : List (Declaration ρ σ)} (fit : AllFit rest.isEmpty items)
    (whole : take = .all → rest = [])
    (counted : ∀ n, take = .exactly n →
      taken + items.length = n ∧ ∀ item ∈ items.getLast?, item.isGuarded = false) :
    Reads take taken done (flatten items ++ rest) (items.reverse ++ done)
      (flatten items).length := by
  cases items with
  | nil =>
    cases take with
    | all =>
      obtain rfl := whole rfl
      exact .atEnd taken done
    | exactly n =>
      obtain ⟨rfl, -⟩ := counted n rfl
      exact .full _ _ _
  | cons item more =>
    obtain ⟨first, others⟩ := fit
    have final : (rest.isEmpty && more.isEmpty) = (flatten more ++ rest).isEmpty := by
      cases more with
      | nil => simp [flatten]
      | cons next more => simp [flatten, declarations_ne_nil]
    rw [final] at first
    have tail : Reads take (taken + 1) (item :: done) (flatten more ++ rest)
        (more.reverse ++ item :: done) (flatten more).length := by
      refine reads_items others whole fun n e => ?_
      obtain ⟨count, last⟩ := counted n e
      refine ⟨by simpa [Nat.add_comm, Nat.add_left_comm] using count, fun i hi => last i ?_⟩
      cases more with
      | nil => cases hi
      | cons next more => exact hi
    rw [flatten, List.append_assoc, List.length_append, List.reverse_cons, List.append_assoc]
    refine reads_item first ?_ (fun guarded => ?_) tail
    · rintro rfl
      have count := (counted taken rfl).1
      simp at count
    -- The last item of a counted sequence is not guarded, so a guarded one has a successor.
    · rintro rfl
      obtain ⟨count, last⟩ := counted _ rfl
      cases more with
      | nil => simp [last item rfl] at guarded
      | cons next more => simp at count

end

theorem Reads.used_le {take : Take} {taken used : Nat} {done items : List (Item ρ σ)}
    {ds : List (Declaration ρ σ)} (h : Reads take taken done ds items used) :
    used ≤ ds.length := by
  induction h with
  | full | atEnd => exact Nat.zero_le _
  | node open_ after ih | failTo open_ after ih =>
    simp only [List.length_cons]
    omega
  | group open_ inner after ihi iha =>
    rw [List.length_drop] at iha
    simp only [List.length_cons]
    omega

/-- Reading a whole list finds its derivation, if there is one. -/
theorem reads_all_iff {ds : List (Declaration ρ σ)} {done : List (Item ρ σ)} {used : Nat} :
    Reads .all 0 [] ds done used ↔ Derives done.reverse ds ∧ used = ds.length := by
  constructor
  · intro h
    obtain ⟨text, fits, closes⟩ := h.fits rfl trivial (by simp)
    have ended : ds.drop used = [] := List.isEmpty_iff.mp closes
    have length : used = ds.length :=
      Nat.le_antisymm h.used_le (List.drop_eq_nil_iff.mp ended)
    rw [ended] at fits
    rw [length, List.take_length] at text
    exact ⟨⟨text, fits⟩, length⟩
  · rintro ⟨⟨rfl, fits⟩, rfl⟩
    have walk : Reads .all 0 [] (flatten done.reverse ++ []) (done.reverse.reverse ++ [])
        (flatten done.reverse).length :=
      reads_items fits (fun _ => rfl) (fun n e => nomatch e)
    simpa using walk

/-- A list has at most one derivation. -/
theorem Derives.unique {items items' : List (Item ρ σ)} {ds : List (Declaration ρ σ)}
    (h : Derives items ds) (h' : Derives items' ds) : items = items' := by
  have reads : ∀ {items : List (Item ρ σ)}, Derives items ds →
      Reads .all 0 [] ds items.reverse ds.length := by
    intro items h
    rw [← List.reverse_reverse items] at h
    exact reads_all_iff.mpr ⟨h, rfl⟩
  exact List.reverse_inj.mp ((reads h).unique (reads h')).1

end Item

end FieldPipeline
