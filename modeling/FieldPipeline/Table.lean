namespace FieldPipeline

/-- A finite map as a list of pairs, in the order in which its keys were first put. -/
abbrev Table (κ α : Type) := List (κ × α)

namespace Table

variable {κ α β : Type} [DecidableEq κ]

def get? (key : κ) : Table κ α → Option α
  | [] => none
  | (k, a) :: rest => if k = key then some a else get? key rest

def has (key : κ) (t : Table κ α) : Bool :=
  (get? key t).isSome

/-- A key that is there keeps its place and takes the new value. -/
def put (key : κ) (a : α) : Table κ α → Table κ α
  | [] => [(key, a)]
  | (k, b) :: rest => if k = key then (k, a) :: rest else (k, b) :: put key a rest

/-- Puts a value only under a new key. -/
def putNew (key : κ) (a : α) (t : Table κ α) : Table κ α :=
  if has key t then t else put key a t

def erase (key : κ) : Table κ α → Table κ α
  | [] => []
  | (k, a) :: rest => if k = key then erase key rest else (k, a) :: erase key rest

/-- Of several pairs with one key, the first gives the place and the last the value. -/
def ofPairs (pairs : List (κ × α)) : Table κ α :=
  pairs.foldl (fun t (k, a) => put k a t) []

def keys (t : Table κ α) : List κ :=
  t.map (·.1)

/-- Keys in increasing order of their characters. -/
def sorted (keys : List String) : List String :=
  keys.mergeSort fun a b => !(b < a)

@[simp] theorem get?_put (key k : κ) (a : α) (t : Table κ α) :
    get? k (put key a t) = if k = key then some a else get? k t := by
  induction t with
  | nil => simp [put, get?, eq_comm]
  | cons p rest ih =>
    obtain ⟨k', b⟩ := p
    by_cases h : k' = key <;> by_cases h' : k' = k <;> simp_all [put, get?, eq_comm]

@[simp] theorem get?_erase (key k : κ) (t : Table κ α) :
    get? k (erase key t) = if k = key then none else get? k t := by
  induction t with
  | nil => simp [erase, get?]
  | cons p rest ih =>
    obtain ⟨k', b⟩ := p
    by_cases h : k' = key <;> by_cases h' : k' = k <;> simp_all [erase, get?, eq_comm]

theorem put_map (f : α → β) (key : κ) (a : α) (t : Table κ α) :
    put key (f a) (t.map (Prod.map id f)) = (put key a t).map (Prod.map id f) := by
  induction t with
  | nil => rfl
  | cons p rest ih =>
    obtain ⟨k, b⟩ := p
    by_cases h : k = key <;> simp [put, h, ih]

theorem ofPairs_map (f : α → β) (pairs : List (κ × α)) :
    ofPairs (pairs.map (Prod.map id f)) = (ofPairs pairs).map (Prod.map id f) := by
  have from_ (t : Table κ α) (pairs : List (κ × α)) :
      (pairs.map (Prod.map id f)).foldl (fun t (k, a) => put k a t) (t.map (Prod.map id f)) =
        (pairs.foldl (fun t (k, a) => put k a t) t).map (Prod.map id f) := by
    induction pairs generalizing t with
    | nil => rfl
    | cons p rest ih =>
      obtain ⟨k, a⟩ := p
      rw [List.foldl_cons, ← ih, ← put_map]
      rfl
  exact from_ [] pairs

theorem mem_put {key : κ} {a : α} {t : Table κ α} {p : κ × α} (h : p ∈ put key a t) :
    p = (key, a) ∨ p ∈ t := by
  induction t with
  | nil => exact .inl (List.mem_singleton.mp h)
  | cons q rest ih =>
    obtain ⟨k, b⟩ := q
    rw [put] at h
    split at h
    · next same =>
      rw [same] at h
      exact (List.mem_cons.mp h).imp_right (List.mem_cons_of_mem _)
    · rcases List.mem_cons.mp h with rfl | h
      · exact .inr List.mem_cons_self
      · exact (ih h).imp_right (List.mem_cons_of_mem _)

theorem mem_ofPairs {pairs : List (κ × α)} {p : κ × α} (h : p ∈ ofPairs pairs) : p ∈ pairs := by
  have from_ (t : Table κ α) (pairs : List (κ × α))
      (h : p ∈ pairs.foldl (fun t (k, a) => put k a t) t) : p ∈ t ∨ p ∈ pairs := by
    induction pairs generalizing t with
    | nil => exact .inl h
    | cons q rest ih =>
      rcases ih _ h with h | h
      · rcases mem_put h with rfl | h
        · exact .inr List.mem_cons_self
        · exact .inl h
      · exact .inr (List.mem_cons_of_mem q h)
  exact (from_ [] pairs h).resolve_left List.not_mem_nil

theorem put_head (key : κ) (a : α) (t : Table κ α) :
    (put key a t).head?.map (·.1) = (t.head?.map (·.1)).or (some key) := by
  cases t with
  | nil => rfl
  | cons p rest =>
    obtain ⟨k, b⟩ := p
    by_cases h : k = key <;> simp [put, h]

/-- The first of the keys stays the first. -/
theorem ofPairs_head (pairs : List (κ × α)) :
    (ofPairs pairs).head?.map (·.1) = pairs.head?.map (·.1) := by
  have from_ (t : Table κ α) (pairs : List (κ × α)) :
      (pairs.foldl (fun t (k, a) => put k a t) t).head?.map (·.1) =
        (t.head?.map (·.1)).or (pairs.head?.map (·.1)) := by
    induction pairs generalizing t with
    | nil => simp
    | cons p rest ih =>
      rw [List.foldl_cons, ih, put_head]
      cases t.head?.map (·.1) <;> rfl
  exact from_ [] pairs

end Table

end FieldPipeline
