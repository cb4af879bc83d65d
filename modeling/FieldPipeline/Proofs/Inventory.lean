import FieldPipeline.Proofs.Atomicity
import FieldPipeline.Proofs.Gathering
import FieldPipeline.Proofs.PipelineKey
import Mathlib.Data.Finset.Card

namespace FieldPipeline

namespace Table

variable {κ α : Type} [DecidableEq κ]

theorem mem_keys {key : κ} {t : Table κ α} : key ∈ keys t ↔ has key t = true := by
  induction t with
  | nil => simp [keys, has, get?]
  | cons p rest ih =>
    obtain ⟨k, a⟩ := p
    rw [has] at ih
    by_cases same : k = key
    · simp [keys, has, get?, same]
    · simp only [keys, List.map_cons, List.mem_cons, has, get?, if_neg same, ← ih]
      simp [Ne.symm same]

theorem nodup_put {t : Table κ α} (h : (keys t).Nodup) (key : κ) (a : α) :
    (keys (put key a t)).Nodup := by
  by_cases old : key ∈ keys t
  · rwa [keys_put_of_mem old]
  · have last : keys (put key a t) = (keys t).concat key := by
      rw [put_of_notMem old, keys_append, List.concat_eq_append]
      rfl
    rw [last]
    exact h.concat old

theorem nodup_putNew {t : Table κ α} (h : (keys t).Nodup) (key : κ) (a : α) :
    (keys (putNew key a t)).Nodup := by
  rw [putNew]
  split
  · exact h
  · exact nodup_put h key a

/-- Sorting forgets the order. -/
theorem sorted_congr {names others : List String} (h : names.Nodup) (h' : others.Nodup)
    (same : ∀ name, name ∈ names ↔ name ∈ others) : sorted names = sorted others := by
  have perm : (sorted names).Perm (sorted others) :=
    ((List.mergeSort_perm names _).trans ((List.perm_ext_iff_of_nodup h h').mpr same)).trans
      (List.mergeSort_perm others _).symm
  refine perm.eq_of_pairwise (fun a b _ _ below above => ?_) (Processor.sorted_pairwise names)
    (Processor.sorted_pairwise others)
  exact String.le_antisymm (String.not_lt.mp below) (String.not_lt.mp above)

end Table

variable {ρ σ : Type}

/-- The keys of the entries, those of the entries with an instance, and the steps by their two
keys. -/
structure Inventory where
  keys : Finset String := ∅
  backed : Finset String := ∅
  steps : Finset (String × String) := ∅

namespace Inventory

/-- Of the entries with an instance, those for a type. -/
def types (stock : Inventory) : Finset String :=
  stock.backed.filter fun key => key.toList.head? = some 't'

def withInstance (stock : Inventory) (key : String) : Inventory :=
  { stock with keys := insert key stock.keys, backed := insert key stock.backed }

def withStep (stock : Inventory) (key argsKey : String) : Inventory :=
  { stock with keys := insert key stock.keys, steps := insert (key, argsKey) stock.steps }

end Inventory

namespace Cache

/-- No key is stored twice. -/
structure Tidy (c : Cache ρ σ) : Prop where
  entries : (Table.keys c.entries).Nodup
  steps : ∀ key, (Table.keys (c.entry key).steps).Nodup

theorem Tidy.setEntry {c : Cache ρ σ} (h : c.Tidy) (key : String) {e : CacheEntry ρ σ}
    (steps : (Table.keys e.steps).Nodup) : (c.setEntry key e).Tidy where
  entries := Table.nodup_put h.entries key e
  steps k := by
    rw [entry_setEntry]
    split
    · exact steps
    · exact h.steps k

/-- The cache holds what is in stock, counts the instances of types and has booted all of them.
There are no pipelines in it. -/
structure Stocks (c : Cache ρ σ) (stock : Inventory) : Prop where
  tidy : c.Tidy
  keys : ∀ k, c.contains k = true ↔ k ∈ stock.keys
  backed : ∀ k, (∃ i, c.instance? k = some i) ↔ k ∈ stock.backed
  steps : ∀ k argsKey, (∃ s, c.step? k argsKey = some s) ↔ (k, argsKey) ∈ stock.steps
  pipelines : c.pipelines = []
  booted : c.booted.length = stock.backed.card
  instantiations : c.instantiations = stock.types.card

variable {c c' : Cache ρ σ} {stock : Inventory}

theorem stocks_empty : ({} : Cache ρ σ).Stocks {} where
  tidy := ⟨List.nodup_nil, fun _ => List.nodup_nil⟩
  keys k := by simp [contains, Table.has, Table.get?]
  backed k := by simp [instance?, entry, Table.get?]
  steps k argsKey := by simp [step?, entry, Table.get?]
  pipelines := rfl
  booted := rfl
  instantiations := rfl

/-- Caches that hold the same are listed the same. -/
theorem Stocks.listing_eq (h : c.Stocks stock) (h' : c'.Stocks stock) : c.listing = c'.listing := by
  have keys : Table.sorted (Table.keys c.entries) = Table.sorted (Table.keys c'.entries) := by
    apply Table.sorted_congr h.tidy.entries h'.tidy.entries
    intro k
    rw [Table.mem_keys, Table.mem_keys]
    exact (h.keys k).trans (h'.keys k).symm
  have backed (k : String) : (c.instance? k).isSome = (c'.instance? k).isSome := by
    rw [Bool.eq_iff_iff, Option.isSome_iff_exists, Option.isSome_iff_exists]
    exact (h.backed k).trans (h'.backed k).symm
  have steps (k : String) : Table.sorted (Table.keys (c.entry k).steps) =
      Table.sorted (Table.keys (c'.entry k).steps) := by
    apply Table.sorted_congr (h.tidy.steps k) (h'.tidy.steps k)
    intro argsKey
    rw [Table.mem_keys, Table.mem_keys, Table.has, Table.has, Option.isSome_iff_exists,
      Option.isSome_iff_exists]
    exact (h.steps k argsKey).trans (h'.steps k argsKey).symm
  simp only [listing, keys, backed, steps, h.pipelines, h'.pipelines, h.booted, h'.booted,
    h.instantiations, h'.instantiations]

/-- One step more. -/
theorem Stocks.keepStep (h : c.Stocks stock) (key argsKey : String) (s : Compiled ρ σ) :
    (c.keepStep key argsKey s).2.Stocks (stock.withStep key argsKey) where
  tidy := h.tidy.setEntry key (Table.nodup_putNew (h.tidy.steps key) argsKey s)
  keys k := by
    rw [Cache.keepStep, contains_setEntry]
    simp [Inventory.withStep, h.keys]
  backed k := by
    rw [instance?_keepStep]
    exact h.backed k
  steps k args := by
    rw [step?_keepStep]
    split
    · next own => simp [Inventory.withStep, own]
    · next other =>
      rw [h.steps]
      simp [Inventory.withStep, other]
  pipelines := h.pipelines
  booted := h.booted
  instantiations := h.instantiations

/-- A step that is there already is in stock. -/
theorem Stocks.withStep (h : c.Stocks stock) {key argsKey : String} {s : Compiled ρ σ}
    (there : c.step? key argsKey = some s) : stock.withStep key argsKey = stock := by
  have listed : (key, argsKey) ∈ stock.steps := (h.steps key argsKey).mp ⟨s, there⟩
  have present : key ∈ stock.keys := by
    apply (h.keys key).mp
    cases e : c.contains key with
    | true => rfl
    | false => cases (step?_absent e argsKey).symm.trans there
  rw [Inventory.withStep, Finset.insert_eq_of_mem present, Finset.insert_eq_of_mem listed]

theorem Stocks.withInstance (h : c.Stocks stock) {key : String} {i : Instance ρ σ}
    (there : c.instance? key = some i) : stock.withInstance key = stock := by
  have listed : key ∈ stock.backed := (h.backed key).mp ⟨i, there⟩
  have present : key ∈ stock.keys := (h.keys key).mp (contains_of_instance? there)
  rw [Inventory.withInstance, Finset.insert_eq_of_mem present, Finset.insert_eq_of_mem listed]

/-- One instance more, which has been booted, and counted if it is of a type. -/
theorem Stocks.keepInstance (h : c.Stocks stock) {key : String} {i : Instance ρ σ} {n : Nat}
    (absent : c.instance? key = none)
    (counted : n = c.instantiations + if key.toList.head? = some 't' then 1 else 0) :
    ({ (c.keepInstance key i).2.noteBooted i.id with instantiations := n } : Cache ρ σ).Stocks
      (stock.withInstance key) := by
  have new : key ∉ stock.backed := by
    intro listed
    obtain ⟨j, there⟩ := (h.backed key).mpr listed
    cases absent.symm.trans there
  have tidy : (c.keepInstance key i).2.Tidy := h.tidy.setEntry key (h.tidy.steps key)
  refine ⟨⟨tidy.entries, tidy.steps⟩, ?_, ?_, ?_, h.pipelines, ?_, ?_⟩
  · intro k
    change (c.setEntry key _).contains k = true ↔ _
    rw [contains_setEntry]
    simp [Inventory.withInstance, h.keys]
  · intro k
    change (∃ j, (c.keepInstance key i).2.instance? k = some j) ↔ _
    rw [instance?_keepInstance]
    split
    · next own => simp [Inventory.withInstance, own]
    · next other =>
      rw [h.backed]
      simp [Inventory.withInstance, other]
  · intro k argsKey
    change (∃ s, (c.keepInstance key i).2.step? k argsKey = some s) ↔ _
    rw [step?_keepInstance]
    exact h.steps k argsKey
  · change c.booted.length + 1 = _
    rw [h.booted, Inventory.withInstance, Finset.card_insert_of_notMem new]
  · change n = ((insert key stock.backed).filter _).card
    rw [counted, h.instantiations, Inventory.types, Finset.filter_insert]
    split
    · rw [Finset.card_insert_of_notMem fun listed => new (Finset.mem_of_mem_filter key listed)]
    · rfl

end Cache

end FieldPipeline
