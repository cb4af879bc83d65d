import FieldPipeline.Node

namespace FieldPipeline

/-- The entry of one configuration of a node: at most one instance, and its steps. -/
structure CacheEntry (ρ σ : Type) where
  backing : Option (Instance ρ σ) := none
  /-- Compiled steps by the key of their call arguments. -/
  steps : Table String (Compiled ρ σ) := []

/-- What has been resolved and compiled. Whatever is stored first under a key stays. -/
structure Cache (ρ σ : Type) where
  entries : Table String (CacheEntry ρ σ) := []
  pipelines : Table String (Compiled ρ σ) := []
  /-- The instances whose boot has completed. -/
  booted : List InstanceId := []
  /-- How many instances were constructed since the cache was last cleared. -/
  instantiations : Nat := 0

namespace Cache

variable {ρ σ : Type}

/-- The entry of a key; one that is not there is empty. -/
def entry (c : Cache ρ σ) (key : String) : CacheEntry ρ σ :=
  (Table.get? key c.entries).getD {}

def setEntry (c : Cache ρ σ) (key : String) (e : CacheEntry ρ σ) : Cache ρ σ :=
  { c with entries := Table.put key e c.entries }

def instance? (c : Cache ρ σ) (key : String) : Option (Instance ρ σ) :=
  (c.entry key).backing

/-- Stores an instance unless there is one, and yields the one that is there then. -/
def keepInstance (c : Cache ρ σ) (key : String) (i : Instance ρ σ) : Instance ρ σ × Cache ρ σ :=
  let e := c.entry key
  let kept := e.backing.getD i
  (kept, c.setEntry key { e with backing := some kept })

/-- Makes sure that there is an entry, as for an instance that is about to be stored. -/
def reserve (c : Cache ρ σ) (key : String) : Cache ρ σ :=
  c.setEntry key (c.entry key)

def step? (c : Cache ρ σ) (key argsKey : String) : Option (Compiled ρ σ) :=
  Table.get? argsKey (c.entry key).steps

/-- Stores a step unless there is one, and yields the one that is there then. -/
def keepStep (c : Cache ρ σ) (key argsKey : String) (s : Compiled ρ σ) :
    Compiled ρ σ × Cache ρ σ :=
  let e := c.entry key
  ((Table.get? argsKey e.steps).getD s,
    c.setEntry key { e with steps := Table.putNew argsKey s e.steps })

def pipeline? (c : Cache ρ σ) (key : String) : Option (Compiled ρ σ) :=
  Table.get? key c.pipelines

/-- Stores a pipeline unless there is one, and yields the one that is there then. -/
def keepPipeline (c : Cache ρ σ) (key : String) (s : Compiled ρ σ) :
    Compiled ρ σ × Cache ρ σ :=
  ((c.pipeline? key).getD s, { c with pipelines := Table.putNew key s c.pipelines })

def isBooted (c : Cache ρ σ) (id : InstanceId) : Bool :=
  id ∈ c.booted

def noteBooted (c : Cache ρ σ) (id : InstanceId) : Cache ρ σ :=
  { c with booted := id :: c.booted }

def forgetBooted (c : Cache ρ σ) (id : InstanceId) : Cache ρ σ :=
  { c with booted := c.booted.filter (· ≠ id) }

def countInstantiation (c : Cache ρ σ) : Cache ρ σ :=
  { c with instantiations := c.instantiations + 1 }

def size (c : Cache ρ σ) : Nat :=
  c.entries.length

def isEmpty (c : Cache ρ σ) : Bool :=
  c.entries.isEmpty

def contains (c : Cache ρ σ) (key : String) : Bool :=
  Table.has key c.entries

/-- Drops everything. -/
def clear (_ : Cache ρ σ) : Cache ρ σ :=
  {}

/-- Drops one entry and the boot mark of its instance. Pipelines may have been built from it, so all
of them are dropped too. Yields whether there was such an entry. -/
def drop (c : Cache ρ σ) (key : String) : Bool × Cache ρ σ :=
  if c.contains key then
    let c' :=
      match c.instance? key with
      | some i => c.forgetBooted i.id
      | none => c
    (true, { c' with entries := Table.erase key c'.entries, pipelines := [] })
  else (false, c)

end Cache

/-- What a cache holds, in order of the keys. -/
structure CacheListing where
  /-- Key, whether there is an instance, and the keys of the compiled steps. -/
  entries : List (String × Bool × List String)
  pipelines : List String
  booted : Nat
  instantiations : Nat
deriving DecidableEq, Repr

def Cache.listing {ρ σ : Type} (c : Cache ρ σ) : CacheListing where
  entries := (Table.sorted (Table.keys c.entries)).map fun key =>
    (key, (c.instance? key).isSome, Table.sorted (Table.keys (c.entry key).steps))
  pipelines := Table.sorted (Table.keys c.pipelines)
  booted := c.booted.length
  instantiations := c.instantiations

end FieldPipeline
