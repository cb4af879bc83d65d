import FieldPipeline.Cache

namespace FieldPipeline

/-- The state in which pipelines are built: the cache, the state of running nodes, and a supply of
numbers for new instances and callables. -/
structure Workspace (ρ σ : Type) where
  cache : Cache ρ σ := {}
  run : RunState σ
  issued : Nat := 0

/-- A build changes the workspace even when it fails. -/
abbrev Build (ρ σ : Type) := ExceptT Fault (StateM (Workspace ρ σ))

namespace Build

variable {ρ σ α : Type}

def ofAct (body : Act σ α) : Build ρ σ α := fun w =>
  let (result, run) := body w.run
  (result, { w with run })

/-- Looks into the cache. -/
def cache : Build ρ σ (Cache ρ σ) :=
  fun w => (.ok w.cache, w)

@[simp] theorem cache_run (w : Workspace ρ σ) : cache w = (.ok w.cache, w) := rfl

/-- Changes the cache. -/
def onCache (change : Cache ρ σ → α × Cache ρ σ) : Build ρ σ α := fun w =>
  let (a, cache) := change w.cache
  (.ok a, { w with cache })

/-- A number that was not used before. -/
def issue : Build ρ σ Nat :=
  fun w => (.ok w.issued, { w with issued := w.issued + 1 })

@[simp] theorem issue_run (w : Workspace ρ σ) :
    issue w = (.ok w.issued, { w with issued := w.issued + 1 }) := rfl

def misconfigured (m : Misconfiguration) : Build ρ σ α :=
  throw (.configuration m)

end Build

end FieldPipeline
