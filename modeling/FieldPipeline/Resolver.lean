import FieldPipeline.Registry
import FieldPipeline.Workspace

namespace FieldPipeline

/-- What resolves single declarations: the node types, the services for their dependencies, and the
last resort. -/
structure Resolver (ρ σ : Type) where
  registry : Option (Registry ρ σ) := none
  services : Option ServiceLocator := none
  fallback : Option (FallbackResolver ρ σ) := none

/-- What a declaration refers to, under the key of its cache entry. -/
inductive Resolution (ρ σ : Type) where
  | node (key : String) (backing : Instance ρ σ) (className : String)
  | method (key : String) (method : String) (arity : Arity) (className : String)
  | raw (key : String) (run : Value → List Arg → Scope ρ → Act σ Value) (className : String)
  | unresolved

namespace Resolver

variable {ρ σ : Type}

/-- Arguments that were not declared have a key of their own. -/
def constructorKey (args : Option (List Arg)) : String :=
  match args with
  | some args => Arg.key args
  | none => "-"

def typeKey (name : String) (args : Option (List Arg)) : String :=
  "type:" ++ name ++ "|" ++ constructorKey args

def methodKey (recordType method : String) : String :=
  "method:" ++ recordType ++ "::" ++ method

def fallbackKey (name : String) (args : Option (List Arg)) : String :=
  "fallback:" ++ name ++ "|" ++ constructorKey args

def instanceKey (name : String) (id : InstanceId) : String :=
  "instance:" ++ name ++ "@" ++ id.text

/-- Boots an instance unless it has been booted. After a failure the next caller tries again. Yields
whether it was booted now. -/
def ensureBooted (id : InstanceId) (boot : Act σ Unit) : Build ρ σ Bool := do
  if (← Build.cache).isBooted id then return false
  Build.ofAct boot
  Build.onCache fun c => ((), c.noteBooted id)
  return true

def boot (i : Instance ρ σ) (owner : ρ) : Build ρ σ Unit :=
  discard (ensureBooted i.id (i.node.boot owner))

/-- Caches an instance under a key, and boots the one that is there then. -/
def keep (key : String) (i : Instance ρ σ) (owner : ρ) : Build ρ σ (Instance ρ σ) := do
  let kept ← Build.onCache (·.keepInstance key i)
  boot kept owner
  return kept

/-- Fills the dependencies of a new node, in order. -/
def populate (r : Resolver ρ σ) (typeName : String) (node : Transformer ρ σ) :
    List DependencySlot → Build ρ σ Unit
  | [] => pure ()
  | slot :: rest =>
    match slot.service, r.services with
    | none, _ => Build.misconfigured (.untypedDependency slot.name typeName)
    | some _, none => Build.misconfigured (.noLocator slot.name typeName)
    | some service, some locate =>
      match locate service with
      | none => Build.misconfigured (.noService service slot.name typeName)
      | some s => do
        Build.ofAct (node.fill slot.name s)
        r.populate typeName node rest

/-- A new instance of a registered type, ready to be cached. -/
def instantiate (r : Resolver ρ σ) (registry : Registry ρ σ) (name : String)
    (args : Option (List Arg)) : Build ρ σ (Instance ρ σ) := do
  let node ← Build.ofAct (registry.instantiate name args)
  r.populate name node node.slots
  Build.onCache fun c => ((), c.countInstantiation)
  return ⟨.made (← Build.issue), node⟩

def findType (r : Resolver ρ σ) (name : String) (request : Request ρ σ) (owner : ρ) :
    Build ρ σ (Option (Resolution ρ σ)) :=
  match r.registry with
  | none => pure none
  | some registry =>
    match registry.info? name with
    | none => pure none
    | some info =>
      if !info.isNode then Build.misconfigured (.notANode name)
      else do
        let args := request.constructorArgs
        let key := typeKey name args
        match (← Build.cache).instance? key with
        | some i =>
          boot i owner
          return some (.node key i name)
        | none =>
          if args.isNone && info.requiresArguments then
            Build.misconfigured (.argumentsMissing name)
          else
            let i ← r.instantiate registry name args
            return some (.node key (← keep key i owner) name)

def findMethod [Record ρ σ] (name : String) (owner : ρ) : Option (Resolution ρ σ) :=
  let method := methodName name
  (Record.arity? owner method).map fun arity =>
    .method (methodKey (Record.typeName owner) method) method arity (Record.typeName owner)

def askFallback (r : Resolver ρ σ) (name : String) (request : Request ρ σ) (owner : ρ) :
    Build ρ σ (Option (Resolution ρ σ)) :=
  match r.fallback with
  | none => pure none
  | some resolve => do
    let key := fallbackKey name request.constructorArgs
    match ← Build.ofAct (liftM (resolve name request owner)) with
    | none => return none
    | some (.node t) =>
      let i := ⟨.made (← Build.issue), t⟩
      return some (.node key (← keep key i owner) name)
    | some (.kept label t) => return some (.node key (← keep key ⟨.given label, t⟩ owner) name)
    | some (.callable run) => return some (.raw key run name)

/-- Finds what a declaration refers to: among the node types first, then among the methods of the
record, and at last with the fallback resolver. A group refers to no single node. -/
def locate [Record ρ σ] (r : Resolver ρ σ) (declaration : Declaration ρ σ) (owner : ρ) :
    Build ρ σ (Resolution ρ σ) :=
  match declaration with
  | .failTo .. | .group _ => Build.misconfigured (.groupAsLeaf declaration.name)
  | .node request =>
    match request.identity with
    | .given label node => do
      let key := instanceKey node.name (.given label)
      let i ← keep key ⟨.given label, node⟩ owner
      return .node key i i.node.name
    | .named name => do
      if let some found ← r.findType name request owner then return found
      if let some found := findMethod name owner then return found
      if let some found ← r.askFallback name request owner then return found
      return .unresolved

/-- The step of a cache entry for one set of call arguments; a new one runs as the node `name`. -/
def step (key : String) (callArgs : List Arg) (name : String) (run : Callable ρ σ) :
    Build ρ σ (Compiled ρ σ) := do
  let argsKey := Arg.key callArgs
  match (← Build.cache).step? key argsKey with
  | some s => return s
  | none =>
    let number ← Build.issue
    Build.onCache (·.keepStep key argsKey ⟨number, run.asNode name⟩)

def callMethod [Record ρ σ] (method : String) (arity : Arity) (args : List Arg) :
    Callable ρ σ := fun v scope =>
  Record.callMethod scope.record method
    { value := v, args, context := if arity = .valueContext then some scope.context else none }

def unresolved [Record ρ σ] (r : Resolver ρ σ) (name : String) (owner : ρ) :
    Misconfiguration :=
  .unresolved name (Record.typeName owner) (methodName name) r.registry.isNone

/-- Makes a leaf of what a request refers to. -/
def leaf [Record ρ σ] (r : Resolver ρ σ) (found : Resolution ρ σ) (name : String)
    (args : List Arg) (owner : ρ) : Build ρ σ (Leaf ρ σ) :=
  match found with
  | .node key i className => do
    let s ← step key args className fun v scope => i.node.apply v args scope
    return { step := s, backing := some i, className }
  | .method key method arity className => do
    let s ← step key args (className ++ "::" ++ method) (callMethod method arity args)
    return { step := s, className, method := some method }
  | .raw key run className => do
    let s ← step key args className fun v scope => run v args scope
    return { step := s, className }
  | .unresolved => Build.misconfigured (r.unresolved name owner)

/-- The arguments that a declaration passes whenever it runs. -/
def callArgs : Declaration ρ σ → List Arg
  | .node request => request.callArgs
  | _ => []

def resolve [Record ρ σ] (r : Resolver ρ σ) (declaration : Declaration ρ σ) (owner : ρ) :
    Build ρ σ (Leaf ρ σ) := do
  let found ← r.locate declaration owner
  r.leaf found declaration.name (callArgs declaration) owner

end Resolver

end FieldPipeline
