import FieldPipeline.Rejection

namespace FieldPipeline

/-- Why a node type could not be constructed. -/
inductive Cause where
  | text (message : String)
  /-- A pattern that does not read or is too large. -/
  | pattern
deriving DecidableEq, Repr

/-- Why declarations cannot be made into a pipeline. -/
inductive Misconfiguration where
  | unresolved (node recordType method : String) (noFactory : Bool)
  | notANode (typeName : String)
  | unregistered (typeName : String)
  | argumentsMissing (typeName : String)
  | construction (typeName : String) (cause : Cause)
  | untypedDependency (slot typeName : String)
  | noLocator (slot typeName : String)
  | noService (service slot typeName : String)
  | groupAsLeaf (group : String)
  /-- A group found fewer siblings than it takes. -/
  | shortage (label : String) (expected taken : Nat) (found : List String)
  | nothingToRecover
  | handlerMissing (label recordType method : String)
  | methodMissing (recordType method : String)
  | unknownErrorMode (text : String)
  /-- Raised by a node or a record of the application. -/
  | custom (message : String)
deriving DecidableEq, Repr

namespace Misconfiguration

def message : Misconfiguration → String
  | unresolved node recordType method noFactory =>
    "cannot resolve node `" ++ node ++ "`: not a known node type, record `" ++ recordType ++
    "` has no method `" ++ method ++ "`, and no fallback matched" ++
    (if noFactory then " (no node factory configured)" else "")
  | notANode typeName => "type `" ++ typeName ++ "` does not implement the transform capability"
  | unregistered typeName => "node type `" ++ typeName ++ "` is not registered"
  | argumentsMissing typeName =>
    "node type `" ++ typeName ++ "` requires constructor arguments but none were declared"
  | construction typeName _ => "failed to construct node type `" ++ typeName ++ "`"
  | untypedDependency slot typeName =>
    "cannot determine the service type of dependency `" ++ slot ++ "` on node type `" ++
    typeName ++ "`"
  | noLocator slot typeName =>
    "node type `" ++ typeName ++ "` declares dependency `" ++ slot ++
    "` but no service locator is configured"
  | noService service slot typeName =>
    "no service `" ++ service ++ "` available for dependency `" ++ slot ++ "` of node type `" ++
    typeName ++ "`"
  | groupAsLeaf group => "modifier `" ++ group ++ "` cannot be resolved as a leaf node"
  | shortage label expected taken found =>
    "`" ++ label ++ "` expects " ++ toString expected ++ " declarations but found " ++
    toString taken ++ ": [" ++ String.intercalate ", " found ++ "]"
  | nothingToRecover => "`FailTo` has no preceding node to recover"
  | handlerMissing label recordType method =>
    "`" ++ label ++ "` handler: record `" ++ recordType ++ "` has no method `" ++ method ++ "`"
  | methodMissing recordType method =>
    "record `" ++ recordType ++ "` has no method `" ++ method ++ "`"
  | unknownErrorMode text => "unknown error mode `" ++ text ++ "`"
  | custom message => message

def cause? : Misconfiguration → Option Cause
  | construction _ cause => some cause
  | _ => none

end Misconfiguration

/-- Everything that can go wrong. -/
inductive Fault where
  /-- Always reaches the caller. -/
  | configuration (m : Misconfiguration)
  | rejected (r : Rejection)
  /-- A text of the data format that does not read. -/
  | unreadable (message : String)
  | internal (message : String)
deriving Repr

namespace Fault

def message : Fault → String
  | configuration m => "Configuration error: " ++ m.message
  | rejected r => r.message
  | unreadable message => "JSON error: " ++ message
  | internal message => "Internal error: " ++ message

def isConfiguration : Fault → Bool
  | configuration _ => true
  | _ => false

end Fault

end FieldPipeline
