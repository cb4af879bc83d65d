import FieldPipeline.Scripted.Form
import FieldPipeline.Standard

namespace FieldPipeline.Scripted

abbrev ScriptedNode := Transformer Form Desk

abbrev ScriptedConstructor := Constructor Form Desk

/-- Follows the behaviour in the first argument. -/
def doNode : ScriptedNode where
  name := "Do"
  apply v args scope :=
    match args with
    | script :: args => (Behaviour.ofValue script.toValue).run (surroundings scope args) v
    | [] => pure v

def noteBoot (name : String) (owner : Form) : StateM (RunState Desk) Unit :=
  note [.string "boot", .string name, .string owner.typeName]

def noteConstruct (name : String) (more : List Value) : StateM (RunState Desk) Unit :=
  note (.string "construct" :: .string name :: more)

/-- Appends the first argument. -/
def suffixNode : ScriptedNode where
  name := "Suffix"
  apply v args _ :=
    pure (.string (stringOrEmpty v ++ (Standard.firstString? args).getD ""))
  boot owner := noteBoot "Suffix" owner

/-- A number for a node that remembers something. -/
def newNode : StateM (RunState Desk) Nat :=
  modifyGet fun s => (s.app.nodes, { s with app := { s.app with nodes := s.app.nodes + 1 } })

/-- The number of calls of a node, this one included. -/
def countCall (node : Nat) : StateM (RunState Desk) Nat :=
  modifyGet fun s =>
    let n := (Table.get? node s.app.calls).getD 0 + 1
    (n, { s with app := { s.app with calls := Table.put node n s.app.calls } })

/-- Counts its calls. -/
def counterNode (node : Nat) (constructed : List Arg) : ScriptedNode where
  name := "Counter"
  apply v args _ := do
    let n ← countCall node
    return .object
      [("value", v), ("n", .ofNat n), ("constructed", .array (constructed.map Arg.toValue)),
        ("args", .array (args.map Arg.toValue))]

/-- Passes integers within bounds. -/
def betweenNode (least most : Int) : ScriptedNode where
  name := "Between"
  apply v _ _ :=
    let rejected : Rejection :=
      ({ template := "between", debug := some v } : Rejection)
        |>.addParam "min" (.number (.int least))
        |>.addParam "max" (.number (.int most))
    match v with
    | .number (.int n) =>
      if Arg.fitsInt n ∧ least ≤ n ∧ n ≤ most then pure v else throw (.rejected rejected)
    | _ => throw (.rejected rejected)

/-- Remembers which service was put into a slot. -/
def noteFilled (node : Nat) (slot service : String) : StateM (RunState Desk) Unit :=
  modify fun s =>
    let before := (Table.get? node s.app.filled).getD []
    { s with app :=
      { s.app with filled := Table.put node (before ++ [slot ++ "=" ++ service]) s.app.filled } }

/-- Yields the services it was supplied with. -/
def greeterNode (node : Nat) (slots : List DependencySlot) : ScriptedNode where
  name := "Greeter"
  apply v _ _ := do
    let filled := (Table.get? node (← get).app.filled).getD []
    return .object [("value", v), ("filled", .array (filled.map .string))]
  slots
  fill slot service :=
    if slot = "reject" then
      throw (.configuration (.custom ("slot `" ++ slot ++ "` refused")))
    else do
      let text :=
        match service with
        | .text s => s
        | .object => ""
      note [.string "fill", .string slot, .string text]
      noteFilled node slot text
  boot owner := noteBoot "Greeter" owner

/-- Refuses to boot for some record types. -/
def pickyNode : ScriptedNode where
  name := "PickyBoot"
  apply v _ _ := pure v
  boot owner := do
    noteBoot "PickyBoot" owner
    if owner.typeName = "Broken" then
      throw (.configuration (.custom "cannot boot for Broken"))
    else if owner.typeName = "Sick" then
      throw (.rejected { template := "boot.sick" })

/-- Yields the object it holds. -/
def holderNode (text : String) : ScriptedNode where
  name := "HolderNode"
  apply _ _ _ := pure (.string text)

def constructSuffix : ScriptedConstructor := fun _ => do
  noteConstruct "Suffix" []
  return suffixNode

def constructCounter : ScriptedConstructor := fun args => do
  noteConstruct "Counter" [.ofNat args.length]
  return counterNode (← newNode) args

def constructBetween : ScriptedConstructor := fun args =>
  match args with
  | [least, most] =>
    match least.int?, most.int? with
    | some least, some most => pure (betweenNode least most)
    | _, _ => throw (.text "bounds must be integers")
  | args => throw (.text ("expected 2 arguments, got " ++ toString args.length))

/-- A pair of a slot's name and its service, which may be null. -/
def slotOf? : Arg → Option DependencySlot
  | .list [.string name, .string service] => some ⟨name, some service⟩
  | .list [.string name, .null] => some ⟨name, none⟩
  | _ => none

def constructGreeter : ScriptedConstructor := fun args => do
  noteConstruct "Greeter" [.ofNat args.length]
  match args.mapM slotOf? with
  | some [] => return greeterNode (← newNode) [⟨"greeting", some "Greeting"⟩]
  | some slots => return greeterNode (← newNode) slots
  | none => throw (.text "bad slot")

def constructPicky : ScriptedConstructor := fun _ => do
  noteConstruct "PickyBoot" []
  return pickyNode

def constructHolder : ScriptedConstructor := fun args =>
  match args with
  | .object _ identity :: _ => pure (holderNode identity)
  | _ => throw (.text "expected an object argument")

/-- The standard nodes and the scripted ones. -/
def registry : Registry Form Desk :=
  Standard.registry
    |>.add "Do" (Standard.constant doNode)
    |>.add "Suffix" constructSuffix
    |>.add "Counter" constructCounter
    |>.addWithArgs "Between" constructBetween
    |>.add "Greeter" constructGreeter
    |>.add "PickyBoot" constructPicky
    |>.addWithArgs "Holder" constructHolder
    |>.addForeign "Money"

/-- A behaviour that is called with the arguments of a declaration. -/
def scriptedFallback (b : Behaviour) : Fallback Form Desk :=
  .callable fun v args scope => b.run (surroundings scope args) v

/-- Notes every question; answers some names with a behaviour and some with a new node. -/
def fallback : FallbackResolver Form Desk := fun name request owner => do
  note [.string "fallback", .string name, .string owner.typeName]
  match name with
  | "Shout" => return some (scriptedFallback (.append "!!"))
  | "Peek" => return some (scriptedFallback .probe)
  | "Grumble" => return some (scriptedFallback (.raise { template := "grumble" }))
  | "IfBuilt" =>
    return if request.constructorArgs.isSome then some (scriptedFallback .args) else none
  | "Exclaim" => return some (.node suffixNode)
  | "Tally" => return some (.node (counterNode (← newNode) []))
  | "Picky" => return some (.node pickyNode)
  | _ => return none

/-- A ready-made node of one of some types, which is not logged. The text is a pattern for one type
and an object for another. -/
def readyMade (type text : String) : StateM (RunState Desk) ScriptedNode := do
  match type with
  | "Trim" => return Standard.trim
  | "Split" => return Standard.split
  | "ToFloat" => return Standard.toFloat
  | "Uppercase" => return Standard.uppercase
  | "NotBlank" => return Standard.notBlank
  | "Matches" =>
    match Standard.matchesPattern text with
    | .ok node => return node
    | .error _ => return suffixNode
  | "Counter" => return counterNode (← newNode) []
  | "PickyBoot" => return pickyNode
  | "Holder" => return holderNode text
  | "Do" => return doNode
  | _ => return suffixNode

end FieldPipeline.Scripted
