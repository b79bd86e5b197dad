import ClusterTuning.Templating.Check
import ClusterTuning.Templating.Memory

/-!
# ClusterTuning.Templating.Evaluate

**The value of an expression.**

Names are looked up in the frames of a scope, from the innermost to the outermost, and then among
the functions. A name that nothing has is undefined, which is an error only where its value is
needed: where it is given out, compared, visited or tested for truth, and where a part of it is
asked for.

The body of a recursive loop may run the loop again, on other items. How this is done is a parameter
of the evaluation: running a loop needs the evaluation of its body, and the parameter bounds how
often they can call each other.
-/

namespace ClusterTuning.Templating

open Evaluating

/-- A loop that is running. -/
structure Round where
  /-- What the name `loop` stands for. While the items are still being chosen it has no meaning of
  its own. -/
  state : Option Datum
  /-- The number of recursive loops around this one. -/
  depth : Nat
  /-- What the loop does for an item, if it may be run again by its body. -/
  again : Option (Target × List Statement)
deriving Inhabited

/-- What names stand for in a part of a template. -/
structure Frame where
  /-- The names that have been assigned to. The latest come first. -/
  names : List (String × Datum) := []
  /-- The loop whose body the part is. -/
  round : Option Round := none
deriving Inhabited

/-- What names stand for: frames from the innermost to the outermost. -/
abbrev Scope := List Frame

/-- What a name stands for in a frame. -/
def Frame.find? (name : String) (frame : Frame) : Option Datum :=
  match frame.names.lookup name with
  | some d => some d
  | none => if name = "loop" then frame.round.bind Round.state else none

namespace Scope

/-- What a name stands for. -/
def find? (name : String) (scope : Scope) : Option Datum :=
  match scope.findSome? (Frame.find? name) with
  | some d => some d
  | none => if functionNames.contains name then some (.function name) else none

/-- Let a name stand for a value in the innermost frame. -/
def assign (name : String) (d : Datum) : Scope → Scope
  | [] => [{ names := [(name, d)] }]
  | frame :: outer => { frame with names := (name, d) :: frame.names } :: outer

/-- The innermost loop. -/
def round? (scope : Scope) : Option Round :=
  scope.findSome? Frame.round

/-- The number of recursive loops around a loop that starts in this scope. -/
def depth (scope : Scope) : Nat :=
  match scope.round? with
  | some round => if round.again.isSome then round.depth + 1 else 0
  | none => 0

end Scope

/-- How the innermost loop is run on other items: the text that its body gives out for them. -/
abbrev RunAgain := Scope → Target → List Statement → Datum → Evaluating (List Char)

/-- Does the value count as true? An undefined one does neither. -/
def truth (d : Datum) : Except Fault Bool := do
  Datum.needed d
  return d.isTrue

/-- A part of a value that may not be there. Of what is undefined there are no parts. -/
def partOf (whole : Datum) (found : Option Datum) : Evaluating Datum :=
  match found with
  | some d => current d
  | none => if whole.isUndefined then throw .undefinedValue else return .undefined false

/-- The next of the values that a loop takes in turn. -/
def cycle (members : List (Datum × Datum)) (args : List Datum) : Datum :=
  match Datum.numberAt? "index0" members, args with
  | some n, d :: rest => (d :: rest).getD (n.toNat % (rest.length + 1)) d
  | _, _ => .undefined false

/-- The result of a call of a value. Only functions can be called. -/
def callValue (of : Datum) (passed : Passed) : Evaluating Datum :=
  match of with
  | .function name => making (callFunction name passed)
  | .dict _ .loop _ => throw .unknownFunction
  | _ => throw .invalidOperation

/-- The result of a method. Loops have methods of their own; for other values it is a call of what
is stored under the name. -/
def callMethod (of : Datum) (name : String) (passed : Passed) : Evaluating Datum := do
  match of with
  | .dict members .loop (some label) =>
    if name = "cycle" then return cycle members passed.all
    else if name = "changed" then return .bool (← changed label passed.all)
    else throw .unknownMethod
  | .dict entries .. =>
    match Datum.lookup (.plain name.toList) entries with
    | some d => callValue d passed
    | none => throw .unknownMethod
  | _ => throw .unknownMethod

/-- The constant of a literal. -/
def Literal.toDatum : Literal → Datum
  | .none => .none
  | .bool b => .bool b
  | .int n => .int n
  | .float x => .float x
  | .text s => .plain s

/-- The result of a call by name. The name `loop` runs the innermost loop again on its argument. -/
def callName (again : RunAgain) (scope : Scope) (name : String) (passed : Passed) :
    Evaluating Datum := do
  if name = "super" then throw .invalidOperation
  else if name = "loop" then
    match passed.all with
    | [d] =>
      match scope.round? with
      | none => throw .unknownFunction
      | some round =>
        match round.again with
        | none => throw .invalidOperation
        | some (target, body) => return .plain (← again scope target body d)
    | _ => throw .invalidOperation
  else
    match scope.find? name with
    | none | some (.undefined _) => throw .unknownFunction
    | some d => callValue d passed

/-- Add entries to the arguments by name. They have to come from a dictionary. -/
def addKeywords (before : List (Datum × Datum)) (d : Datum) :
    Except Fault (List (Datum × Datum)) := do
  Datum.needed d
  match d with
  | .dict entries .. =>
    return entries.foldl (fun before entry => Datum.putEntry entry.1 entry.2 before) before
  | _ => throw .invalidOperation

mutual

/-- The value of an expression. -/
def evaluate (again : RunAgain) (scope : Scope) : Expr → Evaluating Datum
  | .literal value => return value.toDatum
  | .silence => return .undefined true
  | .name name => current ((scope.find? name).getD (.undefined false))
  | .list items => do
    let made ← evaluateAll again scope items
    labelling (Datum.ofList made).labelled
  | .dict entries => do
    let made ← evaluateEntries again scope entries []
    labelling (Datum.ofEntries made).labelled
  | .negate e => do (← evaluate again scope e).negate
  | .not e => return .bool (!(← truth (← evaluate again scope e)))
  | .and a b => do
    let d ← evaluate again scope a
    if ← truth d then evaluate again scope b else return d
  | .or a b => do
    let d ← evaluate again scope a
    if ← truth d then return d else evaluate again scope b
  | .binary operation a b => do
    let x ← evaluate again scope a
    let y ← evaluate again scope b
    making (Datum.operate operation x y)
  | .compare first rest => do
    let d ← evaluate again scope first
    return .bool (← evaluateChain again scope d rest)
  | .choose test yes no => do
    if ← truth (← evaluate again scope test) then evaluate again scope yes
    else evaluate again scope no
  | .member e name => do
    let d ← evaluate again scope e
    partOf d (d.member? name)
  | .item e key => do
    let d ← evaluate again scope e
    let k ← evaluate again scope key
    partOf d (d.item? k)
  | .slice e start stop step => do
    let d ← evaluate again scope e
    let start ← evaluate again scope start
    let stop ← evaluate again scope stop
    let step ← evaluate again scope step
    making (d.slice start stop step)
  | .call function args => do
    let positional ← evaluatePositional again scope args
    let keywords ← evaluateKeywords again scope args none
    callName again scope function ⟨positional, keywords⟩
  | .method e name args => do
    let d ← evaluate again scope e
    let positional ← evaluatePositional again scope args
    let keywords ← evaluateKeywords again scope args none
    callMethod d name ⟨positional, keywords⟩
  | .apply e args => do
    let d ← evaluate again scope e
    let positional ← evaluatePositional again scope args
    let keywords ← evaluateKeywords again scope args none
    callValue d ⟨positional, keywords⟩
  | .filter e name args => do
    let d ← evaluate again scope e
    let positional ← evaluatePositional again scope args
    let keywords ← evaluateKeywords again scope args none
    making (callFilter name ⟨d :: positional, keywords⟩)
  | .test e name args => do
    let d ← evaluate again scope e
    let positional ← evaluatePositional again scope args
    let keywords ← evaluateKeywords again scope args none
    return .bool (← callTest name ⟨d :: positional, keywords⟩)

/-- The values of expressions in order. -/
def evaluateAll (again : RunAgain) (scope : Scope) : List Expr → Evaluating (List Datum)
  | [] => return []
  | e :: rest => do
    let d ← evaluate again scope e
    return d :: (← evaluateAll again scope rest)

/-- Store the values of entries, in the order in which they are written. -/
def evaluateEntries (again : RunAgain) (scope : Scope) :
    List (Expr × Expr) → List (Datum × Datum) → Evaluating (List (Datum × Datum))
  | [], before => return before
  | (key, value) :: rest, before => do
    let k ← evaluate again scope key
    let v ← evaluate again scope value
    evaluateEntries again scope rest (Datum.putEntry k v before)

/-- Do the comparisons hold, each with the value before it? What follows the first one that does not
is not looked at. -/
def evaluateChain (again : RunAgain) (scope : Scope) :
    Datum → List (Comparison × Expr) → Evaluating Bool
  | _, [] => return true
  | left, (comparison, e) :: rest => do
    let right ← evaluate again scope e
    if ← Datum.answer comparison left right then evaluateChain again scope right rest
    else return false

/-- The values of the arguments by position. -/
def evaluatePositional (again : RunAgain) (scope : Scope) :
    List (Argument Expr) → Evaluating (List Datum)
  | [] => return []
  | .one e :: rest => do
    let d ← evaluate again scope e
    return d :: (← evaluatePositional again scope rest)
  | .each e :: rest => do
    let d ← evaluate again scope e
    match d.items? with
    | some items => return items ++ (← evaluatePositional again scope rest)
    | none => throw .invalidOperation
  | .named .. :: rest | .entries _ :: rest => evaluatePositional again scope rest

/-- The values of the arguments by name. There are none where the call writes none. -/
def evaluateKeywords (again : RunAgain) (scope : Scope) :
    List (Argument Expr) → Option (List (Datum × Datum)) →
      Evaluating (Option (List (Datum × Datum)))
  | [], before => return before
  | .one _ :: rest, before | .each _ :: rest, before => evaluateKeywords again scope rest before
  | .named name e :: rest, before => do
    let d ← evaluate again scope e
    let more := Datum.putEntry (.plain name.toList) d (before.getD [])
    evaluateKeywords again scope rest (some more)
  | .entries e :: rest, before => do
    let d ← evaluate again scope e
    let more ← addKeywords (before.getD []) d
    evaluateKeywords again scope rest (some more)

end

end ClusterTuning.Templating
