import ClusterTuning.Templating.Arithmetic

/-!
# ClusterTuning.Templating.Call

**The arguments of filters, tests and functions, and the functions.**

Arguments are taken one after the other. One that is missing, does not have the form asked for, or
is left over is a fault, in this order.
-/

namespace ClusterTuning.Templating

/-- The arguments of a call, with their values. -/
structure Passed where
  /-- Arguments by position. -/
  positional : List Datum
  /-- Arguments by name, where the call gives any or could have given some. -/
  keywords : Option (List (Datum × Datum)) := none

/-- The arguments of a call that takes none by name. Those that are given by name stand together as
one more value at the end. -/
def Passed.all (p : Passed) : List Datum :=
  match p.keywords with
  | none => p.positional
  | some entries => p.positional ++ [.ofEntries entries]

/-- An argument that is given by name. What is undefined or nothing counts as none. -/
def Passed.named (p : Passed) (name : String) : Option Datum :=
  match Datum.lookup (.plain name.toList) (p.keywords.getD []) with
  | some d => if d.isUndefined || d.rank == Datum.none.rank then none else some d
  | none => none

/-- Refuse arguments by other names than the known ones. -/
def Passed.onlyNamed (p : Passed) (known : List String) : Except Fault Unit :=
  (p.keywords.getD []).forM fun entry =>
    match entry.1 with
    | .text s _ =>
      if known.contains (String.ofList s) then .ok () else .error .tooManyArguments
    | _ => .error .invalidOperation

/-- A computation that takes arguments from the front of a list. -/
abbrev Taking (α : Type) := StateT (List Datum) (Except Fault) α

namespace Taking

/-- Take an argument as it is. -/
def value : Taking Datum := do
  match ← get with
  | [] => throw .missingArgument
  | d :: rest =>
    set rest
    return d

/-- Take an argument in the form that `read` asks for. It has to be defined. -/
def one {α : Type} (read : Datum → Except Fault α) : Taking α := do
  let d ← value
  if d.isUndefined then throw .undefinedValue else read d

/-- Take an argument if there is one, which has to be defined. -/
def possible : Taking (Option Datum) := do
  match ← get with
  | [] => return none
  | d :: rest =>
    set rest
    if d.isUndefined then throw .undefinedValue else return some d

/-- Take an argument if there is one. Nothing counts as none. -/
def optional {α : Type} (read : Datum → Except Fault α) : Taking (Option α) := do
  match ← possible with
  | none => return none
  | some d => if d.rank == Datum.none.rank then return none else return some (← read d)

/-- Take the arguments of a computation, which leaves none over. -/
def all {α : Type} (taking : Taking α) (args : List Datum) : Except Fault α :=
  match taking.run args with
  | .error fault => .error fault
  | .ok (result, []) => .ok result
  | .ok (_, _ :: _) => .error .tooManyArguments

end Taking

namespace Datum

/-- The text of a value. -/
def asText (d : Datum) : Except Fault (List Char) :=
  .ok d.chars

/-- The text of a text. -/
def asString (d : Datum) : Except Fault (List Char) :=
  match d.text? with
  | some s => .ok s
  | .none => .error .invalidOperation

/-- The value itself. -/
def asIs (d : Datum) : Except Fault Datum :=
  .ok d

/-- A truth value. -/
def asBool : Datum → Except Fault Bool
  | .bool b => .ok b
  | _ => .error .invalidOperation

/-- An integer between bounds. -/
def asInt (least most : Int) (d : Datum) : Except Fault Int :=
  match d.integer? with
  | some n => if least ≤ n ∧ n ≤ most then .ok n else .error .invalidOperation
  | .none => .error .invalidOperation

/-- The items that a loop over a value visits. Nothing can be visited of what is undefined. -/
def asItems (d : Datum) : Except Fault (List Datum) :=
  match d with
  | .undefined false => .error .undefinedValue
  | d =>
    match d.items? with
    | some items => .ok items
    | .none => .error .invalidOperation

/-- The same for a filter, to which what is undefined is an invalid operand. -/
def asOperandItems (d : Datum) : Except Fault (List Datum) :=
  match asItems d with
  | .ok items => .ok items
  | .error _ => .error .invalidOperation

end Datum

open Taking

/-- The numbers of a range are at most this many. -/
def rangeLimit : Nat := 100000

/-- The numbers from a first one on in steps, up to but without a bound. -/
def range : Taking Datum := do
  let integer := Datum.asInt (-twoTo 63) (twoTo 63 - 1)
  let lower ← one integer
  let upper ← optional integer
  let step := (← optional integer).getD 1
  let (first, bound) := match upper with
    | some upper => (lower, upper)
    | none => (0, lower)
  if step = 0 then throw .invalidOperation
  let span := if 0 < step then bound - first else first - bound
  let count := ((span + step.natAbs - 1) / step.natAbs).toNat
  if rangeLimit < count then throw .invalidOperation
  return .ofSequence ((List.range count).map fun i : Nat => .int (first + step * i))

/-- The entries of a dictionary, with those that are given by name. -/
def dictOf (passed : Passed) : Except Fault Datum := do
  let entries ← match passed.positional with
    | [] | [.none] => pure []
    | [.undefined _] => throw .undefinedValue
    | [.dict entries ..] => pure entries
    | [_] => throw .invalidOperation
    | _ => throw .tooManyArguments
  let put (entries : List (Datum × Datum)) (entry : Datum × Datum) :=
    Datum.putEntry entry.1 entry.2 entries
  return .ofEntries ((passed.keywords.getD []).foldl put entries)

/-- A space with the members of a dictionary, whose members can be assigned to. -/
def space : Taking Datum := do
  match ← optional Datum.asIs with
  | none => return .dict [] .space none
  | some (.dict entries ..) =>
    if entries.any fun entry => entry.1.text?.isNone then throw .invalidOperation
    return .dict entries .space none
  | some _ => throw .invalidOperation

/-- The names of the functions. -/
def functionNames : List String :=
  ["range", "dict", "namespace"]

/-- The result of the function of a name. -/
def callFunction (name : String) (passed : Passed) : Except Fault Datum :=
  match name with
  | "range" => range.all passed.all
  | "dict" => dictOf passed
  | "namespace" => space.all passed.all
  | _ => .error .unknownFunction

end ClusterTuning.Templating
