import ClusterTuning.Templating.Grammar
import ClusterTuning.Templating.Evaluate

/-!
# ClusterTuning.Templating.Template

**The text that a template gives out.**

A statement takes a scope and yields text and the scope behind it. Loops and `with` tags open a
frame of their own, choices do not. What the body of a loop assigns is gone at the next item.

## Main statement

* `render_of_noTag` : text in which no tag starts gives itself out, less one line break at its end.
-/

namespace ClusterTuning.Templating

open Evaluating

/-- The text of a value that is given out. -/
def given (d : Datum) : Except Fault (List Char) := do
  Datum.needed d
  return d.chars

mutual

/-- Assign a value to a target. Only what has items falls into parts; text does not. -/
def Target.assign (again : RunAgain) (scope : Scope) (d : Datum) : Target → Evaluating Scope
  | .name name => return scope.assign name d
  | .member e name => do
    let whole ← evaluate again scope e
    assignMember whole name d
    return scope
  | .parts targets =>
    match d.parts? with
    | none => throw .cannotUnpack
    | some items =>
      if items.length = targets.length then assignParts again scope items targets
      else throw .cannotUnpack

/-- Assign values to targets in order. -/
def assignParts (again : RunAgain) (scope : Scope) :
    List Datum → List Target → Evaluating Scope
  | d :: items, target :: targets => do
    let scope ← target.assign again scope d
    assignParts again scope items targets
  | _, _ => return scope

end

/-- Run a chain of filters on text. -/
def filterText (again : RunAgain) (scope : Scope) (d : Datum) :
    List FilterCall → Evaluating Datum
  | [] => return d
  | call :: rest => do
    let positional ← evaluatePositional again scope call.args
    let keywords ← evaluateKeywords again scope call.args none
    let d ← making (callFilter call.name ⟨d :: positional, keywords⟩)
    filterText again scope d rest

/-- The state of a loop at its item `index` of `count`, between its neighbours. How many characters
a text has is not known to a loop over it, so that no character counts as the last one. -/
def loopState (label : Nat) (count : Option Nat) (depth index : Nat)
    (before after : Option Datum) : Datum :=
  let known (f : Nat → Datum) (otherwise : Datum) : Datum := (count.map f).getD otherwise
  let missing := Datum.undefined false
  let members : List (String × Datum) := [
    ("index0", .int index), ("index", .int (index + 1)),
    ("length", known (fun n => .int n) missing),
    ("revindex", known (fun n => .int (n - index : Nat)) missing),
    ("revindex0", known (fun n => .int (n - index - 1 : Nat)) missing),
    ("first", .bool (index == 0)),
    ("last", known (fun n => .bool (index + 1 == n)) (.bool false)),
    ("depth", .int (depth + 1)), ("depth0", .int depth),
    ("previtem", before.getD missing), ("nextitem", after.getD missing)]
  .dict (members.map fun (name, d) => (.plain name.toList, d)) .loop (some label)

/-- The frame of a loop for one of its items. -/
def loopFrame (state : Option Datum) (depth : Nat) (again : Option (Target × List Statement)) :
    Frame :=
  { round := some ⟨state, depth, again⟩ }

/-- The texts that `step` gives out for the items of a loop, of which the first is at `index` behind
`before`. A step is told the state of the loop and the item. -/
def forEach (step : Datum → Datum → Evaluating (List Char))
    (state : Nat → Option Datum → Option Datum → Datum) :
    Nat → Option Datum → List Datum → Evaluating (List Char)
  | _, _, [] => return []
  | index, before, d :: rest => do
    let text ← step (state index before rest.head?) d
    let more ← forEach step state (index + 1) (some d) rest
    return text ++ more

/-- The items for which a test holds, each assigned to the target in a frame of its own. -/
def passing (again : RunAgain) (scope : Scope) (target : Target) (test : Expr) :
    List Datum → Evaluating (List Datum)
  | [] => return []
  | d :: rest => do
    let inner ← target.assign again (loopFrame none scope.depth none :: scope) d
    let keep ← truth (← evaluate again inner test)
    let more ← passing again scope target test rest
    return if keep then d :: more else more

/-- Assign the values of expressions in order. -/
def assignAll (again : RunAgain) (scope : Scope) : List (Target × Expr) → Evaluating Scope
  | [] => return scope
  | (target, e) :: rest => do
    let d ← evaluate again scope e
    let scope ← target.assign again scope d
    assignAll again scope rest

/-- The number of items of a loop over a value, where it is known beforehand. -/
def loopCount (d : Datum) : Option Nat :=
  if d.text?.isSome then none else d.items?.map List.length

mutual

/-- Run a statement. -/
def run (again : RunAgain) (scope : Scope) : Statement → Evaluating (List Char × Scope)
  | .text s => return (s, scope)
  | .give e => do
    let d ← evaluate again scope e
    return (← given d, scope)
  | .loop target items test recursive body orElse => do
    let d ← evaluate again scope items
    let all ← d.asItems
    let (visited, count) ← match test with
      | none => pure (all, loopCount d)
      | some test => do
        let kept ← passing again scope target test all
        pure (kept, some kept.length)
    let rerun := if recursive then some (target, body) else none
    let step (state d : Datum) : Evaluating (List Char) := do
      let frame := loopFrame (some state) scope.depth rerun
      let inner ← target.assign again (frame :: scope) d
      return (← runAll again inner body).1
    if visited.isEmpty then runAll again scope orElse
    else
      let label ← labelling freshLabel
      return (← forEach step (loopState label count scope.depth) 0 none visited, scope)
  | .choose test yes no => do
    if ← truth (← evaluate again scope test) then runAll again scope yes
    else runAll again scope no
  | .scope names body => do
    let inner ← assignAll again ({} :: scope) names
    return ((← runAll again inner body).1, scope)
  | .assign target e => do
    let d ← evaluate again scope e
    return ([], ← target.assign again scope d)
  | .capture target filters body => do
    let (text, scope) ← runAll again scope body
    let d ← filterText again scope (.plain text) filters
    return ([], ← target.assign again scope d)
  | .filtered filters body => do
    let (text, scope) ← runAll again scope body
    let d ← filterText again scope (.plain text) filters
    return (← given d, scope)

/-- Run statements in order. -/
def runAll (again : RunAgain) (scope : Scope) : List Statement → Evaluating (List Char × Scope)
  | [] => return ([], scope)
  | s :: rest => do
    let (text, scope) ← run again scope s
    let (more, scope) ← runAll again scope rest
    return (text ++ more, scope)

end

/-- Frames may be nested this deep. -/
def frameLimit : Nat := 500

/-- Run a recursive loop again, at most `n` times inside of each other. -/
def runAgain : Nat → RunAgain
  | 0 => fun _ _ _ _ => throw .invalidOperation
  | n + 1 => fun scope target body d => do
    let items ← d.asItems
    let step (state d : Datum) : Evaluating (List Char) := do
      let frame := loopFrame (some state) scope.depth (some (target, body))
      let inner ← target.assign (runAgain n) (frame :: scope) d
      return (← runAll (runAgain n) inner body).1
    let label ← labelling freshLabel
    forEach step (loopState label (loopCount d) scope.depth) 0 none items

/-- The names of a context, with labelled values. -/
def labelledNames : List (String × Datum) → Labelling (List (String × Datum))
  | [] => return []
  | (name, d) :: rest => return (name, ← d.labelled) :: (← labelledNames rest)

/-- The result of an evaluation in the scope of a context: an empty frame, and behind it the names
of the context. -/
def within {α : Type} (context : List (String × Datum)) (evaluating : Scope → Evaluating α) :
    Except Fault α :=
  let named := (labelledNames context).run 0
  (evaluating [{}, { names := named.1 }]).run' { labels := named.2 }

/-- The text that a template gives out in a context. -/
def render (context : List (String × Datum)) (template : List Char) :
    Except Fault (List Char) := do
  let statements ← readTemplate template
  let (text, _) ← within context fun scope => runAll (runAgain frameLimit) scope statements
  return text

/-- The value of an expression in a context. -/
def valueOf (context : List (String × Datum)) (expression : List Char) : Except Fault Datum := do
  let e ← readExpression expression
  within context fun scope => evaluate (runAgain frameLimit) scope e

/-- A template of text alone reads as that text. -/
theorem body_text (fuel depth : Nat) (text : List Char) :
    (body (fuel + 2) depth [] []).run (textToken text) =
      .ok (if text.isEmpty then [] else [.text text], []) := by
  cases text <;> simp [textToken, body, Reading.next] <;> rfl

/-- Text in which no tag starts gives itself out, less one line break at its end. -/
theorem render_of_noTag (context : List (String × Datum)) {s : List Char}
    (h : noTag (withoutLastBreak s) = true) :
    render context s = .ok (withoutLastBreak s) := by
  have tokens : tokensOf s = textToken (withoutLastBreak s) := scan_of_noTag _ h
  simp only [render, readTemplate, tokens, fuelFor]
  rw [show 24 * ((textToken (withoutLastBreak s)).length + 2) =
    (24 * ((textToken (withoutLastBreak s)).length + 1) + 22) + 2 by omega, body_text]
  generalize withoutLastBreak s = text
  cases text with
  | nil => rfl
  | cons c rest =>
    show Except.ok ((c :: rest) ++ []) = Except.ok (c :: rest)
    rw [List.append_nil]

end ClusterTuning.Templating
