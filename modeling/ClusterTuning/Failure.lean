import ClusterTuning.Text.Quoted
import ClusterTuning.Text.Pieces
import ClusterTuning.Decimal.Layout

/-!
# ClusterTuning.Failure

**What can go wrong, how it is said, and which exit code it gives.**

Every operation on manifests, trials and clusters fails with a `Failure`, which keeps the cause in
its parts. The text of a message is a function of the cause. Where a message would go on with the
details of another format, a word in angle brackets stands for them.
-/

namespace ClusterTuning

/-- The coarse kind of a failure. -/
inductive FailureKind where
  /-- An input could not be read. -/
  | input
  /-- Something that is referred to could not be found. -/
  | resolution
  /-- A template could not be rendered. -/
  | render
  /-- A resource could not be deployed. -/
  | deploy
  /-- The remote API did not give an answer that can be used. -/
  | remoteApi
deriving DecidableEq, Repr

/-- The word for a kind of failure. -/
def FailureKind.name : FailureKind → String
  | .input => "input"
  | .resolution => "resolution"
  | .render => "render"
  | .deploy => "deploy"
  | .remoteApi => "remote_api"

/-- A failure with its cause. -/
inductive Failure where
  /-- A source of input could not be read or understood. -/
  | input (source detail : String)
  /-- A required object is missing. -/
  | resolution (detail : String)
  /-- The name of a trial does not end in a number. -/
  | invalidTrialIdentifier (name : String)
  /-- No completed trial has the number asked for. -/
  | trialNotFound (experiment : String) (number : Nat)
  /-- The remote API knows the experiment but not its trials. -/
  | unresolvableTrial (experiment : String)
  /-- A template could not be executed. -/
  | render (template detail : String)
  /-- The body of a patch is no JSON object. -/
  | malformedPatch (key detail : String)
  /-- The target of a patch lacks its kind or its name. -/
  | emptyTarget (key field : String)
  /-- A call to the cluster failed. -/
  | deploy (resource operation detail : String)
  /-- A call to the remote API failed. -/
  | remoteApi (operation detail : String)
deriving DecidableEq, Repr, Inhabited

namespace Failure

/-- The kind of a failure. -/
def kind : Failure → FailureKind
  | .input .. => .input
  | .resolution .. | .invalidTrialIdentifier .. | .trialNotFound .. | .unresolvableTrial .. =>
    .resolution
  | .render .. | .malformedPatch .. | .emptyTarget .. => .render
  | .deploy .. => .deploy
  | .remoteApi .. => .remoteApi

/-- The message for a failure. -/
def message : Failure → String
  | .input source detail => "invalid input " ++ source ++ ": " ++ detail
  | .resolution detail => detail
  | .invalidTrialIdentifier name =>
    "invalid trial identifier " ++ Text.quote name ++
      ": expected a numeric suffix after the last '-'"
  | .trialNotFound experiment number =>
    "trial not found: experiment " ++ experiment ++ " has no completed trial " ++
      String.ofList (Decimal.natDigits number)
  | .unresolvableTrial experiment =>
    "unable to identify trial: experiment " ++ experiment ++ " has no trials URL"
  | .render template detail => "render " ++ template ++ ": " ++ detail
  | .malformedPatch key detail => "malformed patch " ++ key ++ ": " ++ detail
  | .emptyTarget key field =>
    "patch " ++ key ++ " renders an empty target (" ++ field ++ " is empty)"
  | .deploy resource operation detail => resource ++ ": " ++ operation ++ ": " ++ detail
  | .remoteApi operation detail => "remote api " ++ operation ++ ": " ++ detail

end Failure

/-! ### Results that may be failures -/

theorem map_eq_ok_iff {ε α β : Type} {f : α → β} {result : Except ε α} {b : β} :
    result.map f = .ok b ↔ ∃ a, result = .ok a ∧ f a = b := by
  cases result <;> simp [Except.map]

theorem bind_eq_ok_iff {ε α β : Type} {f : α → Except ε β} {result : Except ε α} {b : β} :
    result.bind f = .ok b ↔ ∃ a, result = .ok a ∧ f a = .ok b := by
  cases result <;> simp [Except.bind]

theorem map_eq_error_iff {ε α β : Type} {f : α → β} {result : Except ε α} {e : ε} :
    result.map f = .error e ↔ result = .error e := by
  cases result <;> simp [Except.map]

/-- Stands for what is wrong with text that is not UTF-8. -/
def utf8Detail : String := "<utf8>"

/-- Stands for what is wrong with YAML text. -/
def yamlDetail : String := "<yaml>"

/-- Stands for what is wrong with JSON text. -/
def jsonDetail : String := "<json>"

/-- Stands for what is wrong with TOML text. -/
def tomlDetail : String := "<toml>"

/-- Stands for why a request was not answered. -/
def transportDetail : String := "<transport>"

/-! ### Chains of causes and exit codes -/

/-- The exit codes of the commands. -/
def exitOk : Nat := 0

/-- The exit code of a failure of no particular kind, and of a deployment. -/
def exitFailure : Nat := 1

/-- The exit code of a kind of failure. -/
def FailureKind.exitCode : FailureKind → Nat
  | .input => 2
  | .resolution => 3
  | .render => 4
  | .remoteApi => 5
  | .deploy => exitFailure

/-- A failure at the top of a command: a cause under the contexts in which it arose. -/
inductive Trouble where
  /-- A failure of this library. -/
  | failure (cause : Failure)
  /-- Any other cause, of which only the message is known. -/
  | plain (message : String)
  /-- A cause in a context. -/
  | context (text : String) (cause : Trouble)
deriving Repr, Inhabited

namespace Trouble

/-- The messages from the outermost context to the cause. -/
def messages : Trouble → List String
  | .failure cause => [cause.message]
  | .plain message => [message]
  | .context text cause => text :: cause.messages

/-- All messages on one line. -/
def message (t : Trouble) : String :=
  Text.joinStrings ": " t.messages

/-- The exit code is that of the failure below all contexts, if there is one. -/
def exitCode : Trouble → Nat
  | .failure cause => cause.kind.exitCode
  | .plain _ => exitFailure
  | .context _ cause => cause.exitCode

end Trouble

end ClusterTuning
