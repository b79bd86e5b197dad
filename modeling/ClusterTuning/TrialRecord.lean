import ClusterTuning.Data.Decode
import ClusterTuning.Data.Encode

/-!
# ClusterTuning.TrialRecord

**Trials and experiments as the remote API lists them.**
-/

namespace ClusterTuning

/-- The state of a trial. -/
inductive TrialStatus where
  /-- Prepared. -/
  | staged
  /-- Running. -/
  | active
  /-- Ended with measurements. -/
  | completed
  /-- Ended without. -/
  | failed
  /-- Given up. -/
  | abandoned
deriving DecidableEq, Repr, Inhabited

namespace TrialStatus

/-- All states. -/
def all : List TrialStatus :=
  [.staged, .active, .completed, .failed, .abandoned]

/-- The word for a state. -/
def name : TrialStatus → String
  | .staged => "staged"
  | .active => "active"
  | .completed => "completed"
  | .failed => "failed"
  | .abandoned => "abandoned"

/-- The state for a word. -/
def ofName (word : String) : Decoded TrialStatus :=
  match all.find? fun status => status.name = word with
  | some status => .ok status
  | none => .error (.word word (all.map name))

/-- Read a state. -/
def decode : Value → Decoded TrialStatus :=
  Decode.word ofName

/-- The query for trials in one of the states. -/
def query (states : List TrialStatus) : List (String × String) :=
  states.map fun status => ("status", status.name)

end TrialStatus

/-- The value that a trial gave to a parameter. -/
structure Assignment where
  /-- The name of the parameter. -/
  parameterName : String
  /-- The value. -/
  value : Value
deriving Repr, Inhabited

namespace Assignment

/-- Read an assignment. -/
def decode : Value → Decoded Assignment :=
  Decode.closedRecord "Assignment" <|
    ((Decode.Schema.of Assignment.mk)
      |>.required "parameterName" Value.decodeText)
      |>.required "value" Source.value

/-- An assignment as a value. -/
def encode (a : Assignment) : Value :=
  .object (Encode.field "parameterName" (.string a.parameterName) ++ Encode.field "value" a.value)

end Assignment

/-- A trial. -/
structure TrialItem where
  /-- Its number within the experiment. -/
  number : Nat
  /-- Its state. -/
  status : Option TrialStatus := none
  /-- The values it gave to parameters. -/
  assignments : List Assignment := []
  /-- Its labels in the order of their names. -/
  labels : List (String × String) := []
deriving Repr, Inhabited

namespace TrialItem

/-- Read a natural number of 64 bits. -/
def decodeNumber (v : Value) : Decoded Nat :=
  (Value.decodeInteger .unsigned v).map Int.toNat

/-- Read a trial. -/
def decode : Value → Decoded TrialItem :=
  Decode.closedRecord "TrialItem" <|
    ((((Decode.Schema.of TrialItem.mk)
      |>.required "number" decodeNumber)
      |>.withDefault "status" (Decode.option TrialStatus.decode) none)
      |>.withDefault "assignments" (Decode.list Assignment.decode) [])
      |>.withDefault "labels" (Decode.dictionary Value.decodeText) []

/-- A trial as a value. -/
def encode (t : TrialItem) : Value :=
  .object (Encode.field "number" (.ofNat t.number) ++
    Encode.optional "status" (fun s => Value.string s.name) t.status ++
    Encode.field "assignments" (Encode.list Assignment.encode t.assignments) ++
    (if t.labels.isEmpty then [] else Encode.field "labels" (Encode.texts t.labels)))

end TrialItem

/-- Trials. -/
structure TrialList where
  /-- The trials in the order of the answer. -/
  trials : List TrialItem := []
deriving Repr, Inhabited

namespace TrialList

/-- Read a list of trials. -/
def decode : Value → Decoded TrialList :=
  Decode.closedRecord "TrialList" <|
    (Decode.Schema.of TrialList.mk)
      |>.withDefault "trials" (Decode.list TrialItem.decode) []

/-- A list of trials as a value. -/
def encode (l : TrialList) : Value :=
  .object (Encode.field "trials" (Encode.list TrialItem.encode l.trials))

end TrialList

/-- What the remote API says of an experiment. -/
structure ExperimentItem where
  /-- The name. -/
  name : String := ""
  /-- Where its trials are listed, empty when nowhere. -/
  trialsUrl : String := ""
deriving DecidableEq, Repr, Inhabited

namespace ExperimentItem

/-- Read what the remote API says of an experiment. -/
def decode : Value → Decoded ExperimentItem :=
  Decode.closedRecord "ExperimentItem" <|
    ((Decode.Schema.of ExperimentItem.mk)
      |>.withDefault "name" Value.decodeText "")
      |>.withDefault "trialsUrl" Value.decodeText ""

/-- What the remote API says of an experiment, as a value. -/
def encode (e : ExperimentItem) : Value :=
  .object (Encode.field "name" (.string e.name) ++
    Encode.field "trialsUrl" (.string e.trialsUrl))

end ExperimentItem

end ClusterTuning
