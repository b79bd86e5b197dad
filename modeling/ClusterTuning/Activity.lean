import ClusterTuning.Failure
import ClusterTuning.Data.Decode
import ClusterTuning.Data.Encode

/-!
# ClusterTuning.Activity

**Activities: what the remote API asks for.**

An activity refers to a scenario and carries a tag for what is to be done with it. Tags that are not
known are kept apart from the known ones, since an activity that carries one is reported and not
ignored.
-/

namespace ClusterTuning

/-- The tag of an activity. -/
inductive Tag where
  /-- Publish the template of the experiment. -/
  | scan
  /-- Deploy the experiment. -/
  | run
  /-- Any other tag. -/
  | unknown
deriving DecidableEq, Repr, Inhabited

namespace Tag

/-- The word for a tag. -/
def name : Tag → String
  | .scan => "scan"
  | .run => "run"
  | .unknown => "unknown"

/-- The tag for a word. -/
def ofName (word : String) : Tag :=
  if word = "scan" then .scan else if word = "run" then .run else .unknown

/-- Read a tag. -/
def decode : Value → Decoded Tag :=
  Decode.word fun word => .ok (ofName word)

/-- A tag as a value. -/
def encode (t : Tag) : Value :=
  .string t.name

end Tag

/-- What an activity asks for. -/
inductive Action where
  /-- Publish the template of the experiment. -/
  | scan
  /-- Deploy the experiment. -/
  | run
deriving DecidableEq, Repr, Inhabited

/-- The word for an action. -/
def Action.name : Action → String
  | .scan => "scan"
  | .run => "run"

/-- An activity. -/
structure ActivityItem where
  /-- Its identifier, empty when it has none. -/
  id : String := ""
  /-- The address of the scenario it is about. -/
  url : String
  /-- Its tags. -/
  tags : List Tag := []
  /-- Its title. -/
  title : Option String := none
deriving DecidableEq, Repr, Inhabited

namespace ActivityItem

/-- Read an activity. -/
def decode : Value → Decoded ActivityItem :=
  Decode.closedRecord "ActivityItem" <|
    ((((Decode.Schema.of ActivityItem.mk)
      |>.withDefault "id" Value.decodeText "")
      |>.required "url" Value.decodeText)
      |>.withDefault "tags" (Decode.list Tag.decode) [])
      |>.withDefault "title" (Decode.option Value.decodeText) none

/-- An activity as a value. -/
def encode (a : ActivityItem) : Value :=
  .object (Encode.field "id" (.string a.id) ++ Encode.field "url" (.string a.url) ++
    Encode.field "tags" (Encode.list Tag.encode a.tags) ++
    Encode.optional "title" Value.string a.title)

/-- The action that the single tag of the activity asks for. -/
def action (a : ActivityItem) : Except Failure Action :=
  match a.tags with
  | [.scan] => .ok .scan
  | [.run] => .ok .run
  | [.unknown] => .error (.input a.url "unsupported activity tag")
  | tags =>
    .error (.input a.url ("invalid number of activity tags, expected 1 got " ++
      String.ofList (Decimal.natDigits tags.length)))

/-- What tells activities apart: the identifier, or the address when there is none. -/
def identity (a : ActivityItem) : String :=
  if a.id = "" then a.url else a.id

end ActivityItem

/-- A page of activities. -/
structure ActivityFeed where
  /-- The activities, oldest first. -/
  items : List ActivityItem := []
deriving DecidableEq, Repr, Inhabited

namespace ActivityFeed

/-- Read a page of activities. -/
def decode : Value → Decoded ActivityFeed :=
  Decode.closedRecord "ActivityFeed" <|
    (Decode.Schema.of ActivityFeed.mk)
      |>.withDefault "items" (Decode.list ActivityItem.decode) []

/-- A page of activities as a value. -/
def encode (feed : ActivityFeed) : Value :=
  .object (Encode.field "items" (Encode.list ActivityItem.encode feed.items))

/-- The query for activities that carry one of the tags. -/
def query (tags : List Tag) : List (String × String) :=
  ("type", "poll") :: tags.map fun tag => ("tag", tag.name)

/-- The query for the activities that can be acted upon. -/
def actionableQuery : List (String × String) :=
  query [.scan, .run]

end ActivityFeed

end ClusterTuning
