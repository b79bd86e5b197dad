import ClusterTuning.ExperimentTemplate
import ClusterTuning.Feed
import ClusterTuning.Json.Reader
import ClusterTuning.Json.Writer
import ClusterTuning.Scenario
import ClusterTuning.Settings
import ClusterTuning.Shutdown
import ClusterTuning.TrialRecord
import ClusterTuning.Web.Status
import ClusterTuning.Web.Url

/-!
# ClusterTuning.Web.Client

**The remote API over the web.**

Addresses that the API hands out may be relative to its own address. A call fails when its request
cannot be made, when nobody answers, when the answer says that something went wrong, and when it
does not have the form that is asked for.
-/

namespace ClusterTuning.Web

/-- A request. -/
structure Request where
  /-- Its method. -/
  method : String
  /-- The address that it is sent to. -/
  url : Url
  /-- What is shown to be let in. -/
  authorization : Option String
  /-- JSON text that is sent along. -/
  body : Option String
deriving DecidableEq, Repr, Inhabited

/-- What a server answers. -/
structure Response where
  /-- The code. -/
  status : Nat
  /-- The content. -/
  body : Bytes
deriving DecidableEq, Repr, Inhabited

/-- The answer to a request, if anybody answers. -/
abbrev Network := Request → Option Response

/-- A client of the remote API. -/
structure Client where
  /-- The address of the API, without slashes at its end. -/
  base : String
  /-- What is shown to be let in. -/
  token : Option String
deriving DecidableEq, Repr, Inhabited

namespace Client

/-- The client that settings describe. They have to give an address. -/
def ofSettings (s : ApiSettings) : Except Failure Client :=
  let base := String.ofList
    (Text.dropEndWhile (fun c => c == '/') (Text.trim s.address.toList))
  if base = "" then
    .error (.remoteApi "configure"
      "the current configuration does not include the API server address")
  else .ok ⟨base, s.token.filter fun token => token ≠ ""⟩

/-- The full address for one that may be relative. -/
def resolve (c : Client) (url : String) : String :=
  if ["http://", "https://"].any fun start => Text.startsWith start.toList url.toList then url
  else c.base ++ "/" ++ String.ofList (url.toList.dropWhile fun ch => ch == '/')

/-! ### Requests -/

/-- What is said about a request that cannot be made. -/
def requestFault : String := "builder error"

/-- What is said about an address that no request can be sent to. -/
def addressFault (url : Url) : String :=
  requestFault ++ " for url (" ++ url.print ++ ")"

/-- Can the text stand in a header? -/
def fitsHeader (s : String) : Bool :=
  s.toList.all fun c => c == '\t' || (0x20 ≤ c.toNat && c != '\x7f')

/-- The request for an address, or why it cannot be made. -/
def request (c : Client) (method url : String) (pairs : List (String × String))
    (body : Option String) : Except String Request :=
  match Url.read? (c.resolve url) with
  | none => .error requestFault
  | some u =>
    if !u.hasHost then .error (addressFault u)
    else if (c.token.filter fun token => !fitsHeader token).isSome then .error requestFault
    else
      let u := u.withoutUser.withPairs pairs
      if u.isWeb then .ok ⟨method, u, c.token.map fun token => "Bearer " ++ token, body⟩
      else .error (addressFault u)

/-- Send a request. What is wrong with it, with the connection or with the code of the answer is
reported for the operation. -/
def send (network : Network) (operation : String) (r : Except String Request) :
    Except Failure Response :=
  match r with
  | .error detail => .error (.remoteApi operation detail)
  | .ok r =>
    match network r with
    | none => .error (.remoteApi operation transportDetail)
    | some response =>
      if isSuccess response.status then .ok response
      else
        .error (.remoteApi operation ("API error (" ++ describeStatus response.status ++ "): " ++
          String.ofList (Text.decodeLenient response.body)))

/-- What is said about an answer that does not have the form that is asked for. -/
def formFault : String :=
  "failed to parse response: error decoding response body"

/-- Ask for what is at an address. -/
def get {α : Type} (c : Client) (network : Network) (operation url : String)
    (pairs : List (String × String)) (decode : Value → Decoded α) : Except Failure α :=
  match send network operation (c.request "GET" url pairs none) with
  | .error e => .error e
  | .ok response =>
    match ((Text.decode? response.body).bind Json.readChars?).map decode with
    | some (.ok a) => .ok a
    | _ => .error (.remoteApi operation formFault)

/-! ### Calls -/

/-- Ask for an experiment by its name. -/
def experiment (c : Client) (network : Network) (name : String) : Except Failure ExperimentItem :=
  c.get network "get experiment" ("/v1/experiments/" ++ name) [] ExperimentItem.decode

/-- Ask for the trials that are listed at an address and are in one of the states. -/
def trials (c : Client) (network : Network) (url : String) (states : List TrialStatus) :
    Except Failure TrialList :=
  c.get network "get trials" url (TrialStatus.query states) TrialList.decode

/-- Ask for a scenario. -/
def scenario (c : Client) (network : Network) (url : String) : Except Failure Scenario :=
  c.get network "get scenario" url [] Scenario.decode

/-- Ask for an application. -/
def application (c : Client) (network : Network) (url : String) :
    Except Failure StoredApplication :=
  c.get network "get application" url [] StoredApplication.decode

/-- Ask for a template. -/
def template (c : Client) (network : Network) (url : String) :
    Except Failure ExperimentTemplate :=
  c.get network "get template" url [] ExperimentTemplate.decode

/-- Store a template. -/
def storeTemplate (c : Client) (network : Network) (url : String) (t : ExperimentTemplate) :
    Except Failure Unit :=
  (send network "update template"
    (c.request "PUT" url [] (some (Json.write t.encode)))).map fun _ => ()

/-- Look at the activities that ask for something this library does. -/
def look (c : Client) (network : Network) : Feed.Look :=
  (c.get network "subscribe activity" "/v1/applications/activity" ActivityFeed.actionableQuery
    ActivityFeed.decode).map ActivityFeed.items

end Client

end ClusterTuning.Web
