import ClusterTuning.Cluster.Resource
import ClusterTuning.Failure
import ClusterTuning.Json.Reader
import ClusterTuning.Json.Writer
import ClusterTuning.Program
import ClusterTuning.Settings

/-!
# ClusterTuning.Kubectl

**A cluster that is reached through its command line client.**

Each call runs the client once. An object is only taken to be absent when the client says so in its
messages; any other complaint is a failure, since writing on after a wrong answer would do harm.
-/

namespace ClusterTuning.Kubectl

/-- What is asked of the client. -/
inductive Request where
  /-- Show an object. -/
  | show (key : ResourceKey)
  /-- Make an object. -/
  | create (object : Value)
  /-- Replace an object. -/
  | replace (object : Value)

namespace Request

/-- The word for what is asked. -/
def verb : Request → String
  | .show _ => "get"
  | .create _ => "create"
  | .replace _ => "replace"

/-- The arguments of the client. -/
def args (r : Request) : List String :=
  match r with
  | .show key =>
    let scope := match key.inNamespace? with
      | some ns => ["--namespace", ns]
      | none => []
    [r.verb, key.qualifiedType, key.name] ++ scope ++ ["--output", "json"]
  | .create _ | .replace _ => [r.verb, "--filename", "-"]

/-- The input of the client. -/
def stdin : Request → Option Bytes
  | .show _ => none
  | .create object | .replace object => some (Text.encode (Json.write object.canonical))

end Request

/-- What the client answered. -/
structure Reply where
  /-- Did it end without complaint? -/
  succeeded : Bool
  /-- Its output. -/
  stdout : Bytes
  /-- Its messages, without the blanks around them. -/
  stderr : String
deriving Repr, Inhabited

/-- Run the client. -/
def ask (settings : KubectlSettings) (launch : Program.Launcher) (r : Request) :
    Except Trouble Reply :=
  match settings.command with
  | [] => .error (.plain "kubectl command is empty")
  | program :: first =>
    match Program.start launch ⟨program, first ++ r.args, r.stdin, []⟩ with
    | .error reason => .error (.context ("spawn " ++ program) (.plain reason))
    | .ok e =>
      if e.timedOut then
        .error (.plain ("kubectl timed out after " ++
          String.ofList (Decimal.natDigits settings.timeout) ++ "s"))
      else
        .ok ⟨e.status.isSuccess, e.stdout.flatten,
          String.ofList (Text.trim (Text.decodeLenient e.stderr.flatten))⟩

/-- What the client complained about. -/
def complaint (r : Request) (reply : Reply) : Trouble :=
  .plain ("kubectl " ++ r.verb ++ ": " ++ reply.stderr)

/-- Do the messages say that the object is not there? -/
def saysNotFound (stderr : String) : Bool :=
  Text.occursIn "(NotFound)".toList stderr.toList

/-- The object of a key, unless it is not there. -/
def get (settings : KubectlSettings) (launch : Program.Launcher) (key : ResourceKey) :
    Except Trouble (Option Value) :=
  match ask settings launch (.show key) with
  | .error e => .error e
  | .ok reply =>
    if reply.succeeded then
      match (Text.decode? reply.stdout).bind Json.readChars? with
      | some v => .ok (some v)
      | none => .error (.context "parse kubectl get output" (.plain jsonDetail))
    else if saysNotFound reply.stderr then .ok none
    else .error (complaint (.show key) reply)

/-- Let the client write an object. -/
def write (settings : KubectlSettings) (launch : Program.Launcher) (r : Request) :
    Except Trouble Unit :=
  match ask settings launch r with
  | .error e => .error e
  | .ok reply => if reply.succeeded then .ok () else .error (complaint r reply)

/-- Make an object. -/
def create (settings : KubectlSettings) (launch : Program.Launcher) (object : Value) :
    Except Trouble Unit :=
  write settings launch (.create object)

/-- Replace an object. -/
def update (settings : KubectlSettings) (launch : Program.Launcher) (object : Value) :
    Except Trouble Unit :=
  write settings launch (.replace object)

end ClusterTuning.Kubectl
