import ClusterTuning.Decimal.Layout
import ClusterTuning.Text.Pieces

/-!
# ClusterTuning.CommandLine.Words

**Reading the words of a command line.**

An option has a long name, which follows two dashes, and may have a letter, which follows one. Its
value is joined to it or is the next word; a word that starts with a dash is no value unless it is
only a dash, or a negative number where the option takes one. Every option is given at most once
unless it gathers values. The first word that is neither an option nor a value ends the reading, and
so do two dashes alone.

Words are read from the left. The first thing that is wrong, or a request for help, decides.
-/

namespace ClusterTuning.CommandLine

/-- An option. -/
structure OptionSpec where
  /-- The long name. -/
  name : String
  /-- The letter. -/
  letter : Option Char := none
  /-- Does it gather values? -/
  gathers : Bool := false
  /-- May its value be a negative number? -/
  takesNegative : Bool := false
  /-- Is the value one that the option can have? -/
  accepts : String → Bool := fun _ => true

/-- Why reading stops before its end. -/
inductive Stop where
  /-- The user asks for help. -/
  | help
  /-- The user asks for the version. -/
  | version
  /-- The words are not used as they are meant to be. -/
  | misuse
deriving DecidableEq, Repr

/-- What a command takes. -/
structure Usage where
  /-- Its options. -/
  options : List OptionSpec
  /-- Does it tell its version? -/
  hasVersion : Bool := false

/-- The values of options, in order. -/
abbrev Given := List (String × String)

/-- What has been read: the values, and the word that ended the reading with the words behind it. -/
abbrev Taken := Given × List String

/-- Keep a value for an option. -/
def keep (spec : OptionSpec) (value : String) (given : Given) : Except Stop Given :=
  if !spec.accepts value then .error .misuse
  else if !spec.gathers && (given.lookup spec.name).isSome then .error .misuse
  else .ok (given ++ [(spec.name, value)])

/-- Can a word be the value of an option that comes before it? -/
def isValue (spec : OptionSpec) (word : String) : Bool :=
  match word.toList with
  | '-' :: c :: rest => spec.takesNegative && (c :: rest).all Decimal.isDigit
  | _ => true

/-- An option, with its value if that is joined to it. -/
abbrev Named := OptionSpec × Option String

/-- The option of a long name, with what follows the equals sign. -/
def longOption (u : Usage) (word : List Char) : Except Stop Named :=
  let (name, value) := match Text.cutAt ['='] word with
    | some (name, value) => (name, some (String.ofList value))
    | none => (word, none)
  let name := String.ofList name
  match u.options.find? fun spec => spec.name = name with
  | some spec => .ok (spec, value)
  | none =>
    if value.isSome then .error .misuse
    else if name = "help" then .error .help
    else if name = "version" ∧ u.hasVersion = true then .error .version
    else .error .misuse

/-- The option of a letter, with what follows it. An equals sign between the two is no part of the
value. -/
def letterOption (u : Usage) (letter : Char) (rest : List Char) : Except Stop Named :=
  match u.options.find? fun spec => spec.letter = some letter with
  | some spec =>
    let value := match rest with
      | [] => none
      | '=' :: value => some (String.ofList value)
      | value => some (String.ofList value)
    .ok (spec, value)
  | none =>
    if letter = 'h' then .error .help
    else if letter = 'V' ∧ u.hasVersion = true then .error .version
    else .error .misuse

/-- Read words. `awaiting` is an option whose value has to be the next word. -/
def readWords (u : Usage) (awaiting : Option OptionSpec) (given : Given) :
    List String → Except Stop Taken
  | [] => if awaiting.isSome then .error .misuse else .ok (given, [])
  | word :: rest =>
    match awaiting with
    | some spec =>
      if isValue spec word then
        match keep spec word given with
        | .ok given => readWords u none given rest
        | .error stop => .error stop
      else .error .misuse
    | none =>
      let named : Option (Except Stop Named) := match word.toList with
        | ['-', '-'] => none
        | '-' :: '-' :: name => some (longOption u name)
        | '-' :: letter :: more => some (letterOption u letter more)
        | _ => none
      match named with
      | none => .ok (given, word :: rest)
      | some (.error stop) => .error stop
      | some (.ok (spec, none)) => readWords u (some spec) given rest
      | some (.ok (spec, some value)) =>
        match keep spec value given with
        | .ok given => readWords u none given rest
        | .error stop => .error stop

/-- The values of a command without further words. -/
def readAll (u : Usage) (words : List String) : Except Stop Given :=
  match readWords u none [] words with
  | .error stop => .error stop
  | .ok (given, []) | .ok (given, ["--"]) => .ok given
  | .ok _ => .error .misuse

/-- An integer with an optional sign. -/
def integer? (s : String) : Option Int :=
  match s.toList with
  | '-' :: digits => (Decimal.readDigits? 10 digits).map fun n => -(n : Int)
  | '+' :: digits => (Decimal.readDigits? 10 digits).map fun n => (n : Int)
  | digits => (Decimal.readDigits? 10 digits).map fun n => (n : Int)

/-- Is it an integer between two bounds? -/
def isIntegerIn (low high : Int) (s : String) : Bool :=
  (integer? s).any fun n => low ≤ n && n ≤ high

end ClusterTuning.CommandLine
