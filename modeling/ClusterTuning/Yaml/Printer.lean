import ClusterTuning.Yaml.Scalar
import ClusterTuning.Text.Utf8

/-!
# ClusterTuning.Yaml.Printer

**Writing values as YAML.**

Collections are written as blocks, except for empty ones, with two columns for each level; a
sequence below a key starts at the column of the key. A string is written plain where it reads back
as the same string, and otherwise in the least style that can hold it: in single quotes when it
would read as something else, as a literal block when it has several lines, and in double quotes
when it holds characters that need an escape.
-/

namespace ClusterTuning.Yaml

/-- Numbers have a plain point up to sixteen digits before it and four zeros behind it. -/
def numberLayout : Decimal.Layout := ⟨-4, 16, false⟩

/-- Does the character stand for itself outside of double quotes? Control characters do not, nor do
tabs and byte order marks. -/
def printsAsItself (c : Char) : Bool :=
  let n := c.toNat
  n == 0x0A || (0x20 ≤ n && n ≤ 0x7E) || (0xA0 ≤ n && n ≤ 0xD7FF) ||
    (0xE000 ≤ n && n ≤ 0xFFFD && n != 0xFEFF) || 0x10000 ≤ n

/-- The ways to write a string. -/
inductive Quoting where
  /-- As it is. -/
  | plain
  /-- In single quotes. -/
  | single
  /-- In double quotes. -/
  | double
  /-- As a literal block. -/
  | literal
deriving DecidableEq, Repr

/-- The way in which a string is best written, whatever characters it holds. -/
def preferred (s : List Char) : Quoting :=
  if s.contains '\n' then .literal
  else if Spelled.ofText s = .text && !isPaddedDigits s then .plain
  else .single

/-- Does `p` hold of some neighbours? -/
def someNeighbours (p : Char → Char → Bool) : List Char → Bool
  | a :: b :: rest => p a b || someNeighbours p (b :: rest)
  | _ => false

/-- Is there a colon in front of a gap, or a number sign behind one? -/
def hasIndicator (before : Bool) : List Char → Bool
  | [] => false
  | c :: rest =>
    (c == ':' && gapNext rest) || (c == '#' && before) || hasIndicator (isGap c) rest

/-- Does the string start with an indicator? -/
def startsAsIndicator : List Char → Bool
  | [] => false
  | c :: rest =>
    isOneOf "#,[]\x7b\x7d&*!|>'\"%@`" c || (isOneOf "?:-" c && gapNext rest) ||
      Text.startsWith "---".toList (c :: rest) || Text.startsWith "...".toList (c :: rest)

/-- Does it start or end with a space or a line break? -/
def hasBareEnds (s : List Char) : Bool :=
  let bare (c : Char) := c == ' ' || isBreak c
  s.head?.any bare || s.getLast?.any bare

/-- Can the string stand as it is? -/
def allowsPlain (s : List Char) : Bool :=
  s.all printsAsItself && !s.any isBreak && !hasBareEnds s && !startsAsIndicator s &&
    !hasIndicator true s

/-- Can the string stand in single quotes? -/
def allowsSingle (s : List Char) : Bool :=
  s.all printsAsItself && !someNeighbours (fun a b => a == ' ' && isBreak b) s &&
    !someNeighbours (fun a b => isBreak a && b == ' ') s

/-- Can the string stand in a literal block? -/
def allowsLiteral (s : List Char) : Bool :=
  !s.isEmpty && s.all printsAsItself && !someNeighbours (fun a b => a == ' ' && isBreak b) s &&
    !(s.getLast? == some ' ')

/-- The way in which a string is written. -/
def quoting (s : List Char) : Quoting :=
  let quoted := if allowsSingle s then Quoting.single else .double
  match preferred s with
  | .plain => if allowsPlain s then .plain else quoted
  | .single => quoted
  | .literal => if allowsLiteral s then .literal else .double
  | .double => .double

/-- The hexadecimal digits of `n` in upper case, `width` of them. -/
def hexUpper (width n : Nat) : List Char :=
  let digits := (Nat.toDigits 16 n).map Char.toUpper
  List.replicate (width - digits.length) '0' ++ digits

/-- One character in double quotes. -/
def escapeChar (c : Char) : List Char :=
  let n := c.toNat
  if c == '"' then ['\\', '"']
  else if c == '\\' then ['\\', '\\']
  else if printsAsItself c && !isBreak c then [c]
  else if n == 0 then ['\\', '0']
  else if n == 7 then ['\\', 'a']
  else if n == 8 then ['\\', 'b']
  else if n == 9 then ['\\', 't']
  else if n == 10 then ['\\', 'n']
  else if n == 11 then ['\\', 'v']
  else if n == 12 then ['\\', 'f']
  else if n == 13 then ['\\', 'r']
  else if n == 27 then ['\\', 'e']
  else if n == 0x85 then ['\\', 'N']
  else if n == 0x2028 then ['\\', 'L']
  else if n == 0x2029 then ['\\', 'P']
  else if n ≤ 0xFF then '\\' :: 'x' :: hexUpper 2 n
  else if n ≤ 0xFFFF then '\\' :: 'u' :: hexUpper 4 n
  else '\\' :: 'U' :: hexUpper 8 n

/-- Spaces up to a column. -/
def margin (column : Nat) : List Char :=
  List.replicate column ' '

/-- The inside of single quotes: quotes are doubled, and a line starts at `column`. -/
def singleInside (column : Nat) : Bool → List Char → List Char
  | broken, [] => if broken then margin column else []
  | broken, c :: rest =>
    if isBreak c then c :: singleInside column true rest
    else if c == ' ' then c :: singleInside column broken rest
    else
      (if broken then margin column else []) ++ (if c == '\'' then ['\'', '\''] else [c]) ++
        singleInside column false rest

/-- The lines of a literal block: each one with text starts at `column`. -/
def literalInside (column : Nat) : Bool → List Char → List Char
  | _, [] => []
  | fresh, c :: rest =>
    if isBreak c then c :: literalInside column true rest
    else (if fresh then margin column else []) ++ c :: literalInside column false rest

/-- The header of a literal block. A block that starts with a space or a line break gives its
indentation, and the last mark says how many line breaks end the text. -/
def literalHeader (s : List Char) : List Char :=
  let indentation := if s.head?.any fun c => c == ' ' || isBreak c then ['2'] else []
  let chomping := match s.reverse with
    | [] => ['-']
    | [c] => if isBreak c then ['+'] else ['-']
    | c :: d :: _ => if !isBreak c then ['-'] else if isBreak d then ['+'] else []
  '|' :: indentation ++ chomping

/-- A string in the given way, with further lines at `column`. -/
def writeQuoted (column : Nat) (s : List Char) : Quoting → List Char
  | .plain => s
  | .single => '\'' :: singleInside column false s ++ ['\'']
  | .double => '"' :: s.flatMap escapeChar ++ ['"']
  | .literal => literalHeader s ++ '\n' :: literalInside column true s

/-- A scalar or an empty collection, with further lines at `column`. -/
def writeScalar (column : Nat) : Value → List Char
  | .null => "null".toList
  | .bool true => "true".toList
  | .bool false => "false".toList
  | .number (.int n) => Decimal.intChars n
  | .number (.double x) => numberLayout.print x
  | .string s => writeQuoted column s.toList (quoting s.toList)
  | .array _ => ['[', ']']
  | .object _ => ['\x7b', '\x7d']

/-- End the line, unless a block has already ended it. -/
def endLine (s : List Char) : List Char :=
  if s.getLast?.any isBreak then s else s ++ ['\n']

/-- Can the string be a key on the line of its colon? -/
def isSimpleKey (s : String) : Bool :=
  !s.toList.any isBreak && Nat.ble (Text.encode s).length 128

mutual

/-- The value of a simple key in a mapping at `column`, from behind the colon. -/
def afterKey (column : Nat) : Value → List Char
  | .array (v :: rest) => '\n' :: itemsAt column (v :: rest)
  | .object (field :: rest) => '\n' :: fieldsAt (column + 2) (field :: rest)
  | v => ' ' :: endLine (writeScalar (column + 2) v)

/-- An item of a sequence at `column`, from behind the dash. A collection starts on the same
line. -/
def afterDash (column : Nat) : Value → List Char
  | .array (v :: rest) => ' ' :: (itemsAt (column + 2) (v :: rest)).drop (column + 2)
  | .object (field :: rest) => ' ' :: (fieldsAt (column + 2) (field :: rest)).drop (column + 2)
  | v => ' ' :: endLine (writeScalar (column + 2) v)

/-- The items of a sequence at `column`. -/
def itemsAt (column : Nat) : List Value → List Char
  | [] => []
  | v :: rest => margin column ++ '-' :: (afterDash column v ++ itemsAt column rest)

/-- The fields of a mapping at `column`. -/
def fieldsAt (column : Nat) : List (String × Value) → List Char
  | [] => []
  | (k, v) :: rest =>
    margin column ++
      (if isSimpleKey k then writeScalar (column + 2) (.string k) ++ ':' :: afterKey column v
      else
        '?' :: ' ' :: endLine (writeScalar (column + 2) (.string k)) ++
          (margin column ++ ':' :: afterDash column v)) ++
      fieldsAt column rest

end

/-- A value as a document. -/
def writeChars : Value → List Char
  | .array (v :: rest) => itemsAt 0 (v :: rest)
  | .object (field :: rest) => fieldsAt 0 (field :: rest)
  | v => endLine (writeScalar 2 v)

/-- A value as a document. -/
def write (v : Value) : String :=
  String.ofList (writeChars v)

end ClusterTuning.Yaml
