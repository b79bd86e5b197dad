import ClusterTuning.Toml.Scalar
import ClusterTuning.Toml.Table

/-!
# ClusterTuning.Toml.Reader

**Reading TOML text.**

`Toml.read?` accepts a text of lines, each of which is blank, a header or a key with its value, and
gives the table that they describe. Inside brackets and braces lines may be broken anywhere but
within a key or a value, and a comma may follow the last item. Lists and tables in braces nest at
most eighty deep, and a key has at most eighty names.
-/

namespace ClusterTuning.Toml

/-- The deepest nesting of lists and of tables in braces, and the longest key. -/
def depthLimit : Nat := 80

/-! ### Blanks and comments -/

/-- The blanks within a line. -/
def isSpace (c : Char) : Bool :=
  c == ' ' || c == '\t'

/-- Skip the blanks within a line. -/
def skipSpace (s : List Char) : List Char :=
  s.dropWhile isSpace

/-- The characters that may stand in comments and strings: no control characters but the tab. -/
def isAllowed (c : Char) : Bool :=
  c == '\t' || (0x20 ≤ c.toNat && c != '\x7f')

/-- What follows the end of a line that comes next. -/
def lineEnd? : List Char → Option (List Char)
  | '\n' :: s | '\r' :: '\n' :: s => some s
  | _ => none

/-- Skip a comment that comes next. -/
def skipComment : List Char → List Char
  | '#' :: s => s.dropWhile isAllowed
  | s => s

/-- What follows the line, if nothing but blanks and a comment is left of it. -/
def finishLine? (s : List Char) : Option (List Char) :=
  match skipComment (skipSpace s) with
  | [] => some []
  | s => lineEnd? s

/-- Skip blanks, comments and line ends. `fuel` bounds the lines. -/
def skipGap : Nat → List Char → List Char
  | 0, s => s
  | fuel + 1, s =>
    let s := skipComment (skipSpace s)
    match lineEnd? s with
    | some s => skipGap fuel s
    | none => s

/-! ### Strings -/

/-- A character by its number in `n` hexadecimal digits. -/
def numbered? (n : Nat) (s : List Char) : Option (Char × List Char) :=
  ((if (s.take n).length = n then Decimal.readDigits? 16 (s.take n) else none).filter
    Nat.isValidChar).map fun code => (Char.ofNat code, s.drop n)

/-- The character that is written behind a backslash. -/
def escaped? : List Char → Option (Char × List Char)
  | 'b' :: s => some ('\x08', s)
  | 't' :: s => some ('\t', s)
  | 'n' :: s => some ('\n', s)
  | 'f' :: s => some ('\x0c', s)
  | 'r' :: s => some ('\r', s)
  | 'e' :: s => some ('\x1b', s)
  | '"' :: s => some ('"', s)
  | '\\' :: s => some ('\\', s)
  | 'x' :: s => numbered? 2 s
  | 'u' :: s => numbered? 4 s
  | 'U' :: s => numbered? 8 s
  | _ => none

/-- The rest of a string on one line. In a string between double quotes a backslash has a meaning.
`fuel` bounds the characters. -/
def stringRest? (quote : Char) : Nat → List Char → Option (List Char × List Char)
  | 0, _ => none
  | _, [] => none
  | fuel + 1, c :: s =>
    if c = quote then some ([], s)
    else if c = '\\' ∧ quote = '"' then do
      let (c, s) ← escaped? s
      let (rest, s) ← stringRest? quote fuel s
      return (c :: rest, s)
    else if isAllowed c then do
      let (rest, s) ← stringRest? quote fuel s
      return (c :: rest, s)
    else none

/-- What follows a line end that a backslash hides, together with the blanks and line ends behind
it. -/
def hiddenLineEnd? (s : List Char) : Option (List Char) :=
  (lineEnd? (skipSpace s)).map fun s =>
    s.dropWhile fun c => isSpace c || c == '\n' || c == '\r'

/-- The rest of a string that may go over several lines. Three quotes end it, and up to two more
quotes in front of them belong to it. `fuel` bounds the characters. -/
def longStringRest? (quote : Char) : Nat → List Char → Option (List Char × List Char)
  | 0, _ => none
  | _, [] => none
  | fuel + 1, c :: s =>
    if c = quote then
      let quotes := (c :: s).takeWhile (· == quote)
      let after := s.dropWhile (· == quote)
      if 5 < quotes.length then none
      else if 3 ≤ quotes.length then some (quotes.drop 3, after)
      else do
        let (rest, s) ← longStringRest? quote fuel after
        return (quotes ++ rest, s)
    else if c = '\\' ∧ quote = '"' then
      match hiddenLineEnd? s with
      | some s => longStringRest? quote fuel s
      | none => do
        let (c, s) ← escaped? s
        let (rest, s) ← longStringRest? quote fuel s
        return (c :: rest, s)
    else if isAllowed c ∨ (lineEnd? (c :: s)).isSome then do
      let (rest, s) ← longStringRest? quote fuel s
      return (c :: rest, s)
    else none

/-- A string of several lines, behind its opening quotes. A line end that comes first is not part of
it. -/
def longString? (quote : Char) (s : List Char) : Option (List Char × List Char) :=
  longStringRest? quote (s.length + 1) ((lineEnd? s).getD s)

/-- A string, if a quote comes next. -/
def string? : List Char → Option (List Char × List Char)
  | '"' :: '"' :: '"' :: s => longString? '"' s
  | '\'' :: '\'' :: '\'' :: s => longString? '\'' s
  | '"' :: s => stringRest? '"' (s.length + 1) s
  | '\'' :: s => stringRest? '\'' (s.length + 1) s
  | _ => none

/-! ### Keys -/

/-- The characters of names that are written without quotes. -/
def isNameChar (c : Char) : Bool :=
  let n := c.toNat
  (0x30 ≤ n && n ≤ 0x39) || (0x41 ≤ n && n ≤ 0x5A) || (0x61 ≤ n && n ≤ 0x7A) || c == '_' || c == '-'

/-- One name of a key. -/
def name? (s : List Char) : Option (String × List Char) :=
  match s with
  | '"' :: '"' :: '"' :: _ | '\'' :: '\'' :: '\'' :: _ => none
  | '"' :: _ | '\'' :: _ => (string? s).map fun (name, s) => (String.ofList name, s)
  | s =>
    let name := s.takeWhile isNameChar
    if name.isEmpty then none else some (String.ofList name, s.dropWhile isNameChar)

/-- The names of a key: the path to it, and its own name. `fuel` bounds the names. -/
def names? : Nat → List Char → Option ((List String × String) × List Char)
  | 0, _ => none
  | fuel + 1, s => do
    let (name, s) ← name? (skipSpace s)
    match skipSpace s with
    | '.' :: s =>
      let ((path, last), s) ← names? fuel s
      return ((name :: path, last), s)
    | s => return (([], name), s)

/-- A key: the path to it, and its own name. -/
def key? (s : List Char) : Option ((List String × String) × List Char) :=
  (names? (s.length + 1) s).filter fun found => found.1.1.length < depthLimit

/-! ### Values -/

/-- Does the character end a value that is written without quotes? -/
def endsScalar (c : Char) : Bool :=
  isSpace c || [',', ']', '\x7d', '#', '=', '\n', '\r', '"', '\'', '[', '\x7b'].contains c

/-- A value without quotes. A date may be followed by a blank and a time. -/
def bareValue? (s : List Char) : Option (Value × List Char) :=
  let text := s.takeWhile fun c => !endsScalar c
  let rest := s.dropWhile fun c => !endsScalar c
  let time := (rest.drop 1).takeWhile fun c => !endsScalar c
  if rest.head? = some ' ' ∧ skipDate? text = some [] ∧ time.head?.any Decimal.isDigit = true then
    (scalar? (text ++ ' ' :: time)).map (·, (rest.drop 1).dropWhile fun c => !endsScalar c)
  else (scalar? text).map (·, rest)

mutual

/-- A value. `fuel` bounds the steps and `depth` the nesting that is left. -/
def value? : Nat → Nat → List Char → Option (Entry × List Char)
  | 0, _, _ => none
  | fuel + 1, depth, s =>
    match s with
    | '[' :: s =>
      if depth = 0 then none
      else do
        let (items, s) ← items? fuel (depth - 1) s
        return (.value (.array items), s)
    | '\x7b' :: s =>
      if depth = 0 then none
      else do
        let (t, s) ← members? fuel (depth - 1) (.empty .header) s
        return (.table .braces t.entries, s)
    | '"' :: _ | '\'' :: _ =>
      (string? s).map fun (text, s) => (.value (.string (String.ofList text)), s)
    | s => (bareValue? s).map fun (v, s) => (.value v, s)

/-- The items of a list, behind its bracket or a comma. -/
def items? : Nat → Nat → List Char → Option (List Value × List Char)
  | 0, _, _ => none
  | fuel + 1, depth, s =>
    match skipGap (s.length + 1) s with
    | ']' :: s => some ([], s)
    | s => do
      let (entry, s) ← value? fuel depth s
      match skipGap (s.length + 1) s with
      | ']' :: s => return ([entry.toValue], s)
      | ',' :: s =>
        let (rest, s) ← items? fuel depth s
        return (entry.toValue :: rest, s)
      | _ => none

/-- A table with its further members, behind its brace or a comma. -/
def members? : Nat → Nat → Table → List Char → Option (Table × List Char)
  | 0, _, _, _ => none
  | fuel + 1, depth, t, s =>
    match skipGap (s.length + 1) s with
    | '\x7d' :: s => some (t, s)
    | s => do
      let (t, s) ← member? fuel depth t s
      match skipGap (s.length + 1) s with
      | '\x7d' :: s => return (t, s)
      | ',' :: s => members? fuel depth t s
      | _ => none

/-- A table with one more member: a key with its value. -/
def member? : Nat → Nat → Table → List Char → Option (Table × List Char)
  | 0, _, _, _ => none
  | fuel + 1, depth, t, s => do
    let ((path, name), s) ← key? s
    match skipGap (s.length + 1) s with
    | '=' :: s =>
      let (entry, s) ← value? fuel depth (skipGap (s.length + 1) s)
      let dotted := !path.isEmpty
      return (← t.change dotted (Table.add dotted name entry) path, s)
    | _ => none

end

/-! ### Lines -/

/-- The path in a header, up to the brackets that close it. -/
def header? (closing : List Char) (s : List Char) :
    Option ((List String × String) × List Char) := do
  let (path, s) ← key? s
  return (path, ← Text.dropFront? closing s)

/-- The table with everything that the lines add. `place` is the path of the last header. `fuel`
bounds the lines. -/
def lines? : Nat → List String → Table → List Char → Option Table
  | 0, _, _, _ => none
  | fuel + 1, place, t, s =>
    match skipSpace s with
    | [] => some t
    | '[' :: '[' :: s => do
      let ((path, name), s) ← header? [']', ']'] s
      lines? fuel (path ++ [name]) (← t.change false (Table.defineNext name) path) (← finishLine? s)
    | '[' :: s => do
      let ((path, name), s) ← header? [']'] s
      lines? fuel (path ++ [name]) (← t.change false (Table.define name) path) (← finishLine? s)
    | c :: s =>
      match finishLine? (c :: s) with
      | some s => lines? fuel place t s
      | none => do
        let s := c :: s
        let ((path, name), s) ← key? s
        match s with
        | '=' :: s =>
          let (entry, s) ← value? (s.length + 1) depthLimit (skipSpace s)
          let dotted := !path.isEmpty
          let act := Table.change dotted (Table.add dotted name entry) path
          lines? fuel place (← t.change false act place) (← finishLine? s)
        | _ => none

/-- The table that a text describes. A mark of byte order at the start is skipped. -/
def read? (s : List Char) : Option Value :=
  let s := match s with
    | '\ufeff' :: s => s
    | s => s
  (lines? (s.length + 1) [] (.empty .header) s).map Table.toValue

end ClusterTuning.Toml
