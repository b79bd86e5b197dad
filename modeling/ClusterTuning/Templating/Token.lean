import ClusterTuning.Templating.Fault
import ClusterTuning.Text.Blank
import ClusterTuning.Text.Pieces
import ClusterTuning.Decimal.Layout

/-!
# ClusterTuning.Templating.Token

**The tokens of a template.**

A template is text with tags: `{{ … }}` gives out an expression, `{% … %}` is a statement, and
`{# … #}` is a comment. A dash beside a delimiter takes the blanks on that side of the tag away, and
a plus sign in the same place does nothing. Between `{% raw %}` and `{% endraw %}` all is text.

What cannot be cut into tokens ends the list with a token for the fault. A reader of the tokens
thus meets the fault only when it gets there, after every error that comes before it.

## Main statement

* `scan_of_noTag` : text in which no tag starts is one token.
-/

namespace ClusterTuning.Templating

/-- The kinds of tags. -/
inductive Tag where
  /-- An expression that is given out. -/
  | expression
  /-- A statement. -/
  | statement
  /-- A comment. -/
  | comment
deriving DecidableEq, Repr, Inhabited

/-- A token. -/
inductive Token where
  /-- Text outside of tags. -/
  | text (s : List Char)
  /-- The start of a tag. -/
  | opens (tag : Tag)
  /-- The end of a tag. -/
  | closes (tag : Tag)
  /-- A word. -/
  | word (name : String)
  /-- A sign of one or two characters. -/
  | sign (s : String)
  /-- A string, without its quotes and escapes. -/
  | quoted (s : List Char)
  /-- An integer. -/
  | integer (n : Nat)
  /-- A number with a fraction or an exponent. -/
  | decimal (x : Double)
  /-- What follows is no token. -/
  | broken (fault : Fault)
deriving DecidableEq, Repr, Inhabited

/-! ### Text between tags -/

/-- The tag that starts with an opening brace before `c`. -/
def tagOf? (c : Char) : Option Tag :=
  if c = '{' then some .expression
  else if c = '%' then some .statement
  else if c = '#' then some .comment
  else none

/-- The text up to the first tag, and the tag with what follows its two characters. -/
def cutTag : List Char → List Char × Option (Tag × List Char)
  | [] => ([], none)
  | c :: s =>
    match c == '{', s with
    | true, d :: rest =>
      match tagOf? d with
      | some tag => ([], some (tag, rest))
      | none => let (before, found) := cutTag s; (c :: before, found)
    | _, _ => let (before, found) := cutTag s; (c :: before, found)

/-- Does no tag start in the text? -/
def noTag (s : List Char) : Bool :=
  (cutTag s).2.isNone

/-- What a character beside a delimiter asks for. -/
inductive Trim where
  /-- The blanks stay. -/
  | keep
  /-- The blanks on this side of the tag go away. -/
  | drop
deriving DecidableEq, Repr

/-- A dash or a plus sign at the start of text, and the rest. -/
def leadingTrim : List Char → Trim × List Char
  | '-' :: s => (.drop, s)
  | '+' :: s => (.keep, s)
  | s => (.keep, s)

/-- Drop the blanks at the start where that is asked for. -/
def Trim.applyStart (t : Trim) (s : List Char) : List Char :=
  if t = .drop then s.dropWhile Text.isBlank else s

/-- Drop the blanks at the end where that is asked for. -/
def Trim.applyEnd (t : Trim) (s : List Char) : List Char :=
  if t = .drop then Text.dropEndWhile Text.isBlank s else s

/-- Text as a token, where there is any. -/
def textToken (s : List Char) : List Token :=
  if s.isEmpty then [] else [.text s]

/-- The end of a statement tag of a single word: what it does to the text behind it, and that text.
The blanks inside the tag are ASCII. -/
def closeWord? (name : List Char) (s : List Char) : Option (Trim × List Char) :=
  let s := s.dropWhile Text.isAsciiBlank
  match Text.dropFront? name s with
  | none => none
  | some s =>
    let (trim, s) := leadingTrim (s.dropWhile Text.isAsciiBlank)
    (Text.dropFront? ['%', '}'] s).map fun rest => (trim, rest)

/-- Raw text up to the tag that ends it: the text, and what follows that tag. -/
def cutRaw (fuel : Nat) (before : List Char) (s : List Char) :
    Option (List Char × Trim × List Char) :=
  match fuel with
  | 0 => none
  | fuel + 1 =>
    match Text.cutAt ['{', '%'] s with
    | none => none
    | some (text, rest) =>
      let (trim, inner) := leadingTrim rest
      match closeWord? "endraw".toList inner with
      | some (after, tail) => some (trim.applyEnd (before ++ text), after, tail)
      | none => cutRaw fuel (before ++ text ++ ['{', '%']) rest

/-! ### Numbers -/

/-- The parts of a number that may come next. -/
inductive NumberPart where
  /-- Digits of another base than ten. -/
  | based
  /-- Digits before the point. -/
  | whole
  /-- Digits behind the point. -/
  | fraction
  /-- The sign of the exponent. -/
  | exponentSign
  /-- Digits of the exponent. -/
  | exponent
deriving DecidableEq, Repr

/-- The characters of a number, and the part it ends in. A point belongs to the number only if a
digit follows it; otherwise it asks for a member of the number. -/
def cutNumber (base : Nat) : NumberPart → List Char → NumberPart × List Char × List Char
  | part, [] => (part, [], [])
  | part, c :: s =>
    let next : Option NumberPart :=
      if c = '.' ∧ part = .whole ∧ s.head?.any Decimal.isDigit then some .fraction
      else if (c = 'e' ∨ c = 'E') ∧ (part = .whole ∨ part = .fraction) then some .exponentSign
      else if (c = '+' ∨ c = '-') ∧ part = .exponentSign then some .exponent
      else if Decimal.isDigit c then some (if part = .exponentSign then .exponent else part)
      else if base = 16 ∧ part = .based ∧ (Decimal.digitValue? 16 c).isSome then some part
      else if c = '_' then some part
      else none
    match next with
    | none => (part, [], c :: s)
    | some part =>
      let (last, taken, rest) := cutNumber base part s
      (last, c :: taken, rest)

/-- The base that a number announces by its first two characters. -/
def baseOf : List Char → Nat
  | '0' :: c :: _ =>
    if c = 'x' ∨ c = 'X' then 16 else if c = 'o' ∨ c = 'O' then 8
    else if c = 'b' ∨ c = 'B' then 2 else 10
  | _ => 10

/-- Read a number at the start of text. Underscores may stand between digits but not at the end, and
integers have at most 128 bits. -/
def cutNumberToken (s : List Char) : Token × List Char :=
  let base := baseOf s
  let start := if base = 10 then NumberPart.whole else .based
  let (part, taken, rest) := cutNumber base start (if base = 10 then s else s.drop 2)
  let digits := taken.filter fun c => c ≠ '_'
  if taken.getLast? = some '_' then (.broken .syntaxError, rest)
  else if part = .whole ∨ part = .based then
    match Decimal.readDigits? base digits with
    | some n => (if n < twoTo 128 then .integer n else .broken .syntaxError, rest)
    | none => (.broken .syntaxError, rest)
  else
    match Decimal.read? digits with
    | some x => (.decimal x, rest)
    | none => (.broken .syntaxError, rest)

/-! ### Strings -/

/-- The text up to the closing quote, with its escapes, and what follows the quote. -/
def cutQuoted (quote : Char) : List Char → Option (List Char × List Char)
  | [] => none
  | '\\' :: c :: s => (cutQuoted quote s).map fun (text, rest) => ('\\' :: c :: text, rest)
  | c :: s =>
    if c = quote then some ([], s)
    else (cutQuoted quote s).map fun (text, rest) => (c :: text, rest)

/-- The character that a letter behind a backslash stands for. -/
def letterEscape? (c : Char) : Option Char :=
  if c = '"' ∨ c = '\\' ∨ c = '/' ∨ c = '\'' then some c
  else if c = 'b' then some '\x08'
  else if c = 'f' then some '\x0c'
  else if c = 'n' then some '\n'
  else if c = 'r' then some '\r'
  else if c = 't' then some '\t'
  else none

/-- The number of hexadecimal digits, before which a plus sign may stand. -/
def hexNumber? : List Char → Option Nat
  | '+' :: digits => Decimal.readDigits? 16 digits
  | digits => Decimal.readDigits? 16 digits

/-- The digits of an escape by an octal number, at most three, and what follows them. -/
def cutOctal (s : List Char) : List Char × List Char :=
  let digits := (s.take 3).takeWhile fun c => (Decimal.digitValue? 8 c).isSome
  (digits, s.drop digits.length)

/-- What an escape stands for. -/
inductive Escape where
  /-- Text. -/
  | text (s : List Char)
  /-- A unit of sixteen bits. -/
  | unit (n : Nat)
deriving DecidableEq, Repr

/-- What the escape stands for that starts behind a backslash, and the rest. A character that no
escape starts with stands for itself, and the backslash stays. Numbers of two hexadecimal or three
octal digits are code points below 256. -/
def cutEscape? : List Char → Option (Escape × List Char)
  | [] => none
  | 'u' :: s => (hexNumber? (s.take 4)).bind fun n =>
    if 4 ≤ s.length then some (.unit n, s.drop 4) else none
  | 'x' :: s => (hexNumber? (s.take 2)).bind fun n =>
    if 2 ≤ s.length then some (.text [Char.ofNat n], s.drop 2) else none
  | c :: s =>
    match letterEscape? c, cutOctal (c :: s) with
    | some d, _ => some (.text [d], s)
    | none, ([], _) => some (.text ['\\', c], s)
    | none, (digits, rest) => (Decimal.readDigits? 8 digits).bind fun n =>
      if n < 256 then some (.text [Char.ofNat n], rest) else none

/-- Resolve the escapes of a string. Two units above the basic plane stand together for one
character. `high` is the first of two such units while the second is awaited. `fuel` bounds the
characters. -/
def unescape? : Nat → Option Nat → List Char → Option (List Char)
  | _, none, [] => some []
  | _, some _, [] => none
  | 0, _, _ :: _ => none
  | fuel + 1, high, c :: s =>
    if c = '\\' then
      match cutEscape? s, high with
      | none, _ => none
      | some (.unit n, rest), none =>
        if 0xD800 ≤ n ∧ n < 0xE000 then unescape? fuel (some n) rest
        else (unescape? fuel none rest).map (Char.ofNat n :: ·)
      | some (.unit n, rest), some h =>
        if h < 0xDC00 ∧ 0xDC00 ≤ n ∧ n < 0xE000 then
          let d := Char.ofNat (0x10000 + (h - 0xD800) * 0x400 + (n - 0xDC00))
          (unescape? fuel none rest).map (d :: ·)
        else none
      | some (.text t, rest), none => (unescape? fuel none rest).map (t ++ ·)
      | some (.text _, _), some _ => none
    else if high.isSome then none
    else (unescape? fuel none s).map (c :: ·)

/-- Read a string behind its opening quote. -/
def cutQuotedToken (quote : Char) (s : List Char) : Token × List Char :=
  match cutQuoted quote s with
  | none => (.broken .syntaxError, [])
  | some (text, rest) =>
    match unescape? text.length none text with
    | some text => (.quoted text, rest)
    | none => (.broken .badEscape, rest)

/-! ### Tokens inside a tag -/

/-- May a word start with the character? -/
def startsWord (c : Char) : Bool :=
  c.isAlpha || c == '_'

/-- May a word go on with the character? -/
def continuesWord (c : Char) : Bool :=
  c.isAlphanum || c == '_'

/-- The signs of two characters. -/
def doubleSigns : List String :=
  ["//", "**", "==", "!=", ">=", "<="]

/-- The signs of one character. -/
def singleSigns : List Char :=
  ['+', '-', '*', '/', '%', '.', ',', ':', '~', '|', '=', '>', '<', '(', ')', '[', ']', '\x7b',
    '\x7d']

/-- The change of the balance of brackets by a sign. -/
def balanceOf (c : Char) : Int :=
  if c = '(' ∨ c = '[' ∨ c = '\x7b' then 1
  else if c = ')' ∨ c = ']' ∨ c = '\x7d' then -1
  else 0

/-- The token at the start of a text that does not start with a blank, the rest, and the change of
the balance of brackets. -/
def cutToken : List Char → Token × List Char × Int
  | [] => (.broken .syntaxError, [], 0)
  | c :: s =>
    let double := String.ofList (c :: s.take 1)
    if doubleSigns.contains double then (.sign double, s.drop 1, 0)
    else if singleSigns.contains c then (.sign (String.singleton c), s, balanceOf c)
    else if c = '\'' ∨ c = '"' then
      let (token, rest) := cutQuotedToken c s
      (token, rest, 0)
    else if Decimal.isDigit c then
      let (token, rest) := cutNumberToken (c :: s)
      (token, rest, 0)
    else if startsWord c then
      (.word (String.ofList (c :: s.takeWhile continuesWord)), s.dropWhile continuesWord, 0)
    else (.broken .syntaxError, s, 0)

/-- The end of a tag at the start of text. -/
def closeTag? (tag : Tag) (s : List Char) : Option (Trim × List Char) :=
  let close := if tag = .statement then ['%', '}'] else ['}', '}']
  match Text.dropFront? close s with
  | some rest => some (.keep, rest)
  | none =>
    match s with
    | '-' :: s => (Text.dropFront? close s).map fun rest => (.drop, rest)
    | '+' :: s => (Text.dropFront? close s).map fun rest => (.keep, rest)
    | _ => none

/-- Where the scan stands: outside of tags, or in a tag between brackets of the given balance. -/
inductive Place where
  /-- Outside of tags, where the blanks may have to go away. -/
  | outside (trim : Trim)
  /-- Inside of a tag. A tag ends only where its brackets are closed. -/
  | inside (tag : Tag) (balance : Int)
deriving Repr

/-- Cut text into tokens. `fuel` bounds the steps; each takes a character or changes the place. -/
def scan : Nat → Place → List Char → List Token
  | 0, _, _ => []
  | _ + 1, _, [] => []
  | fuel + 1, .outside trim, c :: s =>
    match cutTag (trim.applyStart (c :: s)) with
    | (text, none) => textToken text
    | (text, some (tag, rest)) =>
      let (before, rest) := leadingTrim rest
      let tokens := match tag with
        | .comment =>
          match Text.cutAt ['#', '}'] rest with
          | none => [.broken .syntaxError]
          | some (body, tail) =>
            scan fuel (.outside (if body.getLast? = some '-' then .drop else .keep)) tail
        | .expression => .opens tag :: scan fuel (.inside tag 0) rest
        | .statement =>
          match closeWord? "raw".toList rest with
          | none => .opens tag :: scan fuel (.inside tag 0) rest
          | some (first, inner) =>
            match cutRaw (inner.length + 1) [] inner with
            | none => [.broken .syntaxError]
            | some (raw, after, tail) =>
              textToken (first.applyStart raw) ++ scan fuel (.outside after) tail
      textToken (before.applyEnd text) ++ tokens
  | fuel + 1, .inside tag balance, c :: s =>
    if Text.isAsciiBlank c then scan fuel (.inside tag balance) s
    else
      let close := if balance = 0 then closeTag? tag (c :: s) else none
      match close with
      | some (after, rest) => .closes tag :: scan fuel (.outside after) rest
      | none =>
        match cutToken (c :: s) with
        | (.broken fault, _, _) => [.broken fault]
        | (token, rest, change) => token :: scan fuel (.inside tag (balance + change)) rest

/-- The text without one line break at its end. -/
def withoutLastBreak (s : List Char) : List Char :=
  match s.reverse with
  | '\n' :: '\r' :: r => r.reverse
  | '\n' :: r => r.reverse
  | '\r' :: r => r.reverse
  | r => r.reverse

/-- The tokens of a template. -/
def tokensOf (s : List Char) : List Token :=
  scan (2 * s.length + 2) (.outside .keep) (withoutLastBreak s)

/-- The tokens of an expression that stands for itself, without a tag around it. -/
def expressionTokensOf (s : List Char) : List Token :=
  scan (2 * s.length + 2) (.inside .expression 0) (withoutLastBreak s)

theorem cutTag_fst_of_noTag {s : List Char} (h : noTag s = true) : (cutTag s).1 = s := by
  induction s with
  | nil => rfl
  | cons c s ih =>
    simp only [noTag, cutTag] at h ⊢
    split at h
    · split at h
      · simp at h
      · simp_all [noTag]
    · simp_all [noTag]

/-- Text in which no tag starts is one token. -/
theorem scan_of_noTag {s : List Char} (fuel : Nat) (h : noTag s = true) :
    scan (fuel + 1) (.outside .keep) s = textToken s := by
  cases s with
  | nil => rfl
  | cons c s =>
    have text := cutTag_fst_of_noTag h
    simp only [noTag, Option.isNone_iff_eq_none] at h
    simp only [scan, Trim.applyStart]
    generalize hcut : cutTag (c :: s) = cut at text h
    obtain ⟨before, found⟩ := cut
    simp only at text h
    subst text
    subst h
    simp [hcut]

end ClusterTuning.Templating
