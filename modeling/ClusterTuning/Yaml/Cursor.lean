import ClusterTuning.Text.Pieces

/-!
# ClusterTuning.Yaml.Cursor

**A place in YAML text, and the character classes that its syntax rests on.**

Block structure depends on columns, and an implicit key has to fit one line of limited length, so a
place is the text still to be read together with its line, its column and its index.
-/

namespace ClusterTuning.Yaml

/-- The characters that end a line. -/
def isBreak (c : Char) : Bool :=
  c == '\n' || c == '\r' || c == '\x85' || c == '\u2028' || c == '\u2029'

/-- The characters that separate within a line. -/
def isSpace (c : Char) : Bool :=
  c == ' ' || c == '\t'

/-- Does the character separate, within a line or between lines? -/
def isGap (c : Char) : Bool :=
  isSpace c || isBreak c

/-- Does a separator or the end come next? -/
def gapNext : List Char → Bool
  | [] => true
  | c :: _ => isGap c

/-- Does a line break or the end come next? -/
def breakNext : List Char → Bool
  | [] => true
  | c :: _ => isBreak c

/-- The characters of anchors, handles and directive names. -/
def isWordChar (c : Char) : Bool :=
  let n := c.toNat
  (0x30 ≤ n && n ≤ 0x39) || (0x41 ≤ n && n ≤ 0x5A) || (0x61 ≤ n && n ≤ 0x7A) || c == '_' || c == '-'

/-- The characters that may stand in YAML text: no control characters but tab, line feed, carriage
return and next line, and no noncharacters at the end of the first plane. -/
def isAllowed (c : Char) : Bool :=
  let n := c.toNat
  n == 9 || n == 10 || n == 13 || (0x20 ≤ n && n ≤ 0x7E) || n == 0x85 ||
    (0xA0 ≤ n && n ≤ 0xD7FF) || (0xE000 ≤ n && n ≤ 0xFFFD) || 0x10000 ≤ n

/-- Is `c` one of the characters of `set`? -/
def isOneOf (set : String) (c : Char) : Bool :=
  set.toList.contains c

/-- A place in a text. -/
structure Cursor where
  /-- The text from here on. -/
  rest : List Char
  /-- The number of lines before this one. -/
  line : Nat
  /-- The number of characters before this one in its line. -/
  column : Nat
  /-- The number of characters before this one. -/
  index : Nat
deriving Inhabited

namespace Cursor

/-- The start of a text. -/
def ofText (s : List Char) : Cursor :=
  ⟨s, 0, 0, 0⟩

/-- The place one character later. -/
def next (at_ : Cursor) : Cursor :=
  { at_ with rest := at_.rest.tail, column := at_.column + 1, index := at_.index + 1 }

/-- The place `n` characters later. -/
def skip : Nat → Cursor → Cursor
  | 0, at_ => at_
  | n + 1, at_ => skip n at_.next

/-- The line break here and the place behind it. A carriage return and a line feed are one break,
and every break is read as a line feed, except for the line and paragraph separators, which are read
as themselves. -/
def takeBreak (at_ : Cursor) : List Char × Cursor :=
  match at_.rest with
  | '\r' :: '\n' :: rest => (['\n'], ⟨rest, at_.line + 1, 0, at_.index + 2⟩)
  | c :: rest =>
    if isBreak c then
      let kept := if c = '\u2028' ∨ c = '\u2029' then c else '\n'
      ([kept], ⟨rest, at_.line + 1, 0, at_.index + 1⟩)
    else ([], at_)
  | [] => ([], at_)

/-- The place behind the line break here. -/
def skipBreak (at_ : Cursor) : Cursor :=
  at_.takeBreak.2

/-- The characters from here on that lie in `p`, and the place behind them. -/
def takeWhile (p : Char → Bool) (at_ : Cursor) : List Char × Cursor :=
  let taken := at_.rest.takeWhile p
  (taken, ⟨at_.rest.dropWhile p, at_.line, at_.column + taken.length, at_.index + taken.length⟩)

/-- The place behind the characters in `p`. -/
def skipWhile (p : Char → Bool) (at_ : Cursor) : Cursor :=
  (at_.takeWhile p).2

/-- Does a mark of document start or end stand here, at the start of a line? -/
def atDocumentMark (at_ : Cursor) : Bool :=
  at_.column == 0 &&
    match at_.rest with
    | a :: b :: c :: rest => a == b && b == c && (a == '-' || a == '.') && gapNext rest
    | _ => false

/-- The place behind the blanks and the comment that end a line, if nothing else ends it. -/
def skipLineEnd? (at_ : Cursor) : Option Cursor :=
  let at_ := at_.skipWhile isSpace
  let at_ := match at_.rest with
    | '#' :: _ => at_.skipWhile fun c => !isBreak c
    | _ => at_
  if breakNext at_.rest then some at_.skipBreak else none

end Cursor

end ClusterTuning.Yaml
