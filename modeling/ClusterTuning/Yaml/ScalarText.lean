import ClusterTuning.Yaml.Cursor
import ClusterTuning.Decimal.Layout

/-!
# ClusterTuning.Yaml.ScalarText

**The text of scalars, in each style in which YAML writes them.**

All styles fold lines in the same way: a single line break between two lines of text becomes a
space, and of several breaks all but the first are kept. They differ in what ends the text and in
which escapes they know.

Every scan takes a bound on its steps; the length of the text is enough, since each step consumes at
least one character.
-/

namespace ClusterTuning.Yaml

/-- A gap between two parts of a text. -/
structure Gap where
  /-- The blanks, when the gap stays within its line. -/
  blanks : List Char
  /-- The first line break. -/
  firstBreak : List Char
  /-- The further line breaks. -/
  moreBreaks : List Char
  /-- Does the gap span lines? -/
  multiline : Bool

namespace Gap

/-- No gap yet. -/
def none : Gap := ⟨[], [], [], false⟩

/-- What stands for the gap in the text. -/
def fold (gap : Gap) : List Char :=
  if gap.multiline then
    match gap.firstBreak with
    | '\n' :: _ => if gap.moreBreaks.isEmpty then [' '] else gap.moreBreaks
    | first => first ++ gap.moreBreaks
  else gap.blanks

/-- Read a gap. A tab in the indentation of a further line is refused below column `indent`. -/
def take (indent : Int) : Nat → Gap → Cursor → Option (Gap × Cursor)
  | 0, gap, at_ => some (gap, at_)
  | fuel + 1, gap, at_ =>
    match at_.rest with
    | [] => some (gap, at_)
    | c :: _ =>
      if isSpace c then
        if gap.multiline && c == '\t' && decide ((at_.column : Int) < indent) then Option.none
        else if gap.multiline then take indent fuel gap at_.next
        else take indent fuel { gap with blanks := gap.blanks ++ [c] } at_.next
      else if isBreak c then
        let (text, behind) := at_.takeBreak
        if gap.multiline then
          take indent fuel { gap with moreBreaks := gap.moreBreaks ++ text } behind
        else take indent fuel ⟨[], text, [], true⟩ behind
      else some (gap, at_)

end Gap

/-! ### Plain scalars -/

/-- The unbroken run of a plain scalar. In a flow collection the indicators of the collection end
it, and a colon that touches one of them is refused. -/
def plainRun (flow : Bool) : List Char → Option (List Char)
  | [] => some []
  | c :: rest =>
    if isGap c then some []
    else if flow && c == ':' && rest.head?.any (isOneOf ",?[]\x7b\x7d") then none
    else if (c == ':' && gapNext rest) || (flow && isOneOf ",[]\x7b\x7d" c) then some []
    else (plainRun flow rest).map (c :: ·)

/-- The rest of a plain scalar behind the gap `gap`, whether the scalar ended in a gap that spans
lines, and the place behind it. Lines have to be indented to column `indent` outside of flow
collections. -/
def plainRest (flow : Bool) (indent : Int) :
    Nat → Gap → Cursor → Option (List Char × Bool × Cursor)
  | 0, gap, at_ => some ([], gap.multiline, at_)
  | fuel + 1, gap, at_ =>
    if at_.atDocumentMark || at_.rest.head? == some '#' then some ([], gap.multiline, at_)
    else
      match plainRun flow at_.rest with
      | none => none
      | some run =>
        let behind := at_.skip run.length
        let text := if run.isEmpty then [] else gap.fold ++ run
        let gap := if run.isEmpty then gap else Gap.none
        if !(behind.rest.head?.any isGap) then some (text, gap.multiline, behind)
        else
          let room := behind.rest.length + 1
          match Gap.take indent room gap behind with
          | none => none
          | some (gap, behind) =>
            if !flow && decide ((behind.column : Int) < indent) then
              some (text, gap.multiline, behind)
            else
              (plainRest flow indent fuel gap behind).map fun (more, last) => (text ++ more, last)

/-- A plain scalar. -/
def plainText (flow : Bool) (indent : Int) (at_ : Cursor) : Option (List Char × Bool × Cursor) :=
  plainRest flow indent (at_.rest.length + 1) Gap.none at_

/-! ### Quoted scalars -/

/-- The character of an escape by a single letter. -/
def escapedChar? (c : Char) : Option Char :=
  match c with
  | '0' => some (Char.ofNat 0)
  | 'a' => some '\x07'
  | 'b' => some '\x08'
  | 't' => some '\t'
  | '\t' => some '\t'
  | 'n' => some '\n'
  | 'v' => some '\x0b'
  | 'f' => some '\x0c'
  | 'r' => some '\r'
  | 'e' => some '\x1b'
  | ' ' => some ' '
  | '"' => some '"'
  | '/' => some '/'
  | '\\' => some '\\'
  | 'N' => some '\x85'
  | '_' => some '\xa0'
  | 'L' => some '\u2028'
  | 'P' => some '\u2029'
  | _ => none

/-- How many hexadecimal digits an escape by code point takes. -/
def escapeWidth? (c : Char) : Option Nat :=
  match c with
  | 'x' => some 2
  | 'u' => some 4
  | 'U' => some 8
  | _ => none

/-- An escape in double quotes, from behind its backslash: its character and the place behind. -/
def takeEscape (at_ : Cursor) : Option (Char × Cursor) :=
  match at_.rest with
  | [] => none
  | c :: rest =>
    match escapeWidth? c with
    | none => (escapedChar? c).map fun d => (d, at_.next)
    | some width =>
      let digits := rest.take width
      match Decimal.readDigits? 16 digits with
      | none => none
      | some code =>
        if digits.length ≠ width ∨ (0xD800 ≤ code ∧ code ≤ 0xDFFF) ∨ 0x10FFFF < code then none
        else some (Char.ofNat code, at_.skip (width + 1))

/-- The unbroken run of a quoted scalar, whether it ended in an escaped line break, and the place
behind it. -/
def quotedRun (single : Bool) : Nat → Cursor → Option (List Char × Bool × Cursor)
  | 0, at_ => some ([], false, at_)
  | fuel + 1, at_ =>
    match at_.rest with
    | [] => some ([], false, at_)
    | c :: rest =>
      if isGap c then some ([], false, at_)
      else if single then
        if c == '\'' then
          if rest.head? == some '\'' then
            (quotedRun single fuel (at_.skip 2)).map fun (more, last) => ('\'' :: more, last)
          else some ([], false, at_)
        else (quotedRun single fuel at_.next).map fun (more, last) => (c :: more, last)
      else if c == '"' then some ([], false, at_)
      else if c == '\\' then
        if rest.head?.any isBreak then some ([], true, at_.next.skipBreak)
        else
          match takeEscape at_.next with
          | none => none
          | some (d, behind) =>
            (quotedRun single fuel behind).map fun (more, last) => (d :: more, last)
      else (quotedRun single fuel at_.next).map fun (more, last) => (c :: more, last)

/-- The rest of a quoted scalar behind the gap `gap`, and the place behind its closing quote. -/
def quotedRest (single : Bool) : Nat → Gap → Cursor → Option (List Char × Cursor)
  | 0, _, _ => none
  | fuel + 1, gap, at_ =>
    if at_.atDocumentMark || at_.rest.isEmpty then none
    else
      match quotedRun single (at_.rest.length + 1) at_ with
      | none => none
      | some (run, escapedBreak, behind) =>
        let text := gap.fold ++ run
        if behind.rest.head? == some (if single then '\'' else '"') then some (text, behind.next)
        else
          let start := { Gap.none with multiline := escapedBreak }
          match Gap.take 0 (behind.rest.length + 1) start behind with
          | none => none
          | some (gap, behind) =>
            (quotedRest single fuel gap behind).map fun (more, last) => (text ++ more, last)

/-- A quoted scalar, from behind its opening quote. -/
def quotedText (single : Bool) (at_ : Cursor) : Option (List Char × Cursor) :=
  quotedRest single (at_.rest.length + 1) Gap.none at_

/-! ### Block scalars -/

/-- What a block scalar does with the line breaks at its end. -/
inductive Chomping where
  /-- Drop all of them. -/
  | strip
  /-- Keep one. -/
  | clip
  /-- Keep all. -/
  | keep
deriving DecidableEq

/-- The chomping mark at the start, and what follows. -/
def takeChomping (at_ : Cursor) : Option Chomping × Cursor :=
  match at_.rest with
  | '+' :: _ => (some .keep, at_.next)
  | '-' :: _ => (some .strip, at_.next)
  | _ => (none, at_)

/-- The indentation digit at the start, which is not zero, and what follows. -/
def takeIndentDigit (at_ : Cursor) : Option (Option Nat × Cursor) :=
  match at_.rest with
  | c :: _ =>
    if c == '0' then none
    else if Decimal.isDigit c then some (Decimal.digitValue? 10 c, at_.next)
    else some (none, at_)
  | [] => some (none, at_)

/-- The header of a block scalar, from behind its indicator: chomping and indentation in either
order, and then nothing but a comment. -/
def takeBlockHeader (at_ : Cursor) : Option (Chomping × Option Nat × Cursor) :=
  let (first, behind) := takeChomping at_
  match takeIndentDigit behind with
  | none => none
  | some (digit, behind) =>
    let (second, behind) := match first, digit with
      | none, some _ => takeChomping behind
      | _, _ => (none, behind)
    (behind.skipLineEnd?).map fun behind =>
      ((first.orElse fun _ => second).getD .clip, digit, behind)

/-- The empty lines before a line of a block scalar: their breaks, the greatest column that a run of
spaces reached, and the place of the first character that is no indentation. With `indent` zero the
indentation is not yet known. -/
def takeEmptyLines (indent : Nat) : Nat → Nat → Cursor → Option (List Char × Nat × Cursor)
  | 0, widest, at_ => some ([], widest, at_)
  | fuel + 1, widest, at_ =>
    match at_.rest with
    | [] => some ([], max widest at_.column, at_)
    | c :: _ =>
      if (indent == 0 || at_.column < indent) && c == ' ' then
        takeEmptyLines indent fuel widest at_.next
      else if (indent == 0 || at_.column < indent) && c == '\t' then none
      else if isBreak c then
        let (text, behind) := at_.takeBreak
        (takeEmptyLines indent fuel (max widest at_.column) behind).map fun (more, last) =>
          (text ++ more, last)
      else some ([], max widest at_.column, at_)

/-- The state between two lines of a block scalar. -/
structure BlockLines where
  /-- The text so far, without the breaks behind the last line. -/
  text : List Char
  /-- The break that ended the last line. -/
  lineBreak : List Char
  /-- The breaks of the empty lines since. -/
  emptyLines : List Char
  /-- Did the last line start with a blank? -/
  afterBlank : Bool

/-- The lines of a block scalar at column `indent`. Between two lines that both start with text a
folded scalar has a space in place of a single break. -/
def blockLines (literal : Bool) (indent : Nat) :
    Nat → BlockLines → Cursor → Option (BlockLines × Cursor)
  | 0, lines, at_ => some (lines, at_)
  | fuel + 1, lines, at_ =>
    if at_.column ≠ indent ∨ at_.rest.isEmpty then some (lines, at_)
    else
      let blank := at_.rest.head?.any isSpace
      let folds := !literal && lines.lineBreak.head? == some '\n' && !lines.afterBlank && !blank
      let joint :=
        if folds then (if lines.emptyLines.isEmpty then [' '] else lines.emptyLines)
        else lines.lineBreak ++ lines.emptyLines
      let (line, behind) := at_.takeWhile fun c => !isBreak c
      let (lineBreak, behind) := behind.takeBreak
      match takeEmptyLines indent (behind.rest.length + 1) 0 behind with
      | none => none
      | some (emptyLines, _, behind) =>
        blockLines literal indent fuel ⟨lines.text ++ joint ++ line, lineBreak, emptyLines, blank⟩
          behind

/-- A block scalar, from behind its indicator, inside a block at column `parent`. Without an
indentation digit the first line with text decides. -/
def blockText (literal : Bool) (parent : Int) (at_ : Cursor) : Option (List Char × Cursor) :=
  match takeBlockHeader at_ with
  | none => none
  | some (chomping, digit, behind) =>
    let given := match digit with
      | none => 0
      | some n => (if 0 ≤ parent then parent.toNat + n else n)
    match takeEmptyLines given (behind.rest.length + 1) 0 behind with
    | none => none
    | some (emptyLines, widest, behind) =>
      let indent := if given = 0 then max widest (max (parent + 1).toNat 1) else given
      let fuel := behind.rest.length + 1
      match blockLines literal indent fuel ⟨[], [], emptyLines, false⟩ behind with
      | none => none
      | some (lines, behind) =>
        let ending := match chomping with
          | .strip => []
          | .clip => lines.lineBreak
          | .keep => lines.lineBreak ++ lines.emptyLines
        some (lines.text ++ ending, behind)

end ClusterTuning.Yaml
