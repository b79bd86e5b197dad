import ClusterTuning.Yaml.ScalarText
import ClusterTuning.Yaml.Property

/-!
# ClusterTuning.Yaml.Token

**YAML text as tokens.**

Indentation and implicit keys are decided here, so that the grammar over tokens is free of columns:
a block that starts or ends at some column has its own tokens, and a key that is only known to be
one when its colon is met gets its mark inserted in front of it.

A key that may still turn out to be one is *pending*. There is at most one for each level of flow
collections, it has to lie on one line and within 1024 characters of its colon, and it is required
where the block gives no other choice.

Scanning never fails as a whole: the tokens before a malformed place are kept, since they may belong
to earlier documents, and `malformed` ends them. A token is only kept when it is settled, which it is
not from a pending key on.
-/

namespace ClusterTuning.Yaml

/-- The styles of scalars, as far as the reading of their text depends on them. -/
inductive Style where
  /-- Without any mark. -/
  | plain
  /-- A literal block. -/
  | literal
  /-- In quotes, or a folded block. -/
  | other
deriving DecidableEq, Repr, Inhabited

/-- The tokens of YAML. -/
inductive Token where
  /-- The end of the text. -/
  | streamEnd
  /-- A place that no token can be read from. -/
  | malformed
  /-- A directive. -/
  | directive (d : Directive)
  /-- Three dashes. -/
  | documentStart
  /-- Three points. -/
  | documentEnd
  /-- A block sequence begins. -/
  | blockSequenceStart
  /-- A block mapping begins. -/
  | blockMappingStart
  /-- A block ends. -/
  | blockEnd
  /-- An opening square bracket. -/
  | flowSequenceStart
  /-- A closing square bracket. -/
  | flowSequenceEnd
  /-- An opening brace. -/
  | flowMappingStart
  /-- A closing brace. -/
  | flowMappingEnd
  /-- The dash of a block sequence. -/
  | blockEntry
  /-- A comma in a flow collection. -/
  | flowEntry
  /-- A key follows. -/
  | key
  /-- A value follows. -/
  | value
  /-- A reference to an anchor. -/
  | alias (name : List Char)
  /-- The name of the node that follows. -/
  | anchor (name : List Char)
  /-- The tag of the node that follows. -/
  | tag (t : WrittenTag)
  /-- A scalar. -/
  | scalar (text : List Char) (style : Style)
deriving DecidableEq, Repr, Inhabited

/-- A place at which an implicit key may have begun. -/
structure PendingKey where
  /-- The number of tokens in front of it. -/
  number : Nat
  /-- Does the block leave no other choice? -/
  required : Bool
  /-- The line. -/
  line : Nat
  /-- The column. -/
  column : Nat
  /-- The index. -/
  index : Nat

/-- The state of a scan. -/
structure Scan where
  /-- The place reached. -/
  at_ : Cursor
  /-- The tokens so far. -/
  tokens : Array Token
  /-- The pending keys of the flow collections around this place, innermost first. -/
  flowKeys : List (Option PendingKey)
  /-- The pending key of the block around them. -/
  blockKey : Option PendingKey
  /-- The column of the innermost block, or `-1`. -/
  indent : Int
  /-- The columns of the blocks around it, innermost first. -/
  outerIndents : List Int
  /-- May an implicit key begin here? -/
  keyAllowed : Bool

namespace Scan

/-- The start of a scan. -/
def ofText (s : List Char) : Scan :=
  ⟨Cursor.ofText s, #[], [], none, -1, [], true⟩

/-- Is the place inside a flow collection? -/
def inFlow (s : Scan) : Bool :=
  !s.flowKeys.isEmpty

/-- The pending key of the innermost level. -/
def pending (s : Scan) : Option PendingKey :=
  match s.flowKeys with
  | [] => s.blockKey
  | k :: _ => k

/-- Replace the pending key of the innermost level. -/
def setPending (k : Option PendingKey) (s : Scan) : Scan :=
  match s.flowKeys with
  | [] => { s with blockKey := k }
  | _ :: rest => { s with flowKeys := k :: rest }

/-- Append a token. -/
def push (t : Token) (s : Scan) : Scan :=
  { s with tokens := s.tokens.push t }

/-- Move to another place. -/
def moveTo (at_ : Cursor) (s : Scan) : Scan :=
  { s with at_ := at_ }

/-- Say whether an implicit key may begin next. -/
def allow (b : Bool) (s : Scan) : Scan :=
  { s with keyAllowed := b }

/-- Give the pending key up. A required one cannot be given up. -/
def dropPending? (s : Scan) : Option Scan :=
  match s.pending with
  | some k => if k.required then none else some (s.setPending none)
  | none => some s

/-- Note that an implicit key may begin here. -/
def notePending? (s : Scan) : Option Scan :=
  if s.keyAllowed then
    let required := !s.inFlow && s.indent == (s.at_.column : Int)
    s.dropPending?.map fun s =>
      s.setPending (some ⟨s.tokens.size, required, s.at_.line, s.at_.column, s.at_.index⟩)
  else some s

/-- Has the place moved too far from a pending key? -/
def isStale (s : Scan) (k : PendingKey) : Bool :=
  Nat.blt k.line s.at_.line || Nat.blt (k.index + 1024) s.at_.index

/-- Give up a key from which the place has moved too far, unless it is required. -/
def refresh? (s : Scan) : Option PendingKey → Option (Option PendingKey)
  | none => some none
  | some k => if s.isStale k then (if k.required then none else some none) else some (some k)

/-- Give up all keys from which the place has moved too far. -/
def dropStale? (s : Scan) : Option Scan :=
  match s.flowKeys.mapM s.refresh?, s.refresh? s.blockKey with
  | some flowKeys, some blockKey => some { s with flowKeys := flowKeys, blockKey := blockKey }
  | _, _ => none

/-- Begin a block at a column that is further right than the one around it, with its token at the
given place or at the end. -/
def rollIndent (column : Nat) (number : Option Nat) (t : Token) (s : Scan) : Scan :=
  if !s.inFlow && decide (s.indent < (column : Int)) then
    let tokens := match number with
      | some n => s.tokens.insertIdxIfInBounds n t
      | none => s.tokens.push t
    { s with tokens := tokens, indent := column, outerIndents := s.indent :: s.outerIndents }
  else s

/-- End the blocks that begin right of a column. -/
def unrollTo (column : Int) (indent : Int) : List Int → Scan → Scan
  | [], s => { s with indent := indent, outerIndents := [] }
  | outer :: rest, s =>
    if column < indent then unrollTo column outer rest (s.push .blockEnd)
    else { s with indent := indent, outerIndents := outer :: rest }

/-- End the blocks that begin right of a column. Flow collections do not depend on columns. -/
def unrollIndent (column : Int) (s : Scan) : Scan :=
  if s.inFlow then s else unrollTo column s.indent s.outerIndents s

/-- Skip blanks, comments and line breaks in front of a token. Tabs are skipped where no block
structure depends on them, and a byte order mark only at the start of the text. -/
def skipGaps : Nat → Scan → Scan
  | 0, s => s
  | fuel + 1, s =>
    let at_ := if s.at_.index == 0 && s.at_.rest.head? == some '\uFEFF' then s.at_.next else s.at_
    let tabs := s.inFlow || !s.keyAllowed
    let at_ := at_.skipWhile fun c => c == ' ' || (tabs && c == '\t')
    let at_ := match at_.rest with
      | '#' :: _ => at_.skipWhile fun c => !isBreak c
      | _ => at_
    if at_.rest.head?.any isBreak then
      skipGaps fuel { s with at_ := at_.skipBreak, keyAllowed := s.keyAllowed || !s.inFlow }
    else s.moveTo at_

/-- A collection in brackets begins. -/
def openFlow? (t : Token) (s : Scan) : Option Scan :=
  s.notePending?.map fun s =>
    { (s.push t).moveTo s.at_.next with flowKeys := none :: s.flowKeys, keyAllowed := true }

/-- A collection in brackets ends. -/
def closeFlow? (t : Token) (s : Scan) : Option Scan :=
  s.dropPending?.map fun s =>
    { (s.push t).moveTo s.at_.next with flowKeys := s.flowKeys.tail, keyAllowed := false }

/-- A comma. -/
def flowEntry? (s : Scan) : Option Scan :=
  s.dropPending?.map fun s => ((s.allow true).push .flowEntry).moveTo s.at_.next

/-- A dash in front of an entry of a block sequence. -/
def blockEntry? (s : Scan) : Option Scan :=
  if !s.inFlow && !s.keyAllowed then none
  else
    (s.rollIndent s.at_.column none .blockSequenceStart).dropPending?.map fun s =>
      ((s.allow true).push .blockEntry).moveTo s.at_.next

/-- A question mark in front of a key. -/
def explicitKey? (s : Scan) : Option Scan :=
  if !s.inFlow && !s.keyAllowed then none
  else
    (s.rollIndent s.at_.column none .blockMappingStart).dropPending?.map fun s =>
      ((s.allow (!s.inFlow)).push .key).moveTo s.at_.next

/-- A colon in front of a value. It turns a pending key into a key. -/
def value? (s : Scan) : Option Scan :=
  match s.pending with
  | some k =>
    let s := { s with tokens := s.tokens.insertIdxIfInBounds k.number .key }
    let s := (s.rollIndent k.column (some k.number) .blockMappingStart).setPending none
    some (((s.allow false).push .value).moveTo s.at_.next)
  | none =>
    if !s.inFlow && !s.keyAllowed then none
    else
      let s := s.rollIndent s.at_.column none .blockMappingStart
      some (((s.allow (!s.inFlow)).push .value).moveTo s.at_.next)

/-- A directive or a mark of document start or end, in front of which all blocks end. -/
def documentPart? (part : Scan → Option Scan) (s : Scan) : Option Scan :=
  ((s.unrollIndent (-1)).dropPending?).bind fun s => part (s.allow false)

/-- A node property or a scalar, at which an implicit key may begin. -/
def content? (part : Scan → Option Scan) (s : Scan) : Option Scan :=
  s.notePending?.bind fun s => part (s.allow false)

/-- A scalar in quotes. -/
def quoted? (single : Bool) (s : Scan) : Option Scan :=
  s.content? fun s =>
    (quotedText single s.at_.next).map fun (text, behind) =>
      (s.push (.scalar text .other)).moveTo behind

/-- A plain scalar. An implicit key may begin behind one that ended with its line. -/
def plain? (s : Scan) : Option Scan :=
  s.content? fun s =>
    (plainText s.inFlow (s.indent + 1) s.at_).map fun (text, multiline, behind) =>
      ((s.push (.scalar text .plain)).moveTo behind).allow multiline

/-- A block scalar. -/
def block? (literal : Bool) (s : Scan) : Option Scan :=
  s.dropPending?.bind fun s =>
    (blockText literal s.indent s.at_.next).map fun (text, behind) =>
      ((s.push (.scalar text (if literal then .literal else .other))).moveTo behind).allow true

/-- May a plain scalar begin here? -/
def plainNext (s : Scan) : Bool :=
  match s.at_.rest with
  | [] => false
  | c :: rest =>
    !(isGap c || isOneOf "-?:,[]\x7b\x7d#&*!|>'\"%@`" c) ||
      (c == '-' && !(rest.head?.any isSpace)) ||
      (!s.inFlow && (c == '?' || c == ':') && !gapNext rest)

/-- The token that begins with the character `c`. -/
def token? (c : Char) (s : Scan) : Option Scan :=
  let gap := gapNext s.at_.rest.tail
  if c == '%' && s.at_.column == 0 then
    s.documentPart? fun s =>
      (takeDirective s.at_).map fun (d, behind) => (s.push (.directive d)).moveTo behind
  else if s.at_.atDocumentMark then
    s.documentPart? fun s =>
      some ((s.push (if c == '-' then .documentStart else .documentEnd)).moveTo (s.at_.skip 3))
  else if c == '[' then s.openFlow? .flowSequenceStart
  else if c == '\x7b' then s.openFlow? .flowMappingStart
  else if c == ']' then s.closeFlow? .flowSequenceEnd
  else if c == '\x7d' then s.closeFlow? .flowMappingEnd
  else if c == ',' then s.flowEntry?
  else if c == '-' && gap then s.blockEntry?
  else if c == '?' && (s.inFlow || gap) then s.explicitKey?
  else if c == ':' && (s.inFlow || gap) then s.value?
  else if c == '*' then
    s.content? fun s =>
      (takeAnchor s.at_.next).map fun (name, behind) => (s.push (.alias name)).moveTo behind
  else if c == '&' then
    s.content? fun s =>
      (takeAnchor s.at_.next).map fun (name, behind) => (s.push (.anchor name)).moveTo behind
  else if c == '!' then
    s.content? fun s =>
      (takeTag s.inFlow s.at_).map fun (t, behind) => (s.push (.tag t)).moveTo behind
  else if c == '|' && !s.inFlow then s.block? true
  else if c == '>' && !s.inFlow then s.block? false
  else if c == '\'' then s.quoted? true
  else if c == '"' then s.quoted? false
  else if s.plainNext then s.plain?
  else none

/-- The end of the text: all blocks end. -/
def finish? (s : Scan) : Option Scan :=
  (s.unrollIndent (-1)).dropPending?.map fun s => s.push .streamEnd

/-- Read the next token, or the end of the text. -/
def step? (s : Scan) : Option Scan :=
  ((s.skipGaps (s.at_.rest.length + 1)).dropStale?).bind fun s =>
    let s := s.unrollIndent s.at_.column
    match s.at_.rest with
    | [] => s.finish?
    | c :: _ => s.token? c

/-- The number of tokens that are settled. -/
def settled (s : Scan) : Nat :=
  (s.blockKey :: s.flowKeys).foldl (fun n key =>
    match key with
    | some k => if s.isStale k then n else min n k.number
    | none => n) s.tokens.size

/-- The settled tokens in front of a malformed place. -/
def broken (s : Scan) : Array Token :=
  (s.tokens.take s.settled).push .malformed

/-- Read tokens up to the end or to a malformed place; `fuel` bounds their number. -/
def run : Nat → Scan → Array Token
  | 0, s => s.broken
  | fuel + 1, s =>
    match s.step? with
    | none => s.broken
    | some after => if after.tokens.back? = some .streamEnd then after.tokens else run fuel after

end Scan

/-- The tokens of a text, ended by `streamEnd` or `malformed`. A byte order mark in front of the
text is no part of it. -/
def tokens (s : List Char) : List Token :=
  if s.all isAllowed then
    let s := match s with
      | '\uFEFF' :: rest => rest
      | s => s
    (Scan.run (s.length + 2) (Scan.ofText s)).toList
  else [.malformed]

end ClusterTuning.Yaml
