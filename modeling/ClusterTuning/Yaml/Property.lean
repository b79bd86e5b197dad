import ClusterTuning.Yaml.Cursor
import ClusterTuning.Decimal.Layout

/-!
# ClusterTuning.Yaml.Property

**Anchors, tags and directives: the parts of YAML text that name things.**

A tag is written as a handle and a suffix. The handle stands for a text that a directive of the
document gives, or for one of the two that are always known.
-/

namespace ClusterTuning.Yaml

/-- A tag as it is written. -/
structure WrittenTag where
  /-- The handle, which is empty when the suffix is the whole tag. -/
  handle : List Char
  /-- What follows the handle. -/
  suffix : List Char
deriving DecidableEq, Repr, Inhabited

/-- The name of an anchor or an alias from behind its indicator. A separator or an indicator has to
follow. -/
def takeAnchor (at_ : Cursor) : Option (List Char × Cursor) :=
  let (name, behind) := at_.takeWhile isWordChar
  if name.isEmpty then none
  else if gapNext behind.rest || behind.rest.head?.any (isOneOf "?:,]\x7d%@`") then
    some (name, behind)
  else none

/-- A handle: an exclamation mark, word characters, and a second mark that a directive requires
behind any word. -/
def takeHandle (directive : Bool) (at_ : Cursor) : Option (List Char × Cursor) :=
  match at_.rest with
  | '!' :: _ =>
    let (word, behind) := at_.next.takeWhile isWordChar
    match behind.rest with
    | '!' :: _ => some ('!' :: word ++ ['!'], behind.next)
    | _ => if directive && !word.isEmpty then none else some ('!' :: word, behind)
  | _ => none

/-- How many bytes the character takes whose first byte is `n`. -/
def widthOfLead (n : Nat) : Nat :=
  if n < 0x80 then 1
  else if n < 0xC0 then 0
  else if n < 0xE0 then 2
  else if n < 0xF0 then 3
  else if n < 0xF8 then 4
  else 0

/-- The value of a percent sign and two hexadecimal digits. -/
def takeOctet (at_ : Cursor) : Option (Nat × Cursor) :=
  match at_.rest with
  | '%' :: a :: b :: _ => (Decimal.readDigits? 16 [a, b]).map fun n => (n, at_.skip 3)
  | _ => none

/-- The escaped bytes that continue a character. -/
def takeTailOctets : Nat → Nat → Cursor → Option (Nat × Cursor)
  | 0, acc, at_ => some (acc, at_)
  | n + 1, acc, at_ =>
    match takeOctet at_ with
    | none => none
    | some (octet, behind) =>
      if octet / 64 = 2 then takeTailOctets n (acc * 64 + octet % 64) behind else none

/-- A character whose bytes are escaped one by one. -/
def takeEscapedChar (at_ : Cursor) : Option (Char × Cursor) :=
  match takeOctet at_ with
  | none => none
  | some (octet, behind) =>
    match widthOfLead octet with
    | 0 => none
    | 1 => some (Char.ofNat octet, behind)
    | width + 1 =>
      (takeTailOctets width (octet % twoTo (6 - width)) behind).map fun (code, behind) =>
        (Char.ofNat code, behind)

/-- The characters of a tag; a tag between angle brackets and the text of a directive may hold a
comma and square brackets too. -/
def isTagChar (wide : Bool) (c : Char) : Bool :=
  isWordChar c || isOneOf ";/?:@&=+$.!~*'()%" c || (wide && isOneOf ",[]" c)

/-- The characters of a tag from here on; `fuel` bounds them. -/
def takeTagChars (wide : Bool) : Nat → Cursor → Option (List Char × Cursor)
  | 0, at_ => some ([], at_)
  | fuel + 1, at_ =>
    match at_.rest with
    | [] => some ([], at_)
    | c :: _ =>
      if !isTagChar wide c then some ([], at_)
      else if c == '%' then
        match takeEscapedChar at_ with
        | none => none
        | some (d, behind) => (takeTagChars wide fuel behind).map fun (s, last) => (d :: s, last)
      else (takeTagChars wide fuel at_.next).map fun (s, last) => (c :: s, last)

/-- A tag, from its exclamation mark. -/
def takeTag (flow : Bool) (at_ : Cursor) : Option (WrittenTag × Cursor) :=
  let written : Option (WrittenTag × Cursor) :=
    if at_.rest.tail.head? == some '<' then
      match takeTagChars true (at_.rest.length + 1) (at_.skip 2) with
      | some (suffix, behind) =>
        if !suffix.isEmpty && behind.rest.head? == some '>' then some (⟨[], suffix⟩, behind.next)
        else none
      | none => none
    else
      match takeHandle false at_ with
      | none => none
      | some (handle, behind) =>
        match takeTagChars false (behind.rest.length + 1) behind with
        | none => none
        | some (suffix, last) =>
          if 2 ≤ handle.length && handle.getLast? == some '!' then
            if suffix.isEmpty then none else some (⟨handle, suffix⟩, last)
          else
            let suffix := handle.tail ++ suffix
            if suffix.isEmpty then some (⟨[], ['!']⟩, last) else some (⟨['!'], suffix⟩, last)
  match written with
  | none => none
  | some (tag, behind) =>
    if gapNext behind.rest || (flow && behind.rest.head? == some ',') then some (tag, behind)
    else none

/-- What a directive says. -/
inductive Directive where
  /-- The version of the language. -/
  | version (major minor : Nat)
  /-- The text that a handle stands for. -/
  | tag (handle text : List Char)
deriving DecidableEq, Repr, Inhabited

/-- A number of at most nine digits. -/
def takeVersionNumber (at_ : Cursor) : Option (Nat × Cursor) :=
  let (digits, behind) := at_.takeWhile Decimal.isDigit
  if 9 < digits.length then none else (Decimal.readDigits? 10 digits).map fun n => (n, behind)

/-- What follows the name of a directive. -/
def takeDirectiveValue (name : List Char) (at_ : Cursor) : Option (Directive × Cursor) :=
  if name = "YAML".toList then
    match takeVersionNumber (at_.skipWhile isSpace) with
    | some (major, behind) =>
      if behind.rest.head? == some '.' then
        (takeVersionNumber behind.next).map fun (minor, last) => (.version major minor, last)
      else none
    | none => none
  else if name = "TAG".toList then
    match takeHandle true (at_.skipWhile isSpace) with
    | some (handle, behind) =>
      if behind.rest.head?.any isSpace then
        let behind := behind.skipWhile isSpace
        match takeTagChars true (behind.rest.length + 1) behind with
        | some (text, last) =>
          if !text.isEmpty && gapNext last.rest then some (.tag handle text, last) else none
        | none => none
      else none
    | none => none
  else none

/-- A directive, from its percent sign to the end of its line. -/
def takeDirective (at_ : Cursor) : Option (Directive × Cursor) :=
  let (name, behind) := at_.next.takeWhile isWordChar
  if name.isEmpty || !gapNext behind.rest then none
  else
    match takeDirectiveValue name behind with
    | none => none
    | some (directive, behind) => behind.skipLineEnd?.map fun behind => (directive, behind)

end ClusterTuning.Yaml
