import ClusterTuning.Decimal.Layout
import ClusterTuning.Text.Pieces

/-!
# ClusterTuning.Web.Address

**Numeric addresses of hosts.**

An address of version four is four decimal numbers below 256 with points between them. An address of
version six is eight groups of hexadecimal digits with colons between them, of which one run of zero
groups may be left out, and whose last two groups may be written as an address of version four.

In addresses of the web, version four has looser forms as well: its numbers may be octal or
hexadecimal, and the last of fewer than four numbers stands for all bytes that are left.
-/

namespace ClusterTuning.Web

/-- Is it a number below 256, without zeros in front? -/
def isOctet (s : List Char) : Bool :=
  s.length ≤ 3 && (s.length == 1 || s.head? != some '0') && s.all Decimal.isDigit &&
    (Decimal.readDigits? 10 s).any fun n => n < 256

/-- Is it an address of version four? -/
def isIpv4 (s : List Char) : Bool :=
  let parts := Text.splitAt '.' s
  parts.length == 4 && parts.all isOctet

/-- The number of a group of up to four hexadecimal digits. -/
def group? (s : List Char) : Option Nat :=
  if s.length ≤ 4 then Decimal.readDigits? 16 s else none

/-- The two groups that an address of version four fills. -/
def groupsOfIpv4? (s : List Char) : Option (List Nat) :=
  if isIpv4 s then
    match (Text.splitAt '.' s).map fun part => (Decimal.readDigits? 10 part).getD 0 with
    | [a, b, c, d] => some [a * 256 + b, c * 256 + d]
    | _ => none
  else none

/-- The groups that parts between colons make, if they make any. The last part may be an address of
version four. -/
def groupsOfParts? : List (List Char) → Option (List Nat)
  | [] => some []
  | [part] => ((group? part).map fun n => [n]) <|> groupsOfIpv4? part
  | part :: rest => (group? part).bind fun n => (groupsOfParts? rest).map (n :: ·)

/-- The groups of one side of an address. -/
def groupsOf? (s : List Char) : Option (List Nat) :=
  if s.isEmpty then some [] else groupsOfParts? (Text.splitAt ':' s)

/-- The groups of an address of version six. -/
def readIpv6? (s : List Char) : Option (List Nat) :=
  match Text.cutAt [':', ':'] s with
  | none => (groupsOf? s).filter fun groups => groups.length == 8
  | some (before, after) =>
    if before.contains '.' then none
    else
      match groupsOf? before, groupsOf? after with
      | some front, some back =>
        if front.length + back.length ≤ 7 then
          some (front ++ List.replicate (8 - front.length - back.length) 0 ++ back)
        else none
      | _, _ => none

/-- Is it an address of version six? -/
def isIpv6 (s : List Char) : Bool :=
  (readIpv6? s).isSome

/-- The place and the length of the first longest run of zeros, if it has two zeros or more. -/
def longestZeros (groups : List Nat) : Option (Nat × Nat) :=
  let best := (List.range groups.length).foldl
    (fun best place =>
      let length := ((groups.drop place).takeWhile fun n => n == 0).length
      if best.2 < length then (place, length) else best) (0, 1)
  if 2 ≤ best.2 then some best else none

/-- Groups with colons between them. -/
def writeGroups (groups : List Nat) : List Char :=
  Text.joinWith [':'] (groups.map (Nat.toDigits 16))

/-- The shortest form of an address of version six: its longest run of zeros is left out. -/
def writeIpv6 (groups : List Nat) : List Char :=
  match longestZeros groups with
  | some (place, length) =>
    writeGroups (groups.take place) ++ [':', ':'] ++ writeGroups (groups.drop (place + length))
  | none => writeGroups groups

/-! ### Loose forms -/

/-- A number of a loose address: hexadecimal behind `0x`, octal behind a zero, and decimal
otherwise. A base without digits stands for zero. -/
def looseNumber? (s : List Char) : Option Nat :=
  let (base, digits) := match s with
    | '0' :: 'x' :: rest => (16, rest)
    | '0' :: 'X' :: rest => (16, rest)
    | '0' :: c :: rest => (8, c :: rest)
    | s => (10, s)
  if s.isEmpty then none
  else if digits.isEmpty then some 0
  else Decimal.readDigits? base digits

/-- The parts of a loose address. A point at its end does not count. -/
def looseParts (s : List Char) : List (List Char) :=
  let parts := Text.splitAt '.' s
  if parts.getLast? = some [] then parts.dropLast else parts

/-- Does a name end in a number, so that it has to be a numeric address? -/
def endsInNumber (host : List Char) : Bool :=
  (looseParts host).getLast?.any fun last =>
    (!last.isEmpty && last.all Decimal.isDigit) || (looseNumber? last).isSome

/-- The bytes that the numbers of a loose address stand for, when `room` bytes are to be filled. -/
def fillBytes? (room : Nat) : List Nat → Option (List Nat)
  | [] => none
  | [n] =>
    if n < twoTo (8 * room) then
      some ((List.range room).reverse.map fun place => n / twoTo (8 * place) % 256)
    else none
  | n :: rest => if 256 ≤ n then none else (fillBytes? (room - 1) rest).map (n :: ·)

/-- The plain form of a loose address of version four. -/
def plainIpv4? (s : List Char) : Option (List Char) :=
  let parts := looseParts s
  if 4 < parts.length then none
  else
    ((parts.mapM looseNumber?).bind (fillBytes? 4)).map fun bytes =>
      List.intercalate ['.'] (bytes.map Decimal.natDigits)

/-! ### Ports and servers -/

/-- Is it a number below `limit`, zeros in front or not? -/
def isNumberBelow (limit : Nat) (s : List Char) : Bool :=
  s.all Decimal.isDigit && (Decimal.readDigits? 10 s).any fun n => n < limit

/-- Is it the number of a port? -/
def isPort (s : List Char) : Bool :=
  isNumberBelow (twoTo 16) s

/-- Is it an address of version six, with or without the number of its zone behind a percent sign? -/
def isZonedIpv6 (s : List Char) : Bool :=
  match Text.cutAt ['%'] s with
  | some (address, zone) => isIpv6 address && isNumberBelow (twoTo 32) zone
  | none => isIpv6 s

/-- Is it an address that a server can listen at: a numeric address and a port? -/
def isSocketAddress (s : List Char) : Bool :=
  match Text.cutAtLast ':' s with
  | none => false
  | some (host, port) =>
    isPort port &&
      match host with
      | '[' :: rest => rest.getLast? == some ']' && isZonedIpv6 rest.dropLast
      | host => isIpv4 host

end ClusterTuning.Web
