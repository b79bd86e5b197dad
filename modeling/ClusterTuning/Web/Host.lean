import ClusterTuning.Web.Address
import ClusterTuning.Web.Domain
import ClusterTuning.Web.Percent

/-!
# ClusterTuning.Web.Host

**Hosts and ports of addresses.**

A host is a name or a numeric address. Schemes that are special have names of the network, which are
written in ASCII, and names that end in a number are numeric addresses of version four. Other schemes
take any name.
-/

namespace ClusterTuning.Web

/-! ### Schemes -/

/-- The port that a scheme implies. -/
def impliedPort? (scheme : String) : Option Nat :=
  match scheme with
  | "http" | "ws" => some 80
  | "https" | "wss" => some 443
  | "ftp" => some 21
  | _ => none

/-- The scheme of files. -/
def fileScheme : String := "file"

/-- Does a scheme have names of the network for its hosts? -/
def isSpecial (scheme : String) : Bool :=
  scheme == fileScheme || (impliedPort? scheme).isSome

/-! ### Hosts -/

/-- The characters that no host holds. -/
def isForbiddenInHost (c : Char) : Bool :=
  ['\x00', '\t', '\n', '\r', ' ', '#', '/', ':', '<', '>', '?', '@', '[', '\\', ']', '^',
    '|'].contains c

/-- The characters that no name of the network holds. -/
def isForbiddenInName (c : Char) : Bool :=
  c.toNat ≤ 0x20 || c == '\x7f' || c == '%' || isForbiddenInHost c

/-- The name of the network, or the numeric address that it is. -/
def readName? (host : List Char) : Option (List Char) :=
  ((percentDecode? host).bind Domain.code?).bind fun name =>
    if name.isEmpty || name.any isForbiddenInName then none
    else if endsInNumber name then plainIpv4? name
    else some name

/-- The host in its one form. -/
def readHost? (special : Bool) (host : List Char) : Option (List Char) :=
  match host with
  | '[' :: rest =>
    if rest.getLast? = some ']' then
      (readIpv6? rest.dropLast).map fun groups => '[' :: writeIpv6 groups ++ [']']
    else none
  | host =>
    if special then readName? host
    else if host.any isForbiddenInHost then none
    else some (percentEncode isForeign host)

/-- The host in front of a place, and what follows it. Colons in brackets belong to the host. -/
def cutHost (inBrackets : Bool) : List Char → List Char × List Char
  | [] => ([], [])
  | c :: rest =>
    if c = ':' ∧ inBrackets = false then ([], c :: rest)
    else
      let (host, after) := cutHost (c == '[' || (inBrackets && c != ']')) rest
      (c :: host, after)

/-! ### Ports -/

/-- The port in front of a text and what follows it, which starts with a backslash if there is more.
The port that the scheme implies is none. -/
def readPort? (scheme : String) (s : List Char) : Option (Option Nat × List Char) :=
  let (digits, rest) := s.span Decimal.isDigit
  if rest.head?.any fun c => c != '\\' then none
  else if digits.isEmpty then some (none, rest)
  else if isPort digits then
    some ((Decimal.readDigits? 10 digits).filter fun port => impliedPort? scheme ≠ some port, rest)
  else none

end ClusterTuning.Web
