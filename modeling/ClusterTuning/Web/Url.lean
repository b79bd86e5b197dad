import ClusterTuning.Web.Host
import ClusterTuning.Web.Path

/-!
# ClusterTuning.Web.Url

**Addresses of the web.**

An address is brought into one form as it is read: its scheme and its host are in lower case, the
port is left out where the scheme implies it, segments of one or two dots are resolved, and
characters that cannot stand in their place are written as bytes behind percent signs.
-/

namespace ClusterTuning.Web

/-- Whom an address speaks to. -/
structure Authority where
  /-- The name of the user. It may be empty. -/
  user : String
  /-- The password of the user. -/
  password : Option String
  /-- The host. It may be empty. -/
  host : String
  /-- The port, if it is not the one that the scheme implies. -/
  port : Option Nat
deriving DecidableEq, Repr, Inhabited

/-- An address in its one form. -/
structure Url where
  /-- The scheme. -/
  scheme : String
  /-- Whom it speaks to. -/
  authority : Option Authority
  /-- The path. -/
  path : String
  /-- The query, without its question mark. -/
  query : Option String
  /-- The fragment, without its number sign. -/
  fragment : Option String
deriving DecidableEq, Repr, Inhabited

/-! ### Reading -/

/-- The characters of schemes behind the first one. -/
def isSchemeChar (c : Char) : Bool :=
  c.isAlphanum || c == '+' || c == '-' || c == '.'

/-- The scheme of an address in lower case, and what follows its colon. -/
def readScheme? (s : List Char) : Option (String × List Char) :=
  match s.span isSchemeChar with
  | (c :: name, ':' :: rest) =>
    if c.isAlpha then some (String.ofList ((c :: name).map Char.toLower), rest) else none
  | _ => none

/-- The name and the password of a user. An empty password is none. -/
def readUser (user : List Char) : String × Option String :=
  let write (s : List Char) : String := String.ofList (percentEncode isReservedInUser s)
  match Text.cutAt [':'] user with
  | some (name, []) => (write name, none)
  | some (name, password) => (write name, some (write password))
  | none => (write user, none)

/-- Is it a character that ends an authority? -/
def endsAuthority (special : Bool) (c : Char) : Bool :=
  c == '/' || c == '?' || c == '#' || (special && c == '\\')

/-- The authority in front of a text, and what follows it. A user without a name has to have a host,
and so have a user that is shown, a port and a special scheme. -/
def readAuthority? (scheme : String) (s : List Char) : Option (Authority × List Char) :=
  let special := isSpecial scheme
  let (place, rest) := s.span fun c => !endsAuthority special c
  let (user, place) := match Text.cutAtLast '@' place with
    | some (user, place) => (some user, place)
    | none => (none, place)
  let (host, port) := cutHost false place
  let (name, password) := readUser (user.getD [])
  let needsHost := special || !port.isEmpty || name ≠ "" || password.isSome ||
    (user = some [] && !rest.isEmpty)
  if host.isEmpty && needsHost then none
  else
    (readHost? special host).bind fun host =>
      (readPort? scheme (port.drop 1)).map fun (port, after) =>
        (⟨name, password, String.ofList host, port⟩, after ++ rest)

/-- Cut off the query and the fragment. -/
def cutTail (special : Bool) (s : List Char) : List Char × Option String × Option String :=
  let (front, fragment) := match Text.cutAt ['#'] s with
    | some (front, fragment) =>
      (front, some (String.ofList (percentEncode isReservedInFragment fragment)))
    | none => (s, none)
  match Text.cutAt ['?'] front with
  | some (front, query) =>
    (front, some (String.ofList (percentEncode (isReservedInQuery special) query)), fragment)
  | none => (front, none, fragment)

/-- Drop one slash in front. -/
def dropSlash (special : Bool) : List Char → List Char
  | c :: rest => if c = '/' ∨ (special = true ∧ c = '\\') then rest else c :: rest
  | [] => []

/-- An address with an authority, of which `s` is what follows the slashes. -/
def readPlaced? (scheme : String) (s : List Char) : Option Url :=
  let special := isSpecial scheme
  (readAuthority? scheme s).map fun (authority, rest) =>
    let (front, query, fragment) := cutTail special rest
    let path := if front.isEmpty && !special then []
      else readPath special (dropSlash special front)
    ⟨scheme, some authority, String.ofList path, query, fragment⟩

/-- An address of a file on a host, if there is one. A host does not count before a drive. -/
def readFileOn (host : List Char) (s : List Char) : Url :=
  let (front, query, fragment) := cutTail true s
  let (path, atDrive) := readFilePath front
  let host := if atDrive then [] else host
  ⟨fileScheme, some ⟨"", none, String.ofList host, none⟩, String.ofList path, query, fragment⟩

/-- An address of a file. A host of its own is kept; `localhost` is none. -/
def readFile? (s : List Char) : Option Url :=
  let isSlash c := c == '/' || c == '\\'
  match s with
  | a :: b :: rest =>
    if isSlash a && isSlash b then
      let (host, after) := rest.span fun c => !endsAuthority true c
      if isDrive host then some (readFileOn [] rest)
      else if host.isEmpty then some (readFileOn [] after)
      else
        (readHost? true host).map fun host =>
          if host = "localhost".toList then readFileOn [] after
          else readFileOn host (dropSlash true after)
    else some (readFileOn [] (dropSlash true s))
  | s => some (readFileOn [] (dropSlash true s))

/-- An address without an authority. -/
def readUnplaced (scheme : String) (s : List Char) : Url :=
  let (front, query, fragment) := cutTail false s
  let path := match front with
    | '/' :: rest => readPath false rest
    | front => percentEncode isForeign front
  ⟨scheme, none, String.ofList path, query, fragment⟩

/-- The blanks around an address and the line breaks in it do not count. -/
def cleaned (s : List Char) : List Char :=
  let isEdge (c : Char) : Bool := c.toNat ≤ 0x20
  ((s.dropWhile isEdge).reverse.dropWhile isEdge).reverse.filter fun c =>
    !(c == '\t' || c == '\n' || c == '\r')

namespace Authority

/-- The user and the password in their one form, with the sign behind them. -/
def userText (a : Authority) : String :=
  match a.password with
  | some password => a.user ++ ":" ++ password ++ "@"
  | none => if a.user = "" then "" else a.user ++ "@"

/-- The text of an authority. -/
def print (a : Authority) : String :=
  a.userText ++ a.host ++
    match a.port with
    | some port => ":" ++ String.ofList (Decimal.natDigits port)
    | none => ""

/-- The authority without its user, who is told in another way. A user whose name is no text stays,
and so does a password alone that is none. -/
def withoutUser (a : Authority) : Authority :=
  let readable (s : String) : Bool := (percentDecode? s.toList).isSome
  if readable a.user && (a.user ≠ "" || a.password.any readable) then
    ⟨"", none, a.host, a.port⟩
  else a

end Authority

namespace Url

/-- Read an address. It has to have a scheme. -/
def read? (s : String) : Option Url :=
  (readScheme? (cleaned s.toList)).bind fun (scheme, rest) =>
    if scheme = fileScheme then readFile? rest
    else if isSpecial scheme then
      readPlaced? scheme (rest.dropWhile fun c => c == '/' || c == '\\')
    else
      match rest with
      | '/' :: '/' :: rest => readPlaced? scheme rest
      | rest => some (readUnplaced scheme rest)

/-- What stands between the scheme and the path. A path without an authority that starts like one
with an authority is told apart by a step that stays. -/
def placeText (u : Url) : String :=
  match u.authority with
  | some authority => "//" ++ authority.print
  | none => if Text.startsWith ['/', '/'] u.path.toList then "/." else ""

/-- The text of an address. -/
def print (u : Url) : String :=
  u.scheme ++ ":" ++ u.placeText ++ u.path ++
    (match u.query with
    | some query => "?" ++ query
    | none => "") ++
    match u.fragment with
    | some fragment => "#" ++ fragment
    | none => ""

/-- Does the address name a host? -/
def hasHost (u : Url) : Bool :=
  u.authority.any fun authority => authority.host ≠ ""

/-- The address without its user. -/
def withoutUser (u : Url) : Url :=
  { u with authority := u.authority.map Authority.withoutUser }

/-- The number of bytes that an address of a request can have. -/
def maxRequestBytes : Nat := 65534

/-- The characters of hosts that cannot stand in a request. -/
def isForbiddenInRequest (c : Char) : Bool :=
  c == '"' || c == Char.ofNat 0x60 || c == '\x7b' || c == '\x7d'

/-- Is it an address that requests can be sent to? -/
def isWeb (u : Url) : Bool :=
  (u.scheme = "http" || u.scheme = "https") &&
    !(u.authority.any fun authority => authority.host.toList.any isForbiddenInRequest) &&
    u.print.utf8ByteSize ≤ maxRequestBytes

/-- Text in the form of a query. -/
def formChars (s : List Char) : List Char :=
  s.flatMap fun c =>
    if c.isAlphanum || c == '*' || c == '-' || c == '.' || c == '_' then [c]
    else if c = ' ' then ['+']
    else (Text.encode (String.singleton c)).flatMap percentByte

/-- A query of names and values. -/
def formOf (pairs : List (String × String)) : String :=
  Text.joinStrings "&" <| pairs.map fun (name, value) =>
    String.ofList (formChars name.toList ++ '=' :: formChars value.toList)

/-- The address with further names and values in its query. A query without content disappears. -/
def withPairs (pairs : List (String × String)) (u : Url) : Url :=
  let query := match u.query, formOf pairs with
    | none, more => more
    | some query, "" => query
    | some "", more => more
    | some query, more => query ++ "&" ++ more
  { u with query := if query = "" then none else some query }

end Url

end ClusterTuning.Web
