import ClusterTuning.Text.Pieces
import ClusterTuning.Web.Percent

/-!
# ClusterTuning.Web.Path

**Paths of addresses.**

A path is read segment by segment. A segment of one dot stays where it is, and one of two dots goes
up, but never past the letter of a drive. In the paths of files a letter with a colon or a bar in
front is the letter of a drive.
-/

namespace ClusterTuning.Web

/-! ### Segments -/

/-- Is it a segment that stays where it is? -/
def isStay (segment : List Char) : Bool :=
  segment = ['.'] || segment.map Char.toLower = "%2e".toList

/-- Is it a segment that goes up? -/
def isUp (segment : List Char) : Bool :=
  ["..", "%2e.", ".%2e", "%2e%2e"].any fun up => segment.map Char.toLower = up.toList

/-- Does a segment start with the letter of a drive, and with nothing more before a backslash? -/
def startsWithDrive : List Char → Bool
  | letter :: sign :: rest =>
    letter.isAlpha && (sign == ':' || sign == '|') && rest.head?.all fun c => c == '\\'
  | _ => false

/-- Is it the letter of a drive? -/
def isDrive (segment : List Char) : Bool :=
  segment.length == 2 && startsWithDrive segment

/-- The letter of a drive with its colon. -/
def plainDrive (segment : List Char) : List Char :=
  segment.take 1 ++ [':']

/-- Go up from the segments that come before, of which the last is first. -/
def goUp : List (List Char) → List (List Char)
  | [] => []
  | segment :: before => if startsWithDrive segment then segment :: before else before

/-- Resolve the segments of a path behind those that come `before`, of which the last is first. A
path that ends in a step ends in an empty segment. -/
def resolve (ofFile : Bool) (before : List (List Char)) : List (List Char) → List (List Char)
  | [] => before.reverse
  | segment :: rest =>
    let isStep := isUp segment || isStay segment
    let before :=
      if isUp segment then goUp before
      else if isStay segment then before
      else if ofFile && before.isEmpty && isDrive segment then [plainDrive segment]
      else segment :: before
    if rest.isEmpty && isStep then ([] :: before).reverse else resolve ofFile before rest

/-! ### Text -/

/-- The segments of a path. Special schemes also take backslashes for slashes. -/
def segmentsOf (special : Bool) (s : List Char) : List (List Char) :=
  (Text.splitAt '/' (if special then s.map fun c => if c = '\\' then '/' else c else s)).map
    (percentEncode isReservedInPath)

/-- The text of a path. -/
def pathText (segments : List (List Char)) : List Char :=
  segments.flatMap fun segment => '/' :: segment

/-- The path in its one form, without the slash in front. -/
def readPath (special : Bool) (s : List Char) : List Char :=
  pathText (resolve false [] (segmentsOf special s))

/-- The path of a file, without the slash in front, and whether it starts at a drive. Slashes in front
count once. -/
def readFilePath (s : List Char) : List Char × Bool :=
  let segments := resolve true [] (segmentsOf true s)
  ('/' :: (pathText segments).dropWhile fun c => c == '/', segments.head?.any isDrive)

end ClusterTuning.Web
