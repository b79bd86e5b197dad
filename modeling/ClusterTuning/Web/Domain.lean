import ClusterTuning.Text.Composed
import ClusterTuning.Web.Domain.Direction
import ClusterTuning.Web.Domain.Folding
import ClusterTuning.Web.Domain.Joining
import ClusterTuning.Web.Punycode

/-!
# ClusterTuning.Web.Domain

**Names of hosts in ASCII.**

A name may be written with the characters of any language. It is brought into one form, and then each
of its labels that is not in ASCII is coded: `xn--` and its text in letters, digits and hyphens. A
label that is coded already has to be one that this rule gives.
-/

namespace ClusterTuning.Web.Domain

/-- Is all of the text in ASCII? -/
def isAscii (s : List Char) : Bool :=
  s.all fun c => c.toNat < 0x80

/-- What a coded label starts with. -/
def codeMark : List Char :=
  "xn--".toList

/-- The greatest number of characters of a label that is coded. -/
def maxPlain : Nat := 1000

/-- The greatest number of characters behind the start of a label that is coded already. -/
def maxCoded : Nat := 2000

/-- The label in its one form, if it can be brought into it. -/
def normal? (label : List Char) : Option (List Char) :=
  (fold? label).map Text.composed

/-- The characters of a label. Those of a coded label have to need the code and to be in their one
form. -/
def readLabel? (label : List Char) : Option (List Char) :=
  match Text.dropFront? codeMark label with
  | some coded =>
    if maxCoded < coded.length then none
    else
      (Punycode.decode? coded).filter fun plain => !isAscii plain && normal? plain == some plain
  | none => if !isAscii label && maxPlain < label.length then none else some label

/-- Can a label have these characters? No mark stands in front. -/
def isLabel (label : List Char) : Bool :=
  !label.head?.any Text.isMark && placesJoiners [] label

/-- Can a name have these labels? -/
def isName (labels : List (List Char)) : Bool :=
  labels.all isLabel &&
    (!(labels.any fun label => label.any turnsDirection) || labels.all keepsDirection)

/-- The label in ASCII. -/
def codeLabel (label : List Char) : List Char :=
  if isAscii label then label else codeMark ++ Punycode.encode label

/-- The name in ASCII, if it is one. -/
def code? (name : List Char) : Option (List Char) :=
  (normal? name).bind fun name =>
    ((Text.splitAt '.' name).mapM readLabel?).bind fun labels =>
      if isName labels then some (Text.joinWith ['.'] (labels.map codeLabel)) else none

end ClusterTuning.Web.Domain
