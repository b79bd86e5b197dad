import ClusterTuning.Text.Blank
import ClusterTuning.Text.Pieces

/-!
# ClusterTuning.Patch.LeadingDot

**Expressions that start with a dot.**

Patch templates may write `{{ .Parameters.cpu }}` for `{{ Parameters.cpu }}`. The dot goes away, and
the blanks before it become one space. A text that is a single expression can also be taken out of
its tag.
-/

namespace ClusterTuning.Patch

/-- May a name start with the character? -/
def startsName (c : Char) : Bool :=
  c.isAlpha || c == '_'

/-- The dash at the start of text, if there is one. -/
def dashOf : List Char → List Char
  | '-' :: _ => ['-']
  | _ => []

/-- What follows the dash at the start of text, if there is one. -/
def behindDash : List Char → List Char
  | '-' :: s => s
  | s => s

/-- What follows the opening braces of a tag with a leading dot: a dash if there is one, the first
character of the name, and the rest. -/
def leadingDot? (s : List Char) : Option (List Char × Char × List Char) :=
  match (behindDash s).dropWhile Text.isBlank with
  | '.' :: c :: rest => if startsName c then some (dashOf s, c, rest) else none
  | _ => none

theorem length_behindDash_le (s : List Char) : (behindDash s).length ≤ s.length := by
  unfold behindDash
  split <;> simp

theorem length_lt_of_leadingDot? {s rest dash : List Char} {c : Char}
    (h : leadingDot? s = some (dash, c, rest)) : rest.length < s.length := by
  unfold leadingDot? at h
  split at h
  · rename_i d rest' hdrop
    have dropped := (List.dropWhile_suffix Text.isBlank (l := behindDash s)).length_le
    have undashed := length_behindDash_le s
    rw [hdrop] at dropped
    split at h
    · simp only [Option.some.injEq, Prod.mk.injEq] at h
      obtain ⟨_, _, rfl⟩ := h
      simp only [List.length_cons] at dropped
      omega
    · simp at h
  · simp at h

/-- Take the leading dot out of every tag, from the left. -/
def withoutLeadingDots : List Char → List Char
  | [] => []
  | [c] => [c]
  | c :: d :: s =>
    if c = '{' ∧ d = '{' then
      match h : leadingDot? s with
      | some (dash, e, rest) =>
        have := length_lt_of_leadingDot? h
        '{' :: '{' :: (dash ++ ' ' :: e :: withoutLeadingDots rest)
      | none => c :: withoutLeadingDots (d :: s)
    else c :: withoutLeadingDots (d :: s)
termination_by s => s.length
decreasing_by all_goals simp_all <;> omega

/-- The text without `p` at its front, if it stands there. -/
def dropOne (p : Char) : List Char → List Char
  | c :: s => if c = p then s else c :: s
  | [] => []

/-- The text without `p` at its end, if it stands there. -/
def dropLastOne (p : Char) (s : List Char) : List Char :=
  (dropOne p s.reverse).reverse

/-- The opening braces of a tag. -/
def openBraces : List Char := ['{', '{']

/-- The closing braces of a tag. -/
def closeBraces : List Char := ['}', '}']

/-- The expression of a text that is nothing but one tag. -/
def singleExpression? (text : List Char) : Option (List Char) :=
  match Text.dropFront? openBraces (withoutLeadingDots (Text.trim text)) with
  | none => none
  | some rest =>
    match Text.dropFront? closeBraces rest.reverse with
    | none => none
    | some reversed =>
      let inner := reversed.reverse
      if Text.occursIn openBraces inner || Text.occursIn closeBraces inner then none
      else some (Text.trim (dropLastOne '-' (dropOne '-' inner)))

end ClusterTuning.Patch
