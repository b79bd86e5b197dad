/-!
# ClusterTuning.Text.Pieces

**Searching, cutting and joining text.**

Everything works on `List Char` and is total. A search either finds the leftmost (or rightmost)
place and returns what stands on both sides of it, or says that there is none.
-/

namespace ClusterTuning.Text

/-- `dropFront? p s` is what follows `p` in `s`, when `s` starts with `p`. -/
def dropFront? : List Char → List Char → Option (List Char)
  | [], s => some s
  | _ :: _, [] => none
  | a :: p, b :: s => if a = b then dropFront? p s else none

theorem dropFront?_eq_some {p s r : List Char} (h : dropFront? p s = some r) : s = p ++ r := by
  induction p generalizing s with
  | nil => simpa [dropFront?] using h
  | cons a p ih =>
    cases s with
    | nil => simp [dropFront?] at h
    | cons b s =>
      by_cases hab : a = b
      · subst hab
        simp only [dropFront?, if_true] at h
        simp [ih h]
      · simp [dropFront?, hab] at h

/-- Does `s` start with `p`? -/
def startsWith (p s : List Char) : Bool :=
  (dropFront? p s).isSome

/-- Does `s` end with `p`? -/
def endsWith (p s : List Char) : Bool :=
  startsWith p.reverse s.reverse

/-- Does `p` occur anywhere in `s`? The empty text occurs in every text. -/
def occursIn (p : List Char) : List Char → Bool
  | [] => p.isEmpty
  | c :: s => startsWith p (c :: s) || occursIn p s

/-- The text before and after the leftmost occurrence of `p`. -/
def cutAt (p : List Char) : List Char → Option (List Char × List Char)
  | [] => if p.isEmpty then some ([], []) else none
  | c :: s =>
    match dropFront? p (c :: s) with
    | some rest => some ([], rest)
    | none => (cutAt p s).map fun (before, rest) => (c :: before, rest)

/-- The text before and after the last `c`. -/
def cutAtLast (c : Char) (s : List Char) : Option (List Char × List Char) :=
  match s.reverse.span (· != c) with
  | (_, []) => none
  | (after, _ :: before) => some (before.reverse, after.reverse)

/-- The text after the last `c`, or all of it when there is none. -/
def afterLast (c : Char) (s : List Char) : List Char :=
  match cutAtLast c s with
  | some (_, after) => after
  | none => s

/-- Cut at every occurrence of the character `c`; `n` cuts leave `n + 1` pieces. -/
def splitAt (c : Char) : List Char → List (List Char)
  | [] => [[]]
  | d :: s =>
    match splitAt c s with
    | [] => [[d]]
    | piece :: rest => if d = c then [] :: piece :: rest else (d :: piece) :: rest

/-- Cut at the occurrences of `p` from the left, at most `cuts` times. An empty `p` cuts around
every character. `fuel` bounds the number of pieces; the length of the text is enough. -/
def splitOnce (p : List Char) : Nat → Nat → List Char → List (List Char)
  | 0, _, s => [s]
  | _, 0, s => [s]
  | fuel + 1, cuts + 1, s =>
    match cutAt p s with
    | none => [s]
    | some (before, rest) => before :: splitOnce p fuel cuts rest

/-- Pieces of `s` between the occurrences of `p`, with at most `cuts` cuts when a bound is given.
Around the empty separator the text falls into its characters, with an empty piece at both ends. -/
def splitBy (p : List Char) (cuts : Option Nat) (s : List Char) : List (List Char) :=
  if p.isEmpty then
    let pieces := [] :: s.map (fun c => [c]) ++ [[]]
    match cuts with
    | none => pieces
    | some n =>
      if n + 1 < pieces.length then pieces.take n ++ [(pieces.drop n).flatten] else pieces
  else
    splitOnce p (s.length + 1) (cuts.getD (s.length + 1)) s

/-- The runs of characters outside `blank`. -/
def wordsBy (blank : Char → Bool) : List Char → List (List Char)
  | [] => []
  | c :: s =>
    if blank c then wordsBy blank s
    else
      match s, wordsBy blank s with
      | d :: _, word :: rest => if blank d then [c] :: word :: rest else (c :: word) :: rest
      | _, rest => [c] :: rest

/-- Put `sep` between the pieces. -/
def joinWith (sep : List Char) : List (List Char) → List Char
  | [] => []
  | [piece] => piece
  | piece :: rest => piece ++ sep ++ joinWith sep rest

/-- Every occurrence of `old`, from the left and without overlap, becomes `new`. -/
def replaceAll (old new s : List Char) : List Char :=
  joinWith new (splitBy old none s)

/-- Strings joined with a separator between them. -/
def joinStrings (sep : String) : List String → String
  | [] => ""
  | [piece] => piece
  | piece :: rest => piece ++ sep ++ joinStrings sep rest

/-- `a` comes strictly before `b` when the first place at which they differ holds a smaller code
point in `a`, or `a` ends there. UTF-8 keeps the order of code points, so this is also the order of
the encoded bytes. -/
def precedesChars : List Char → List Char → Bool
  | [], [] => false
  | [], _ :: _ => true
  | _ :: _, [] => false
  | a :: s, b :: t =>
    if a.toNat == b.toNat then precedesChars s t else Nat.blt a.toNat b.toNat

/-- The order of names: by code point. -/
def precedes (a b : String) : Bool :=
  precedesChars a.toList b.toList

end ClusterTuning.Text
