import ClusterTuning.Yaml.Document
import ClusterTuning.Data.Decode

/-!
# ClusterTuning.Yaml.Source

**Nodes of YAML text as a source of typed records.**

Read against a type, a scalar is what the type asks for: a field of type string takes the text of
any scalar, so that `1.0` is the string `1.0` there. An empty plain scalar stands for a record or a
list without content.
-/

namespace ClusterTuning.Yaml

/-- Is the node an empty plain scalar? -/
def Tree.isBlank : Tree → Bool
  | .scalar _ _ [] .plain => true
  | _ => false

/-- The text of a scalar that may be of the core type with the given name: a plain one, or a literal
block with the tag of the type. -/
def Tree.typedText? (name : String) : Tree → Option (List Char)
  | .scalar _ tag text style =>
    if style = .plain || (style = .literal && tag = some (coreTag name)) then some text else none
  | _ => none

/-- The result of decoding, which has a single kind of failure here. -/
def decoded {α : Type} : Option α → Decoded α
  | some a => .ok a
  | none => .error .malformed

/-- The integer of the given type that a text spells. -/
def spelledOf? (t : IntType) (text : List Char) : Option Int :=
  match t with
  | .signed => spelledInt? (twoTo 63) text
  | .unsigned => (spelledNat? (twoTo 64) text).map fun n => (n : Int)

/-- The items of a list. -/
def Tree.items? : Tree → Option (List Tree)
  | .sequence _ _ items => some items
  | node => if node.isBlank then some [] else none

/-- Entries with their keys as text. -/
def textKeys? : List (Tree × Tree) → Option (List (String × Tree))
  | [] => some []
  | (k, v) :: rest =>
    match Tree.scalarText? k, textKeys? rest with
    | some key, some rest => some ((key, v) :: rest)
    | _, _ => none

/-- Does a known name occur twice? -/
def repeatsKnown (known : List String) (entries : List (String × Tree)) : Bool :=
  known.any fun name => Nat.blt 1 (entries.countP fun entry => entry.1 = name)

/-- The entries of a record, none of whose known fields may be given twice. -/
def Tree.entries? (known : List String) : Tree → Option (List (String × Tree))
  | .mapping _ _ entries => (textKeys? entries).filter fun entries => !repeatsKnown known entries
  | node => if node.isBlank then some [] else none

/-- The node, unless it is nothing. -/
def Tree.optional? : Tree → Option (Option Tree)
  | .scalar anchor tag text .plain =>
    let node : Tree := .scalar anchor tag text .plain
    match tag with
    | some t =>
      if t = coreTag "null" then (if spellsNull text then some none else none)
      else some (some node)
    | none => if text.isEmpty || spellsNull text then some none else some (some node)
  | node => some (some node)

instance : Source Tree where
  text node := decoded node.scalarText?
  integer t node := decoded ((node.typedText? "int").bind (spelledOf? t))
  flag node := decoded ((node.typedText? "bool").bind spelledBool?)
  items node := decoded node.items?
  entries _ known node := decoded (node.entries? known)
  optional node := decoded node.optional?
  value node := decoded (valueOf? false node)
  kept node := decoded (valueOf? true node)

end ClusterTuning.Yaml
