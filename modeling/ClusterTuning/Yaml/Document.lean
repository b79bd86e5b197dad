import ClusterTuning.Yaml.Scalar

/-!
# ClusterTuning.Yaml.Document

**Documents as values.**

Aliases are replaced by what they refer to, so an anchored node may contribute to the value several
times and may even refer to itself. Two limits keep that finite: collections nest at most 128 deep,
and the number of aliases followed is at most a hundred times the size of the document.
-/

namespace ClusterTuning.Yaml

/-- A node without references. -/
abbrev Tree := Node Empty

/-- The deepest nesting of collections. -/
def depthLimit : Nat := 128

/-- What aliases refer to, and how many of them may be followed. -/
structure Links where
  /-- The anchored nodes by number; the last one of a number counts. -/
  targets : List (Nat × Node Nat)
  /-- How many aliases may be followed. -/
  limit : Nat

/-- The links of a document. -/
def Links.ofRoot (root : Node Nat) : Links :=
  ⟨root.anchored.reverse, root.size * 100⟩

/-- The node that a node stands for, after `followed` aliases. -/
def Links.follow? (links : Links) (node : Node Nat) (followed : Nat) : Option (Node Nat × Nat) :=
  match node with
  | .alias number =>
    if links.limit ≤ followed then none
    else
      (links.targets.find? fun entry => entry.1 == number).map fun entry => (entry.2, followed + 1)
  | node => some (node, followed)

/-- Expand nodes from the left by `expand`, counting the aliases followed. -/
def expandItems (expand : Node Nat → Nat → Option (Tree × Nat)) :
    List (Node Nat) → Nat → Option (List Tree × Nat)
  | [], followed => some ([], followed)
  | item :: rest, followed =>
    match expand item followed with
    | none => none
    | some (item, followed) =>
      (expandItems expand rest followed).map fun (items, followed) => (item :: items, followed)

/-- Expand entries from the left by `expand`, each key before its value. -/
def expandEntries (expand : Node Nat → Nat → Option (Tree × Nat)) :
    List (Node Nat × Node Nat) → Nat → Option (List (Tree × Tree) × Nat)
  | [], followed => some ([], followed)
  | (k, v) :: rest, followed =>
    match expand k followed with
    | none => none
    | some (k, followed) =>
      match expand v followed with
      | none => none
      | some (v, followed) =>
        (expandEntries expand rest followed).map fun (entries, followed) =>
          ((k, v) :: entries, followed)

/-- Replace the aliases in a node by what they refer to. -/
def expand? (links : Links) : Nat → Node Nat → Nat → Option (Tree × Nat)
  | 0, node, followed =>
    match links.follow? node followed with
    | some (.scalar _ tag text style, followed) => some (.scalar none tag text style, followed)
    | _ => none
  | depth + 1, node, followed =>
    match links.follow? node followed with
    | some (.scalar _ tag text style, followed) => some (.scalar none tag text style, followed)
    | some (.sequence _ tag items, followed) =>
      (expandItems (expand? links depth) items followed).map fun (items, followed) =>
        (.sequence none tag items, followed)
    | some (.mapping _ tag entries, followed) =>
      (expandEntries (expand? links depth) entries followed).map fun (entries, followed) =>
        (.mapping none tag entries, followed)
    | _ => none

/-- A document with its aliases replaced. -/
def Node.tree? (root : Node (List Char)) : Option Tree :=
  match numberNode? [] root with
  | none => none
  | some (root, _) => (expand? (Links.ofRoot root) depthLimit root 0).map Prod.fst

/-- The text of a scalar, whatever it spells. -/
def Tree.scalarText? : Tree → Option String
  | .scalar _ _ text _ => some (String.ofList text)
  | _ => none

/-- Does a tag belong to an application? Such tags have no meaning here. -/
def isLocalTag (tag : Option (List Char)) : Bool :=
  tag.any fun t => t.head? == some '!'

mutual

/-- The value of a node. Keys are scalars and are taken as text; when `strict`, only those that mean
text. -/
def valueOf? (strict : Bool) : Tree → Option Value
  | .scalar _ tag text style => scalarValue? tag text style
  | .sequence _ tag items =>
    if isLocalTag tag then none else (valuesOf? strict items).map .array
  | .mapping _ tag entries =>
    if isLocalTag tag then none
    else (fieldsOf? strict entries).map fun fields => .object (Fields.ofList fields)
  | .alias r => nomatch r

/-- The values of items. -/
def valuesOf? (strict : Bool) : List Tree → Option (List Value)
  | [] => some []
  | item :: rest =>
    match valueOf? strict item with
    | none => none
    | some v => (valuesOf? strict rest).map (v :: ·)

/-- The fields of entries. -/
def fieldsOf? (strict : Bool) : List (Tree × Tree) → Option (List (String × Value))
  | [] => some []
  | (k, v) :: rest =>
    let key := if strict then (valueOf? strict k).bind Value.text? else Tree.scalarText? k
    match key, valueOf? strict v with
    | some key, some v => (fieldsOf? strict rest).map ((key, v) :: ·)
    | _, _ => none

end

/-- The values of the documents of a text, `none` for one that is malformed. -/
def readAll (text : List Char) : List (Option Value) :=
  (documents (tokens text)).map fun root => root.bind fun root => root.tree?.bind (valueOf? false)

/-- The single document of a text. -/
def readTree? (text : List Char) : Option Tree :=
  match documents (tokens text) with
  | [root] => root.bind Node.tree?
  | _ => none

end ClusterTuning.Yaml
