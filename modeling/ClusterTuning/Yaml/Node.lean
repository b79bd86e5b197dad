import ClusterTuning.Yaml.Token

/-!
# ClusterTuning.Yaml.Node

**Tokens as the nodes of documents.**

The grammar is a recursive descent over tokens. A missing node, between a key and the next, or
behind a lone dash, is an empty plain scalar. Every function takes a bound on its steps, for which
the number of tokens serves.

Nodes refer to each other by anchors. `Node` is generic in how they do: by the name that the text
gives, and then by a number, which is what decides when a name is given twice.
-/

namespace ClusterTuning.Yaml

/-- A node of a document, in which anchors are named by `ρ`. -/
inductive Node (ρ : Type) where
  /-- A scalar with its anchor, tag, text and style. -/
  | scalar (anchor : Option ρ) (tag : Option (List Char)) (text : List Char) (style : Style)
  /-- A sequence with its anchor, tag and items. -/
  | sequence (anchor : Option ρ) (tag : Option (List Char)) (items : List (Node ρ))
  /-- A mapping with its anchor, tag and entries. -/
  | mapping (anchor : Option ρ) (tag : Option (List Char)) (entries : List (Node ρ × Node ρ))
  /-- A reference to an anchored node. -/
  | alias (name : ρ)
deriving Inhabited

/-- The node in a place where none is written. -/
def Node.empty {ρ : Type} : Node ρ :=
  .scalar none none [] .plain

/-! ### The grammar -/

/-- What handles stand for in a document. -/
abbrev Handles := List (List Char × List Char)

/-- The handles of every document. -/
def knownHandles : Handles :=
  [("!".toList, "!".toList), ("!!".toList, "tag:yaml.org,2002:".toList)]

/-- A written tag in full, if its handle is known. -/
def WrittenTag.resolve? (handles : Handles) (t : WrittenTag) : Option (List Char) :=
  if t.handle.isEmpty then some t.suffix
  else (handles.find? fun entry => entry.1 = t.handle).map fun entry => entry.2 ++ t.suffix

/-- An anchor and a tag in either order, and the tokens behind them. -/
def takeProperties (handles : Handles) (ts : List Token) :
    Option (Option (List Char) × Option (List Char) × List Token) :=
  match ts with
  | .anchor name :: .tag t :: rest => (t.resolve? handles).map fun t => (some name, some t, rest)
  | .anchor name :: rest => some (some name, none, rest)
  | .tag t :: .anchor name :: rest => (t.resolve? handles).map fun t => (some name, some t, rest)
  | .tag t :: rest => (t.resolve? handles).map fun t => (none, some t, rest)
  | rest => some (none, none, rest)

/-- Does the token end an entry of a block mapping? -/
def endsBlockEntry : Token → Bool
  | .key | .value | .blockEnd => true
  | _ => false

/-- Does the token end an item of a flow sequence? -/
def endsFlowItem : Token → Bool
  | .flowEntry | .flowSequenceEnd => true
  | _ => false

/-- Does the token end an entry of a flow mapping? -/
def endsFlowEntry : Token → Bool
  | .flowEntry | .flowMappingEnd => true
  | _ => false

/-- Does the first token satisfy `p`? -/
def nextIs (p : Token → Bool) (ts : List Token) : Bool :=
  ts.head?.any p

/-- The tag `!` alone says nothing about a scalar. -/
def scalarTag (tag : Option (List Char)) : Option (List Char) :=
  if tag = some ['!'] then none else tag

mutual

/-- A node. Blocks are read where `block` allows them, and a sequence without indentation of its own
where `flat` does. -/
def node? (handles : Handles) : Nat → Bool → Bool → List Token →
    Option (Node (List Char) × List Token)
  | 0, _, _, _ => none
  | fuel + 1, block, flat, ts =>
    match ts with
    | .alias name :: rest => some (.alias name, rest)
    | _ =>
      match takeProperties handles ts with
      | none => none
      | some (anchor, tag, ts) =>
        match ts with
        | .scalar text style :: rest => some (.scalar anchor (scalarTag tag) text style, rest)
        | .flowSequenceStart :: rest =>
          (flowItems? handles fuel true rest).map fun (items, rest) =>
            (.sequence anchor tag items, rest)
        | .flowMappingStart :: rest =>
          (flowEntries? handles fuel true rest).map fun (entries, rest) =>
            (.mapping anchor tag entries, rest)
        | .blockEntry :: _ =>
          if flat then
            (flatItems? handles fuel ts).map fun (items, rest) => (.sequence anchor tag items, rest)
          else bare anchor tag ts
        | .blockSequenceStart :: rest =>
          if block then
            (blockItems? handles fuel rest).map fun (items, rest) =>
              (.sequence anchor tag items, rest)
          else bare anchor tag ts
        | .blockMappingStart :: rest =>
          if block then
            (blockEntries? handles fuel rest).map fun (entries, rest) =>
              (.mapping anchor tag entries, rest)
          else bare anchor tag ts
        | _ => bare anchor tag ts
where
  /-- A node that has properties only. -/
  bare (anchor tag : Option (List Char)) (ts : List Token) :
      Option (Node (List Char) × List Token) :=
    if anchor.isSome || tag.isSome then some (.scalar anchor tag [] .plain, ts) else none

/-- The items of a block sequence, up to its end. -/
def blockItems? (handles : Handles) : Nat → List Token →
    Option (List (Node (List Char)) × List Token)
  | 0, _ => none
  | fuel + 1, ts =>
    match ts with
    | .blockEntry :: rest =>
      let item := match rest with
        | .blockEntry :: _ | .blockEnd :: _ => some (Node.empty, rest)
        | _ => node? handles fuel true false rest
      match item with
      | none => none
      | some (item, rest) =>
        (blockItems? handles fuel rest).map fun (items, rest) => (item :: items, rest)
    | .blockEnd :: rest => some ([], rest)
    | _ => none

/-- The items of a block sequence that is indented no further than the mapping around it. -/
def flatItems? (handles : Handles) : Nat → List Token →
    Option (List (Node (List Char)) × List Token)
  | 0, _ => none
  | fuel + 1, ts =>
    match ts with
    | .blockEntry :: rest =>
      let missing := match rest with
        | .blockEntry :: _ => true
        | t :: _ => endsBlockEntry t
        | [] => false
      match if missing then some (Node.empty, rest) else node? handles fuel true false rest with
      | none => none
      | some (item, rest) =>
        (flatItems? handles fuel rest).map fun (items, rest) => (item :: items, rest)
    | rest => some ([], rest)

/-- The entries of a block mapping, up to its end. -/
def blockEntries? (handles : Handles) : Nat → List Token →
    Option (List (Node (List Char) × Node (List Char)) × List Token)
  | 0, _ => none
  | fuel + 1, ts =>
    match ts with
    | .key :: rest =>
      match if nextIs endsBlockEntry rest then some (Node.empty, rest)
        else node? handles fuel true true rest with
      | none => none
      | some (k, rest) =>
        match blockValue? handles fuel rest with
        | none => none
        | some (v, rest) =>
          (blockEntries? handles fuel rest).map fun (entries, rest) => ((k, v) :: entries, rest)
    | .blockEnd :: rest => some ([], rest)
    | _ => none

/-- The value of an entry of a block mapping, which may be missing. -/
def blockValue? (handles : Handles) : Nat → List Token →
    Option (Node (List Char) × List Token)
  | 0, _ => none
  | fuel + 1, ts =>
    match ts with
    | .value :: rest =>
      if nextIs endsBlockEntry rest then some (Node.empty, rest)
      else node? handles fuel true true rest
    | rest => some (Node.empty, rest)

/-- The items of a flow sequence, up to its bracket. An item may be a mapping of one entry. -/
def flowItems? (handles : Handles) : Nat → Bool → List Token →
    Option (List (Node (List Char)) × List Token)
  | 0, _, _ => none
  | fuel + 1, first, ts =>
    match ts with
    | .flowSequenceEnd :: rest => some ([], rest)
    | _ =>
      match if first then some ts else
          (match ts with
          | .flowEntry :: rest => some rest
          | _ => none) with
      | none => none
      | some ts =>
        match ts with
        | .flowSequenceEnd :: rest => some ([], rest)
        | .key :: rest =>
          match flowPair? handles fuel rest with
          | none => none
          | some (entry, rest) =>
            (flowItems? handles fuel false rest).map fun (items, rest) =>
              (.mapping none none [entry] :: items, rest)
        | _ =>
          match node? handles fuel false false ts with
          | none => none
          | some (item, rest) =>
            (flowItems? handles fuel false rest).map fun (items, rest) => (item :: items, rest)

/-- The single entry of a mapping inside a flow sequence. The token behind a missing key is
skipped, whatever it is. -/
def flowPair? (handles : Handles) : Nat → List Token →
    Option ((Node (List Char) × Node (List Char)) × List Token)
  | 0, _ => none
  | fuel + 1, ts =>
    let missing := nextIs (fun t => endsFlowItem t || t == .value) ts
    match if missing then some (Node.empty, ts.tail) else node? handles fuel false false ts with
    | none => none
    | some (k, rest) =>
      match rest with
      | .value :: rest =>
        if nextIs endsFlowItem rest then some ((k, Node.empty), rest)
        else (node? handles fuel false false rest).map fun (v, rest) => ((k, v), rest)
      | rest => some ((k, Node.empty), rest)

/-- The entries of a flow mapping, up to its brace. -/
def flowEntries? (handles : Handles) : Nat → Bool → List Token →
    Option (List (Node (List Char) × Node (List Char)) × List Token)
  | 0, _, _ => none
  | fuel + 1, first, ts =>
    match ts with
    | .flowMappingEnd :: rest => some ([], rest)
    | _ =>
      match if first then some ts else
          (match ts with
          | .flowEntry :: rest => some rest
          | _ => none) with
      | none => none
      | some ts =>
        match ts with
        | .flowMappingEnd :: rest => some ([], rest)
        | .key :: rest =>
          let missing := nextIs (fun t => endsFlowEntry t || t == .value) rest
          let keyed := if missing then some (Node.empty, rest)
            else node? handles fuel false false rest
          match keyed with
          | none => none
          | some (k, rest) =>
            match flowValue? handles fuel rest with
            | none => none
            | some (v, rest) =>
              (flowEntries? handles fuel false rest).map fun (entries, rest) =>
                ((k, v) :: entries, rest)
        | _ =>
          match node? handles fuel false false ts with
          | none => none
          | some (k, rest) =>
            (flowEntries? handles fuel false rest).map fun (entries, rest) =>
              ((k, Node.empty) :: entries, rest)

/-- The value of an entry of a flow mapping, which may be missing. -/
def flowValue? (handles : Handles) : Nat → List Token →
    Option (Node (List Char) × List Token)
  | 0, _ => none
  | fuel + 1, ts =>
    match ts with
    | .value :: rest =>
      if nextIs endsFlowEntry rest then some (Node.empty, rest)
      else node? handles fuel false false rest
    | rest => some (Node.empty, rest)

end

/-! ### Documents -/

/-- Read the directives in front of a document. A version is given once and is 1.1 or 1.2, and no
handle is given twice. -/
def takeDirectives : Bool → Handles → List Token → Option (Handles × List Token)
  | versioned, handles, .directive (.version major minor) :: rest =>
    if versioned || major != 1 || !(minor == 1 || minor == 2) then none
    else takeDirectives true handles rest
  | versioned, handles, .directive (.tag handle text) :: rest =>
    if handles.any fun entry => entry.1 = handle then none
    else takeDirectives versioned (handles ++ [(handle, text)]) rest
  | _, handles, rest => some (handles, rest)

/-- Does the token end the content of a document? -/
def endsContent : Token → Bool
  | .directive _ | .documentStart | .documentEnd | .streamEnd => true
  | _ => false

/-- The content of a document and what follows its end. -/
def content? (handles : Handles) (ts : List Token) : Option (Node (List Char) × List Token) :=
  match node? handles (3 * ts.length + 3) true false ts with
  | some (root, .documentEnd :: rest) => some (root, rest)
  | some (_, .malformed :: _) => none
  | found => found

/-- A document that begins with directives or with its mark. -/
def markedDocument? (ts : List Token) : Option (Node (List Char) × List Token) :=
  match takeDirectives false [] ts with
  | some (handles, .documentStart :: rest) =>
    if nextIs endsContent rest then
      match rest with
      | .documentEnd :: rest => some (Node.empty, rest)
      | rest => some (Node.empty, rest)
    else content? (handles ++ knownHandles) rest
  | _ => none

/-- The documents behind the first one. Reading stops behind the first malformed document, for which
`none` stands. -/
def laterDocuments : Nat → List Token → List (Option (Node (List Char)))
  | 0, _ => []
  | fuel + 1, ts =>
    match ts.dropWhile (· == .documentEnd) with
    | [.streamEnd] => []
    | ts =>
      match markedDocument? ts with
      | none => [none]
      | some (root, rest) => some root :: laterDocuments fuel rest

/-- The documents of a text. Only the first one may begin without a mark, and an empty text is one
empty document. -/
def documents (ts : List Token) : List (Option (Node (List Char))) :=
  let first := match ts with
    | [.streamEnd] => some (Node.empty, ts)
    | .directive _ :: _ | .documentStart :: _ => markedDocument? ts
    | _ => content? knownHandles ts
  match first with
  | none => [none]
  | some (root, rest) => some root :: laterDocuments ts.length rest

/-! ### Anchors -/

/-- The numbers of the anchors named so far. -/
abbrev Anchors := List (List Char × Nat)

/-- Give an anchor its number: the count of different names so far. A name that is given again gets
a new number, which the next new name then shares. -/
def Anchors.assign (anchors : Anchors) (name : List Char) : Anchors × Nat :=
  let number := anchors.length
  ((name, number) :: anchors.filter fun entry => entry.1 ≠ name, number)

/-- The number of a name. -/
def Anchors.find? (anchors : Anchors) (name : List Char) : Option Nat :=
  (List.find? (fun entry => entry.1 = name) anchors).map Prod.snd

/-- Give the anchor of a node, if it has one, its number. -/
def Anchors.assign? (anchors : Anchors) : Option (List Char) → Anchors × Option Nat
  | none => (anchors, none)
  | some name =>
    let (anchors, number) := anchors.assign name
    (anchors, some number)

mutual

/-- Number the anchors of a node in the order of the text. An alias of a name that was not yet given
is refused. -/
def numberNode? (anchors : Anchors) : Node (List Char) → Option (Node Nat × Anchors)
  | .alias name => (anchors.find? name).map fun number => (.alias number, anchors)
  | .scalar anchor tag text style =>
    let (anchors, anchor) := anchors.assign? anchor
    some (.scalar anchor tag text style, anchors)
  | .sequence anchor tag items =>
    let (anchors, anchor) := anchors.assign? anchor
    (numberItems? anchors items).map fun (items, anchors) => (.sequence anchor tag items, anchors)
  | .mapping anchor tag entries =>
    let (anchors, anchor) := anchors.assign? anchor
    (numberEntries? anchors entries).map fun (entries, anchors) =>
      (.mapping anchor tag entries, anchors)

/-- Number the anchors of items. -/
def numberItems? (anchors : Anchors) : List (Node (List Char)) → Option (List (Node Nat) × Anchors)
  | [] => some ([], anchors)
  | item :: rest =>
    match numberNode? anchors item with
    | none => none
    | some (item, anchors) =>
      (numberItems? anchors rest).map fun (items, anchors) => (item :: items, anchors)

/-- Number the anchors of entries. -/
def numberEntries? (anchors : Anchors) :
    List (Node (List Char) × Node (List Char)) → Option (List (Node Nat × Node Nat) × Anchors)
  | [] => some ([], anchors)
  | (k, v) :: rest =>
    match numberNode? anchors k with
    | none => none
    | some (k, anchors) =>
      match numberNode? anchors v with
      | none => none
      | some (v, anchors) =>
        (numberEntries? anchors rest).map fun (entries, anchors) => ((k, v) :: entries, anchors)

end

/-- A node with its number, if it has one. -/
def numbered (anchor : Option Nat) (node : Node Nat) : List (Nat × Node Nat) :=
  match anchor with
  | some number => [(number, node)]
  | none => []

mutual

/-- The anchored nodes by number, in the order of the text. -/
def Node.anchored : Node Nat → List (Nat × Node Nat)
  | .alias _ => []
  | .scalar anchor tag text style => numbered anchor (.scalar anchor tag text style)
  | .sequence anchor tag items =>
    numbered anchor (.sequence anchor tag items) ++ anchoredItems items
  | .mapping anchor tag entries =>
    numbered anchor (.mapping anchor tag entries) ++ anchoredEntries entries

/-- The anchored nodes of items. -/
def anchoredItems : List (Node Nat) → List (Nat × Node Nat)
  | [] => []
  | item :: rest => item.anchored ++ anchoredItems rest

/-- The anchored nodes of entries. -/
def anchoredEntries : List (Node Nat × Node Nat) → List (Nat × Node Nat)
  | [] => []
  | (k, v) :: rest => k.anchored ++ v.anchored ++ anchoredEntries rest

end

mutual

/-- The size of a node: one for a scalar or an alias, and two for the ends of a collection. -/
def Node.size : Node Nat → Nat
  | .alias _ | .scalar .. => 1
  | .sequence _ _ items => 2 + sizeOfItems items
  | .mapping _ _ entries => 2 + sizeOfEntries entries

/-- The size of items. -/
def sizeOfItems : List (Node Nat) → Nat
  | [] => 0
  | item :: rest => item.size + sizeOfItems rest

/-- The size of entries. -/
def sizeOfEntries : List (Node Nat × Node Nat) → Nat
  | [] => 0
  | (k, v) :: rest => k.size + v.size + sizeOfEntries rest

end

end ClusterTuning.Yaml
