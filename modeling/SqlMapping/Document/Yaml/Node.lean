import SqlMapping.Document.Yaml.Token

/-!
# Nodes of a YAML text

The tree of a text: scalars, sequences and mappings, each with its full tag. A reference stands for
the node that was given its name before; no two nodes have one name. A reference inside the node of
its name makes a node that holds itself. Such a node is unfolded a few times, which is deeper than
any reader of a document looks; an empty node of the same kind stands at the bottom.
-/

namespace SqlMapping.Document.Yaml

/-- A node. -/
inductive Node where
  /-- A scalar. -/
  | scalar (tag text : String)
  /-- A sequence. -/
  | sequence (tag : String) (items : List Node)
  /-- A mapping, with its entries in their order. -/
  | mapping (tag : String) (entries : List (Node × Node))
  /-- The node of that name, which is not complete yet. -/
  | again (name : String)

/-- The tokens that are left, and the nodes that have a name. -/
structure Builder where
  /-- The tokens. -/
  tokens : List Token
  /-- The nodes by name. -/
  named : List (String × Node) := []
  /-- The names of the nodes that are begun. -/
  begun : List String := []

namespace Builder

/-- The next token. -/
def next (b : Builder) : Token :=
  b.tokens.headD .streamEnd

/-- The state after the next token. -/
def drop (b : Builder) : Builder :=
  { b with tokens := b.tokens.drop 1 }

/-- The state in which the node of a name is begun. -/
def enter (b : Builder) (name : Option String) : Builder :=
  { b with begun := name.toList ++ b.begun }

/-- The node that a reference stands for, if there is one. -/
def find? (b : Builder) (name : String) : Option Node :=
  match b.named.lookup name with
  | some node => some node
  | none => if b.begun.contains name then some (.again name) else none

/-- Gives a node a name, unless the name is taken. -/
def register (b : Builder) (name : Option String) (node : Node) : Option Builder :=
  match name with
  | none => some b
  | some name =>
    if (b.named.lookup name).isSome then none
    else some { b with named := (name, node) :: b.named }

end Builder

/-- The node that stands where none is written. -/
def emptyNode : Node :=
  .scalar (standard ++ "null") ""

/-! ## Nodes that hold themselves -/

namespace Node

/-- An empty node of the kind of a node. -/
def hollow : Node → Node
  | .scalar tag text => .scalar tag text
  | .sequence tag _ => .sequence tag []
  | .mapping tag _ => .mapping tag []
  | .again _ => emptyNode

mutual

/-- A node in which nodes stand in the places of their names. -/
def fill (named : List (String × Node)) : Node → Node
  | .scalar tag text => .scalar tag text
  | .sequence tag items => .sequence tag (fillItems named items)
  | .mapping tag entries => .mapping tag (fillEntries named entries)
  | .again name => (named.lookup name).getD emptyNode

/-- Nodes in which nodes stand in the places of their names. -/
def fillItems (named : List (String × Node)) : List Node → List Node
  | [] => []
  | item :: rest => item.fill named :: fillItems named rest

/-- Entries in which nodes stand in the places of their names. -/
def fillEntries (named : List (String × Node)) : List (Node × Node) → List (Node × Node)
  | [] => []
  | (key, value) :: rest => (key.fill named, value.fill named) :: fillEntries named rest

end

/-- How often a node that holds itself is unfolded. -/
def unfoldings : Nat := 4

/-- The nodes by name, unfolded so many times. -/
def unfold (named : List (String × Node)) : Nat → List (String × Node)
  | 0 => named.map fun (name, node) => (name, node.hollow)
  | n + 1 => named.map fun (name, node) => (name, node.fill (unfold named n))

end Node

/-- The complete node that has been read. -/
def Builder.complete (b : Builder) (node : Node) : Node :=
  node.fill (Node.unfold b.named Node.unfoldings)

/-! ## Reading -/

/-- What may stand before a node: its name and its tag. -/
structure Properties where
  /-- The name. -/
  name : Option String := none
  /-- The full tag. -/
  tag : Option String := none

/-- Reads the name and the tag before a node, in either order. -/
def readProperties (handles : List (String × String)) (b : Builder) :
    Option (Properties × Builder) :=
  match b.next with
  | .anchor name =>
    match b.drop.next with
    | .tag t => do
      let tag ← t.resolve? handles
      return (⟨some name, some tag⟩, b.drop.drop)
    | _ => some (⟨some name, none⟩, b.drop)
  | .tag t => do
    let tag ← t.resolve? handles
    match b.drop.next with
    | .anchor name => return (⟨some name, some tag⟩, b.drop.drop)
    | _ => return (⟨none, some tag⟩, b.drop)
  | _ => some ({}, b)

/-- The tag of a scalar. One without a tag of its own is a text if it is quoted, and is given a tag
by its text otherwise; so is one with the tag that asks for no particular one. -/
def scalarTag (tag : Option String) (text : String) (plain : Bool) : String :=
  match tag with
  | none => if plain then plainTag text else standard ++ "str"
  | some tag => if tag = "!" then plainTag text else tag

/-- The tag of a collection; `kind` is the one of a collection without a tag of its own. -/
def collectionTag (tag : Option String) (kind : String) : String :=
  match tag with
  | none => standard ++ kind
  | some tag => if tag = "!" then standard ++ kind else tag

/-- The kinds of places at which a node may stand. -/
inductive Position where
  /-- Inside brackets. -/
  | flow
  /-- In a block. -/
  | block
  /-- As a key or value in a block, where items need no indentation of their own. -/
  | entry
deriving DecidableEq

section Reading

variable (handles : List (String × String))

mutual

/-- Reads a node; the fuel bounds how many nodes and entries are read in turn. -/
def readNode : Nat → Position → Builder → Option (Node × Builder)
  | 0, _, _ => none
  | fuel + 1, position, b =>
    match b.next with
    | .reference name => (b.find? name).map fun node => (node, b.drop)
    | _ => do
      let (properties, b) ← readProperties handles b
      let (node, b) ← readContent fuel position properties (b.enter properties.name)
      let b ← b.register properties.name node
      return (node, b)

/-- Reads a node after its name and its tag. -/
def readContent : Nat → Position → Properties → Builder → Option (Node × Builder)
  | 0, _, _, _ => none
  | fuel + 1, position, properties, b =>
    let sequence := fun (items : List Node) =>
      Node.sequence (collectionTag properties.tag "seq") items
    let mapping := fun (entries : List (Node × Node)) =>
      Node.mapping (collectionTag properties.tag "map") entries
    match b.next with
    | .scalar text plain => some (.scalar (scalarTag properties.tag text plain) text, b.drop)
    | .flowSequence => (readFlowItems fuel true b.drop).map fun (items, b) => (sequence items, b)
    | .flowMapping => (readFlowEntries fuel true b.drop).map fun (es, b) => (mapping es, b)
    | token =>
      if token = .blockEntry && position = .entry then
        (readEntryItems fuel b).map fun (items, b) => (sequence items, b)
      else if token = .blockSequence && position != .flow then
        (readBlockItems fuel b.drop).map fun (items, b) => (sequence items, b)
      else if token = .blockMapping && position != .flow then
        (readBlockEntries fuel b.drop).map fun (es, b) => (mapping es, b)
      else if properties.name.isSome || properties.tag.isSome then
        some (.scalar (scalarTag properties.tag "" true) "", b)
      else none

/-- Reads a node unless one of the given tokens shows that it is left out. -/
def readUnless : Nat → List Token → Position → Builder → Option (Node × Builder)
  | 0, _, _, _ => none
  | fuel + 1, ends, position, b =>
    if ends.contains b.next then some (emptyNode, b) else readNode fuel position b

/-- Reads the items of a block up to its end. -/
def readBlockItems : Nat → Builder → Option (List Node × Builder)
  | 0, _ => none
  | fuel + 1, b =>
    match b.next with
    | .blockEntry => do
      let (item, b) ← readUnless fuel [.blockEntry, .blockEnd] .block b.drop
      let (items, b) ← readBlockItems fuel b
      return (item :: items, b)
    | .blockEnd => some ([], b.drop)
    | _ => none

/-- Reads the items that have no block of their own. -/
def readEntryItems : Nat → Builder → Option (List Node × Builder)
  | 0, _ => none
  | fuel + 1, b =>
    match b.next with
    | .blockEntry => do
      let (item, b) ← readUnless fuel [.blockEntry, .key, .value, .blockEnd] .block b.drop
      let (items, b) ← readEntryItems fuel b
      return (item :: items, b)
    | _ => some ([], b)

/-- Reads a value in a block, if there is one. -/
def readBlockValue : Nat → Builder → Option (Node × Builder)
  | 0, _ => none
  | fuel + 1, b =>
    match b.next with
    | .value => readUnless fuel [.key, .value, .blockEnd] .entry b.drop
    | _ => some (emptyNode, b)

/-- Reads the entries of a block up to its end. -/
def readBlockEntries : Nat → Builder → Option (List (Node × Node) × Builder)
  | 0, _ => none
  | fuel + 1, b =>
    match b.next with
    | .key => do
      let (key, b) ← readUnless fuel [.key, .value, .blockEnd] .entry b.drop
      let (value, b) ← readBlockValue fuel b
      let (others, b) ← readBlockEntries fuel b
      return ((key, value) :: others, b)
    | .blockEnd => some ([], b.drop)
    | _ => none

/-- Reads a value inside brackets that end with `closing`, if there is one. -/
def readFlowValue : Nat → Token → Builder → Option (Node × Builder)
  | 0, _, _ => none
  | fuel + 1, closing, b =>
    match b.next with
    | .value => readUnless fuel [.flowEntry, closing] .flow b.drop
    | _ => some (emptyNode, b)

/-- Reads the items between brackets; all but the first one follow a comma. -/
def readFlowItems : Nat → Bool → Builder → Option (List Node × Builder)
  | 0, _, _ => none
  | fuel + 1, isFirst, b =>
    if b.next = .flowSequenceEnd then some ([], b.drop)
    else if !isFirst && b.next != .flowEntry then none
    else do
      let b := if isFirst then b else b.drop
      match b.next with
      | .flowSequenceEnd => return ([], b.drop)
      | .key =>
        let (key, b) ← readUnless fuel [.value, .flowEntry, .flowSequenceEnd] .flow b.drop
        let (value, b) ← readFlowValue fuel .flowSequenceEnd b
        let (others, b) ← readFlowItems fuel false b
        return (.mapping (standard ++ "map") [(key, value)] :: others, b)
      | _ =>
        let (item, b) ← readNode fuel .flow b
        let (others, b) ← readFlowItems fuel false b
        return (item :: others, b)

/-- Reads the entries between braces; all but the first one follow a comma. -/
def readFlowEntries : Nat → Bool → Builder → Option (List (Node × Node) × Builder)
  | 0, _, _ => none
  | fuel + 1, isFirst, b =>
    if b.next = .flowMappingEnd then some ([], b.drop)
    else if !isFirst && b.next != .flowEntry then none
    else do
      let b := if isFirst then b else b.drop
      match b.next with
      | .flowMappingEnd => return ([], b.drop)
      | .key =>
        let (key, b) ← readUnless fuel [.value, .flowEntry, .flowMappingEnd] .flow b.drop
        let (value, b) ← readFlowValue fuel .flowMappingEnd b
        let (others, b) ← readFlowEntries fuel false b
        return ((key, value) :: others, b)
      | _ =>
        let (key, b) ← readNode fuel .flow b
        let (others, b) ← readFlowEntries fuel false b
        return ((key, emptyNode) :: others, b)

end

end Reading

/-- Reads the directives before a document: whether one on the version was among them, and the
handles. -/
def readDirectives : Bool → List (String × String) → List Token →
    Option (List (String × String) × List Token)
  | hasVersion, handles, .version major :: rest =>
    if hasVersion || major != 1 then none else readDirectives true handles rest
  | hasVersion, handles, .handle name start :: rest =>
    if (handles.lookup name).isSome then none
    else readDirectives hasVersion ((name, start) :: handles) rest
  | hasVersion, handles, .directive :: rest => readDirectives hasVersion handles rest
  | _, handles, rest => some (handles ++ defaultHandles, rest)

/-- Whether nothing but the end of the text follows, after marks that end a document. -/
def isAtEnd : List Token → Bool
  | .documentEnd :: rest => isAtEnd rest
  | .streamEnd :: _ => true
  | _ => false

/-- Whether a token shows that a document has no content. -/
def Token.isBetweenDocuments : Token → Bool
  | .version _ | .handle .. | .directive | .documentStart | .documentEnd | .streamEnd => true
  | _ => false

/-- The only document that the tokens hold; the text may also hold none. -/
def Node.ofTokens? (tokens : List Token) : Option (Option Node) :=
  let fuel := 4 * tokens.length + 4
  match tokens.headD .streamEnd with
  | .streamEnd => some none
  | .version _ | .handle .. | .directive | .documentStart => do
    let (handles, rest) ← readDirectives false [] tokens
    match rest with
    | .documentStart :: rest =>
      let (node, b) ←
        if (rest.headD .streamEnd).isBetweenDocuments then some (emptyNode, { tokens := rest })
        else readNode handles fuel .block { tokens := rest }
      if isAtEnd b.tokens then return some (b.complete node) else none
    | _ => none
  | _ => do
    let (node, b) ← readNode defaultHandles fuel .block { tokens }
    if isAtEnd b.tokens then return some (b.complete node) else none

end SqlMapping.Document.Yaml
