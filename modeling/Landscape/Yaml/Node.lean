import Landscape.Yaml.Tag
import Landscape.Yaml.Token

/-!
# Nodes

The tokens of a document form nodes: scalars, sequences and mappings, each with its tag
(`Landscape.Yaml.Node`). A node has a number, and collections hold the numbers of their parts, so an alias is one more
place with the number of the node that its anchor names, be it a node around it.
`Landscape.Yaml.Nodes.ofTokens?` builds the nodes.

The functions follow the grammar, one for each construct, and each takes the tokens that are left. A
token is taken at least at every second step, so twice as much fuel as there are tokens would do; they get
four times as much.

Collections are read inside one another, and whoever reads them may have room for so many only
(`Landscape.Yaml.Nodes.inside`). The room is counted in collections: a little more of it that may be needed for the
tokens of a scalar is left out.
-/

namespace Landscape.Yaml

/-- What a node holds; parts are given by their numbers. -/
inductive Content where
  | scalar (text : List Char)
  | sequence (items : List Nat)
  | mapping (entries : List (Nat × Nat))
  deriving Repr, Inhabited

/-- A node of a document. -/
structure Node where
  tag : Tag
  content : Content
  deriving Repr

instance : Inhabited Node := ⟨⟨.null, .scalar []⟩⟩

/-- The nodes of a document by their numbers. -/
abbrev Nodes := Array Node

namespace Nodes

/-- The node with a number. -/
def node (ns : Nodes) (n : Nat) : Node :=
  ns.getD n default

/-! ### The state of building -/

/-- What has been built so far, and the tokens that are left. -/
structure Building where
  row : Row
  nodes : Nodes := #[]
  /-- The nodes that anchors name, the latest first. -/
  anchors : List (String × Nat) := []
  /-- What the tag handles stand for. -/
  handles : List (String × String) := []
  /-- How many more collections may be read inside one another, if there is a bound. -/
  room : Option Nat := none

/-- A step of building: it takes tokens, makes nodes and may name them. -/
abbrev Builder := StateT Building (Except Fault)

/-- The next token. A row without a fault has the end of the text as its last; one with a fault shows it when no
token is left. -/
def peek : Builder Token := do
  match (← get).row with
  | ⟨t :: _, _⟩ => return t
  | ⟨[], some f⟩ => throw f
  | ⟨[], none⟩ => return .streamEnd

/-- Takes the next token. -/
def take : Builder Unit :=
  modify fun b => { b with row := { b.row with tokens := b.row.tokens.drop 1 } }

/-- Takes the next token if it is the given one. -/
def takeIf (t : Token) : Builder Bool := do
  if (← peek) == t then
    take
    return true
  else return false

/-- Makes a node. -/
def make (tag : Tag) (content : Content) : Builder Nat :=
  modifyGet fun b => (b.nodes.size, { b with nodes := b.nodes.push ⟨tag, content⟩ })

/-- Fills a collection that was made empty. -/
def fill (n : Nat) (content : Content) : Builder Nat := do
  modify fun b => { b with nodes := b.nodes.modify n fun x => { x with content } }
  return n

/-- Names a node; a name may be used once in a document. -/
def name (anchor : Option String) (n : Nat) : Builder Unit := do
  if let some a := anchor then
    if ((← get).anchors.lookup a).isSome then throw (.duplicateAnchor a)
    modify fun b => { b with anchors := (a, n) :: b.anchors }

/-- Makes a scalar and names it. -/
def makeScalar (anchor : Option String) (tag : Tag) (text : List Char) : Builder Nat := do
  let n ← make tag (.scalar text)
  name anchor n
  return n

/-- Reads what is inside a collection, if there is room. -/
def inside {α : Type} (parts : Builder α) : Builder α := do
  let room := (← get).room
  if room == some 0 then throw .tooDeep
  modify fun b => { b with room := room.map (· - 1) }
  let x ← parts
  modify fun b => { b with room }
  return x

/-- Makes a sequence, which has its name already while its items are read. -/
def makeSequence (anchor : Option String) (tag : Tag) (items : Builder (List Nat)) : Builder Nat := do
  let n ← make tag (.sequence [])
  name anchor n
  fill n (.sequence (← inside items))

/-- Makes a mapping, which has its name already while its entries are read. -/
def makeMapping (anchor : Option String) (tag : Tag) (entries : Builder (List (Nat × Nat))) :
    Builder Nat := do
  let n ← make tag (.mapping [])
  name anchor n
  fill n (.mapping (← inside entries))

/-- The node of an alias. -/
def named (a : String) : Builder Nat := do
  match (← get).anchors.lookup a with
  | some n => return n
  | none => throw (.undefinedAlias a)

/-- An empty plain scalar. -/
def empty : Builder Nat :=
  make (.ofPlain []) (.scalar [])

/-! ### Properties -/

/-- The anchor and the tag of a node, in either order. The tag is given by its full name. -/
def properties : Builder (Option String × Option String) := do
  let anchor : Builder (Option String) := do
    match ← peek with
    | .anchor a => take; return some a
    | _ => return none
  let tag : Builder (Option String) := do
    match ← peek with
    | .tag handle suffix =>
      take
      match handle with
      | none => return some suffix
      | some h =>
        match (← get).handles.lookup h with
        | some start => return some (start ++ suffix)
        | none => throw (.undefinedHandle h)
    | _ => return none
  match ← anchor with
  | some a => return (some a, ← tag)
  | none => do
    let t ← tag
    return (← if t.isSome then anchor else pure none, t)

/-- The tag of a collection that has the given name, if it has one; the single exclamation mark is no
name. -/
def collectionTag (common : Tag) : Option String → Tag
  | none => common
  | some t => if t == "!" then common else .ofName t

/-- The tag of a scalar. A plain one is read by its text, and so is one with the single
exclamation mark. -/
def scalarTag (name : Option String) (text : List Char) (plain : Bool) : Tag :=
  match name with
  | none => if plain then .ofPlain text else .text
  | some t => if t == "!" then .ofPlain text else .ofName t

/-! ### The grammar -/

/-- Whether a token can follow an entry of a block sequence that has no content. -/
def endsEntry (t : Token) : Bool :=
  t == .blockEntry || t == .blockEnd

/-- Whether a token can follow a key or value of a block mapping that has no content. -/
def endsPart (t : Token) : Bool :=
  t == .key || t == .value || t == .blockEnd

/-- Whether a token can follow a key or value in a flow collection that has no content. -/
def endsFlowPart (closing : Token) (t : Token) : Bool :=
  t == .value || t == .flowEntry || t == closing

mutual

/-- A node. In block context it may be a block collection, and where the value of a mapping stands also a
sequence that is not indented. -/
def readNode (block indentless : Bool) : Nat → Builder Nat
  | 0 => throw .tooDeep
  | fuel + 1 => do
    if let .aliasTo a := ← peek then
      take
      return ← named a
    let (anchor, tag) ← properties
    let listTag := collectionTag .list tag
    let mappingTag := collectionTag .mapping tag
    match ← peek with
    | .blockEntry =>
      if indentless then makeSequence anchor listTag (indentlessEntries fuel) else bare anchor tag
    | .scalar text plain =>
      take
      makeScalar anchor (scalarTag tag text plain) text
    | .flowSequenceStart =>
      take
      makeSequence anchor listTag (flowItems true fuel)
    | .flowMappingStart =>
      take
      makeMapping anchor mappingTag (flowEntries true fuel)
    | .blockSequenceStart =>
      if block then
        take
        makeSequence anchor listTag (blockItems fuel)
      else bare anchor tag
    | .blockMappingStart =>
      if block then
        take
        makeMapping anchor mappingTag (blockEntries fuel)
      else bare anchor tag
    | _ => bare anchor tag

/-- A node without content, which has to have an anchor or a tag. -/
def bare (anchor tag : Option String) : Builder Nat := do
  if anchor.isNone && tag.isNone then throw (.expected "the node content")
  makeScalar anchor (scalarTag tag [] true) []

/-- The entries of a block sequence, up to its end. -/
def blockItems : Nat → Builder (List Nat)
  | 0 => throw .tooDeep
  | fuel + 1 => do
    if ← takeIf .blockEntry then
      let x ← if endsEntry (← peek) then empty else readNode true false fuel
      return x :: (← blockItems fuel)
    else if ← takeIf .blockEnd then return []
    else throw (.expected "<block end>")

/-- The entries of a sequence that is not indented. -/
def indentlessEntries : Nat → Builder (List Nat)
  | 0 => throw .tooDeep
  | fuel + 1 => do
    if ← takeIf .blockEntry then
      let t ← peek
      let x ← if t == .blockEntry || endsPart t then empty else readNode true false fuel
      return x :: (← indentlessEntries fuel)
    else return []

/-- The entries of a block mapping, up to its end. -/
def blockEntries : Nat → Builder (List (Nat × Nat))
  | 0 => throw .tooDeep
  | fuel + 1 => do
    if ← takeIf .key then
      let k ← if endsPart (← peek) then empty else readNode true true fuel
      let v ← blockValue fuel
      return (k, v) :: (← blockEntries fuel)
    else if ← takeIf .blockEnd then return []
    else throw (.expected "<block end>")

/-- The value of a block mapping's entry, empty if there is none. -/
def blockValue : Nat → Builder Nat
  | 0 => throw .tooDeep
  | fuel + 1 => do
    if ← takeIf .value then
      if endsPart (← peek) then empty else readNode true true fuel
    else empty

/-- The items of a flow sequence, up to its end; a key among them begins a mapping of one entry. -/
def flowItems (first : Bool) : Nat → Builder (List Nat)
  | 0 => throw .tooDeep
  | fuel + 1 => do
    if ← takeIf .flowSequenceEnd then return []
    if !first then
      if !(← takeIf .flowEntry) then throw (.expected "',' or ']'")
    if ← takeIf .flowSequenceEnd then return []
    if ← takeIf .key then
      let entry ← inside do
        let k ← if endsFlowPart .flowSequenceEnd (← peek) then empty else readNode false false fuel
        return (k, ← flowValue .flowSequenceEnd fuel)
      let x ← make .mapping (.mapping [entry])
      return x :: (← flowItems false fuel)
    else
      let x ← readNode false false fuel
      return x :: (← flowItems false fuel)

/-- The entries of a flow mapping, up to its end. -/
def flowEntries (first : Bool) : Nat → Builder (List (Nat × Nat))
  | 0 => throw .tooDeep
  | fuel + 1 => do
    if ← takeIf .flowMappingEnd then return []
    if !first then
      if !(← takeIf .flowEntry) then throw (.expected "',' or a closing brace")
    if ← takeIf .flowMappingEnd then return []
    if ← takeIf .key then
      let k ← if endsFlowPart .flowMappingEnd (← peek) then empty else readNode false false fuel
      let v ← flowValue .flowMappingEnd fuel
      return (k, v) :: (← flowEntries false fuel)
    else
      let k ← readNode false false fuel
      return (k, ← empty) :: (← flowEntries false fuel)

/-- The value of an entry in a flow collection, empty if there is none. -/
def flowValue (closing : Token) : Nat → Builder Nat
  | 0 => throw .tooDeep
  | fuel + 1 => do
    if ← takeIf .value then
      let t ← peek
      if t == .flowEntry || t == closing then empty else readNode false false fuel
    else empty

end

/-! ### Documents -/

/-- The handles that need no directive. -/
def commonHandles : List (String × String) :=
  [("!", "!"), ("!!", commonStart)]

/-- The directives before a document; `versioned` says whether one has given the version. -/
def directives (versioned : Bool) (handles : List (String × String)) :
    Nat → Builder (List (String × String))
  | 0 => throw .badDirective
  | fuel + 1 => do
    match ← peek with
    | .directive (.version major _) =>
      if versioned || major != 1 then throw .badDirective
      take
      directives true handles fuel
    | .directive (.handle h start) =>
      if (handles.lookup h).isSome then throw .badDirective
      take
      directives versioned ((h, start) :: handles) fuel
    | .directive .other => take; directives versioned handles fuel
    | _ => return handles

/-- Goes over the marks that end a document. -/
def skipEnds : Nat → Builder Unit
  | 0 => return
  | fuel + 1 => do if ← takeIf .documentEnd then skipEnds fuel

/-- The content of a document after its beginning was marked. -/
def content (fuel : Nat) : Builder Nat := do
  match ← peek with
  | .directive _ | .documentStart | .documentEnd | .streamEnd => empty
  | _ => readNode true false fuel

/-- The only document of a text, if there is one; another one after it is a fault. -/
def document? (fuel : Nat) : Builder (Option Nat) := do
  let explicit : Builder (Option Nat) := do
    skipEnds fuel
    if ← takeIf .streamEnd then return none
    let handles ← directives false [] fuel
    if !(← takeIf .documentStart) then throw (.expected "'<document start>'")
    modify fun b => { b with handles := handles ++ commonHandles }
    return some (← content fuel)
  let first ←
    match ← peek with
    | .directive _ | .documentStart | .streamEnd => explicit
    | _ => do
      modify fun b => { b with handles := commonHandles }
      some <$> readNode true false fuel
  if first.isSome then
    skipEnds fuel
    if !(← takeIf .streamEnd) then throw .severalDocuments
  return first

/-- **The nodes of the only document** in a row of tokens and the number of the outermost; nothing if there is no
document. There may be room for so many collections inside one another only. -/
def ofTokens? (room : Option Nat) (row : Row) : Except Fault (Option (Nat × Nodes)) := do
  let (root, b) ← (document? (4 * row.tokens.length + 4)).run { row, room }
  return root.map (·, b.nodes)

end Nodes

end Landscape.Yaml
