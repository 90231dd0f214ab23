import MarkupCatalog.Yaml.Tag
import MarkupCatalog.Yaml.Token

/-!
# Nodes of a YAML document

A document is made of scalars, sequences and mappings, each with a tag.  An alias stands
for the very node that its anchor names, so a node may be part of several collections, and
a collection may be part of itself.  The nodes are therefore kept in a table, and a
collection names its parts by their places in it.

A node without tag gets one by its kind; a plain scalar gets one by its form (see
`Yaml.Tag`).
-/

namespace MarkupCatalog.Yaml

/-- The place of a node in the table of a document. -/
abbrev NodeId := Nat

/-- What a node consists of. -/
inductive Content
  | scalar (text : Text)
  | sequence (items : List NodeId)
  | mapping (entries : List (NodeId × NodeId))
  deriving DecidableEq, Repr

/-- A node of a document. -/
structure Node where
  tag : Text
  content : Content
  deriving DecidableEq, Repr

/-- The node of an empty place. -/
def Node.empty : Node := ⟨Tag.ofName "null", .scalar []⟩

/-- A document: its nodes, and which of them is the outermost one. -/
structure Document where
  nodes : Array Node
  root : NodeId

/-- What is known when the tokens have been read up to a place. -/
structure Parsing where
  tokens : List Token
  /-- What is met after the last token, if the text does not end there. -/
  fault : Option Fault
  nodes : Array Node := #[]
  anchors : List (Text × NodeId) := []
  handles : List (Text × Text) := []

/-- An action that reads nodes from tokens. -/
abbrev Parser := StateT Parsing (Except Fault)

namespace Parser

/-- The next token. -/
def peekToken : Parser Token := do
  let s ← get
  match s.tokens with
  | t :: _ => return t
  | [] => throw (s.fault.getD .malformed)

/-- Pass over the next token. -/
def nextToken : Parser Unit := modify fun s => { s with tokens := s.tokens.tail }

/-- Pass over the next token if it is the given one. -/
def accept (t : Token) : Parser Bool := do
  if (← peekToken) == t then
    nextToken
    return true
  else return false

/-- Pass over the next token, which must be the given one. -/
def expect (t : Token) : Parser Unit := do
  if !(← accept t) then throw .malformed

/-- Is the next token one of these? -/
def atOneOf (ts : List Token) : Parser Bool := return ts.contains (← peekToken)

/-- Add a node to the table. -/
def addNode (node : Node) : Parser NodeId := do
  let s ← get
  set { s with nodes := s.nodes.push node }
  return s.nodes.size

/-- Replace a node in the table. -/
def setNode (id : NodeId) (node : Node) : Parser Unit :=
  modify fun s => { s with nodes := s.nodes.setIfInBounds id node }

/-- Give a node the name of an anchor. -/
def bind (anchor : Option Text) (id : NodeId) : Parser Unit :=
  match anchor with
  | none => pure ()
  | some name => modify fun s => { s with anchors := (name, id) :: s.anchors }

/-- The node that an anchor names. -/
def named? (name : Text) : Parser (Option NodeId) :=
  return ((← get).anchors.find? (·.1 == name)).map (·.2)

/-- A tag as it is written: its handle, if it has one, and the rest. -/
abbrev TagWord := Option Text × Text

/-- Read an anchor, if there is one. -/
def anchor? : Parser (Option Text) := do
  match ← peekToken with
  | .anchor name =>
      nextToken
      return some name
  | _ => return none

/-- Read a tag, if there is one. -/
def tag? : Parser (Option TagWord) := do
  match ← peekToken with
  | .tag handle suffix =>
      nextToken
      return some (handle, suffix)
  | _ => return none

/-- A tag in full. -/
def expand : TagWord → Parser Text
  | (none, suffix) => return suffix
  | (some handle, suffix) => do
      match (← get).handles.find? (·.1 == handle) with
      | some (_, expansion) => return expansion ++ suffix
      | none => throw .malformed

/-- The anchor and the tag in front of a node, in either order. -/
def properties : Parser (Option Text × Option Text) := do
  match ← anchor? with
  | some name =>
      let tag ← tag?
      return (some name, ← tag.mapM expand)
  | none =>
      let tag ← tag?
      let anchor ← if tag.isSome then anchor? else pure none
      return (anchor, ← tag.mapM expand)

/-- Does the tag leave the choice to the kind of the node? -/
def isOpenTag (tag : Option Text) : Bool := tag == none || tag == some ['!']

/-- The tag of a collection. -/
def collectionTag (tag : Option Text) (name : Text) : Text :=
  if isOpenTag tag then Tag.ofName name else tag.getD []

/-- The tag of a scalar. -/
def scalarTag (tag : Option Text) (text : Text) (plain : Bool) : Text :=
  match tag with
  | none => Tag.ofName (if plain then Tag.nameOfPlain text else "str")
  | some ['!'] => Tag.ofName (Tag.nameOfPlain text)
  | some tag => tag

/-- Where a node stands, as far as it decides what may stand there. -/
inductive Place
  /-- In a flow collection. -/
  | flow
  /-- In a block. -/
  | block
  /-- In a block mapping, where a sequence need not be indented. -/
  | blockMapping
  deriving DecidableEq

/-- Add a scalar with an anchor. -/
def addScalar (anchor tag : Option Text) (text : Text) (plain : Bool) : Parser NodeId := do
  let id ← addNode ⟨scalarTag tag text plain, .scalar text⟩
  bind anchor id
  return id

/-- Add a collection with an anchor.  Its parts are read when the anchor is known. -/
def addCollection (anchor : Option Text) (tag : Text) (read : Parser Content) :
    Parser NodeId := do
  let id ← addNode ⟨tag, .sequence []⟩
  bind anchor id
  setNode id ⟨tag, ← read⟩
  return id

/-- Add a node that is nothing but an anchor or a tag. -/
def addEmpty (anchor tag : Option Text) : Parser NodeId := do
  if anchor.isNone && tag.isNone then throw .malformed
  addScalar anchor tag [] true

mutual

/-- Read a node. -/
def node (place : Place) : Nat → Parser NodeId
  | 0 => throw .malformed
  | fuel + 1 => do
      match ← peekToken with
      | .alias name =>
          nextToken
          match ← named? name with
          | some id => return id
          | none => throw .malformed
      | _ =>
          let (anchor, tag) ← properties
          let next ← peekToken
          if let some name := anchor then
            if (← named? name).isSome then throw .malformed
          content place anchor tag next fuel

/-- Read what follows the anchor and the tag of a node, and starts with a given token. -/
def content (place : Place) (anchor tag : Option Text) (first : Token) : Nat → Parser NodeId
  | 0 => throw .malformed
  | fuel + 1 =>
      match first with
      | .scalar text plain => do
          nextToken
          addScalar anchor tag text plain
      | .flowSequenceStart => do
          nextToken
          addCollection anchor (collectionTag tag "seq") (return .sequence (← flowItems true fuel))
      | .flowMappingStart => do
          nextToken
          addCollection anchor (collectionTag tag "map") (return .mapping (← flowEntries true fuel))
      | .blockSequenceStart =>
          if place == .flow then addEmpty anchor tag else do
          nextToken
          addCollection anchor (collectionTag tag "seq") (return .sequence (← blockItems fuel))
      | .blockMappingStart =>
          if place == .flow then addEmpty anchor tag else do
          nextToken
          addCollection anchor (collectionTag tag "map") (return .mapping (← blockEntries fuel))
      | .blockEntry =>
          if place != .blockMapping then addEmpty anchor tag else
          addCollection anchor (collectionTag tag "seq") (return .sequence (← plainItems fuel))
      | _ => addEmpty anchor tag

/-- Read a node unless one of these tokens comes next. -/
def nodeUnless (stops : List Token) (place : Place) : Nat → Parser NodeId
  | 0 => throw .malformed
  | fuel + 1 => do
      if ← atOneOf stops then addNode .empty else node place fuel

/-- Read the items of an indented sequence. -/
def blockItems : Nat → Parser (List NodeId)
  | 0 => throw .malformed
  | fuel + 1 => do
      if ← accept .blockEntry then
        let item ← nodeUnless [.blockEntry, .blockEnd] .block fuel
        return item :: (← blockItems fuel)
      else
        expect .blockEnd
        return []

/-- Read the items of a sequence that is not indented. -/
def plainItems : Nat → Parser (List NodeId)
  | 0 => throw .malformed
  | fuel + 1 => do
      if ← accept .blockEntry then
        let item ← nodeUnless [.blockEntry, .key, .value, .blockEnd] .block fuel
        return item :: (← plainItems fuel)
      else return []

/-- Read the entries of a block mapping. -/
def blockEntries : Nat → Parser (List (NodeId × NodeId))
  | 0 => throw .malformed
  | fuel + 1 => do
      if ← accept .key then
        let key ← nodeUnless [.key, .value, .blockEnd] .blockMapping fuel
        let value ←
          if ← accept .value then nodeUnless [.key, .value, .blockEnd] .blockMapping fuel
          else addNode .empty
        return (key, value) :: (← blockEntries fuel)
      else
        expect .blockEnd
        return []

/-- Read the value of an entry in a flow collection that ends with `stop`. -/
def flowValue (stop : Token) : Nat → Parser NodeId
  | 0 => throw .malformed
  | fuel + 1 => do
      if ← accept .value then nodeUnless [.flowEntry, stop] .flow fuel else addNode .empty

/-- Read the items of a flow sequence.  A key makes a mapping of one entry. -/
def flowItems (first : Bool) : Nat → Parser (List NodeId)
  | 0 => throw .malformed
  | fuel + 1 => do
      if ← accept .flowSequenceEnd then return []
      if !first then expect .flowEntry
      if ← accept .flowSequenceEnd then return []
      let item ←
        if ← accept .key then do
          let key ← nodeUnless [.value, .flowEntry, .flowSequenceEnd] .flow fuel
          let value ← flowValue .flowSequenceEnd fuel
          addNode ⟨Tag.ofName "map", .mapping [(key, value)]⟩
        else node .flow fuel
      return item :: (← flowItems false fuel)

/-- Read the entries of a flow mapping. -/
def flowEntries (first : Bool) : Nat → Parser (List (NodeId × NodeId))
  | 0 => throw .malformed
  | fuel + 1 => do
      if ← accept .flowMappingEnd then return []
      if !first then expect .flowEntry
      if ← accept .flowMappingEnd then return []
      let entry ←
        if ← accept .key then do
          let key ← nodeUnless [.value, .flowEntry, .flowMappingEnd] .flow fuel
          let value ← flowValue .flowMappingEnd fuel
          pure (key, value)
        else do
          let key ← node .flow fuel
          pure (key, ← addNode .empty)
      return entry :: (← flowEntries false fuel)

end

/-- The handles that are known without a directive. -/
def defaultHandles : List (Text × Text) := [(['!'], ['!']), (['!', '!'], Tag.core)]

/-- Read the directives in front of a document. -/
def directives (version : Bool) (handles : List (Text × Text)) :
    Nat → Parser (List (Text × Text))
  | 0 => throw .malformed
  | fuel + 1 => do
      match ← peekToken with
      | .directive (.version major) =>
          nextToken
          if version || major != 1 then throw .malformed
          directives true handles fuel
      | .directive (.tagHandle handle expansion) =>
          nextToken
          if handles.any (·.1 == handle) then throw .malformed
          directives version ((handle, expansion) :: handles) fuel
      | .directive .other =>
          nextToken
          directives version handles fuel
      | _ => return handles

/-- Pass over the ends of documents. -/
def skipDocumentEnds : Nat → Parser Unit
  | 0 => pure ()
  | fuel + 1 => do
      if ← accept .documentEnd then skipDocumentEnds fuel

/-- Read the only document of a text, if there is one. -/
def document (fuel : Nat) : Parser (Option Document) := do
  match ← peekToken with
  | .streamEnd => return none
  | .directive _ | .documentStart =>
      let handles ← directives false [] fuel
      modify fun s => { s with handles := handles ++ defaultHandles }
      expect .documentStart
      match ← peekToken with
      | .directive _ | .documentStart | .documentEnd | .streamEnd => finish (← addNode .empty)
      | _ => finish (← node .block fuel)
  | _ =>
      modify fun s => { s with handles := defaultHandles }
      finish (← node .block fuel)
where
  /-- Nothing but ends of documents may follow. -/
  finish (root : NodeId) : Parser (Option Document) := do
    skipDocumentEnds fuel
    if (← peekToken) != .streamEnd then
      let _ ← directives false [] fuel
      throw .malformed
    return some ⟨(← get).nodes, root⟩

end Parser

/-- The document that tokens make up, if they make up one. -/
def Document.ofTokens (stream : TokenStream) : Except Fault (Option Document) :=
  (Parser.document (4 * stream.tokens.length + 8)).run'
    { tokens := stream.tokens, fault := stream.fault }

end MarkupCatalog.Yaml
