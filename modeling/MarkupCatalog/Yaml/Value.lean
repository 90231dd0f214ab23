import MarkupCatalog.Base64
import MarkupCatalog.Yaml.Node
import MarkupCatalog.Yaml.Number

/-!
# Values of a YAML document

What the nodes of a document stand for by their tags.  Merge keys are carried out, and
of two entries of a mapping with the same key the later one counts.

The nodes are interpreted from the outermost one inwards, level by level: a collection is
set aside when it is met, and its parts are looked at when all that was set aside before it
is done.  Each node is interpreted once, however often it is met.  So the fault that is
reported stands least deep in the document, and first among those of its depth.
-/

namespace MarkupCatalog.Yaml

/-- What a node stands for.  A collection names its parts by their nodes. -/
inductive Meaning
  | null
  | bool (b : Bool)
  | int (n : Int)
  | float (x : Double)
  | text (t : Text)
  | bytes (b : Bytes)
  | moment
  | sequence (items : List NodeId)
  | mapping (entries : List (NodeId × NodeId))
  /-- A set, or a sequence of pairs. -/
  | other

namespace Meaning

/-- May it be the key of a mapping? -/
def isHashable : Meaning → Bool
  | .sequence _ => false
  | .mapping _ => false
  | .other => false
  | _ => true

end Meaning

/-- A kind of collection that is set aside. -/
inductive Shape
  | sequence
  | mapping
  | set
  | pairs
  deriving DecidableEq, Repr

/-- The collection before its parts are known. -/
def Shape.start : Shape → Meaning
  | .sequence => .sequence []
  | .mapping => .mapping []
  | _ => .other

/-- How far a document has been interpreted. -/
structure Interpretation where
  nodes : Array Node
  meanings : Array (Option Meaning)
  /-- The collections that have been set aside, the first one first. -/
  agenda : Array (NodeId × Shape) := #[]

/-- An action that interprets nodes. -/
abbrev Interpreter := StateT Interpretation (Except Fault)

namespace Interpreter

/-- Refuse the document. -/
def refuse {α : Type} : Interpreter α := throw .malformed

/-- A node by its place. -/
def node (id : NodeId) : Interpreter Node := do
  match (← get).nodes[id]? with
  | some node => return node
  | none => refuse

/-- The tag of a node. -/
def tag (id : NodeId) : Interpreter Text := return (← node id).tag

/-- Replace a node. -/
def setNode (id : NodeId) (node : Node) : Interpreter Unit :=
  modify fun s => { s with nodes := s.nodes.setIfInBounds id node }

/-- What a node stands for, if that is known. -/
def meaning? (id : NodeId) : Interpreter (Option Meaning) := return ((← get).meanings[id]?).join

/-- Note what a node stands for. -/
def setMeaning (id : NodeId) (m : Meaning) : Interpreter Unit :=
  modify fun s => { s with meanings := s.meanings.setIfInBounds id (some m) }

/-- The entries of a node, which must be a mapping. -/
def entries (id : NodeId) : Interpreter (List (NodeId × NodeId)) := do
  match (← node id).content with
  | .mapping entries => return entries
  | _ => refuse

/-- Replace the entries of a mapping. -/
def setEntries (id : NodeId) (entries : List (NodeId × NodeId)) : Interpreter Unit := do
  setNode id { (← node id) with content := .mapping entries }

/-- Is the entry to be merged? -/
def isMerge (entry : NodeId × NodeId) : Interpreter Bool :=
  return (← tag entry.1) == Tag.ofName "merge"

/-- As a key, `=` is an ordinary text, from now on. -/
def settleKey (entry : NodeId × NodeId) : Interpreter Unit := do
  let key ← node entry.1
  if key.tag == Tag.ofName "value" then setNode entry.1 { key with tag := Tag.ofName "str" }

/-- Carry out the merge keys of a mapping: what is merged comes first, so that the
mapping's own entries override it.  A mapping that is merged into itself gains nothing by
it. -/
def flatten : Nat → NodeId → Interpreter Unit
  | 0, _ => refuse
  | fuel + 1, id => do
      let all ← entries id
      let merges ← all.filterM isMerge
      let own ← all.filterM fun entry => return !(← isMerge entry)
      setEntries id own
      own.forM settleKey
      let merged ← merges.mapM fun entry => do
        match (← node entry.2).content with
        | .mapping _ =>
            flatten fuel entry.2
            entries entry.2
        | .sequence items =>
            let parts ← items.mapM fun item => do
              let _ ← entries item
              flatten fuel item
              entries item
            return parts.reverse.flatten
        | .scalar _ => refuse
      if !merges.isEmpty then setEntries id (merged.flatten ++ (← entries id))

/-- The entry of a mapping whose value stands for the whole mapping, where a scalar is
expected. -/
def standIn? : List (NodeId × NodeId) → Interpreter (Option NodeId)
  | [] => return none
  | entry :: rest => do
      if (← tag entry.1) == Tag.ofName "value" then return some entry.2 else standIn? rest

/-- The text of a node, which must be a scalar or a mapping that stands for one. -/
def scalarText : Nat → NodeId → Interpreter Text
  | 0, _ => refuse
  | fuel + 1, id => do
      match (← node id).content with
      | .scalar text => return text
      | .mapping entries =>
          match ← standIn? entries with
          | some value => scalarText fuel value
          | none => refuse
      | .sequence _ => refuse

end Interpreter

/-- The truth value that a text stands for. -/
def truthValue (text : Text) : Except Fault Bool :=
  let word := Text.lowercase text
  if Tag.trueWords.any (·.toList == word) then .ok true
  else if Tag.falseWords.any (·.toList == word) then .ok false
  else .error (.badTruthValue word)

/-- What a text stands for by the name of its tag. -/
def scalarMeaning (name : String) (text : Text) : Except Fault Meaning :=
  match name with
  | "null" => .ok .null
  | "bool" => (truthValue text).map .bool
  | "int" => (integerValue text).map .int
  | "float" => (floatValue text).map .float
  | "str" => .ok (.text text)
  | "binary" =>
      if text.all (·.toNat < 0x80) then
        match Base64.decode? text with
        | some bytes => .ok (.bytes bytes)
        | none => .error .malformed
      else .error .malformed
  | "timestamp" =>
      match Moment.ofText? (withoutLastBreak text) with
      | some m => m.check.map fun _ => .moment
      | none => .error .noMoment
  | _ => .error .malformed

/-- The name of a tag of the YAML type repository. -/
def Tag.name? (tag : Text) : Option String :=
  if Tag.core.isPrefixOf tag then some (String.ofList (tag.drop Tag.core.length)) else none

/-- The kind of collection that a name stands for. -/
def Shape.ofName? : String → Option Shape
  | "seq" => some .sequence
  | "map" => some .mapping
  | "set" => some .set
  | "omap" => some .pairs
  | "pairs" => some .pairs
  | _ => none

namespace Interpreter

/-- What a node stands for that has the tag of a scalar. -/
def interpretScalar (fuel : Nat) (id : NodeId) (name : String) : Interpreter Unit := do
  let text ← scalarText fuel id
  match name, (← node id).content with
  | "timestamp", .mapping _ => throw .mappedMoment
  | _, _ => setMeaning id (← scalarMeaning name text)

/-- Interpret a node, unless that has been done.  A collection is set aside. -/
def interpret (fuel : Nat) (id : NodeId) : Interpreter Unit := do
  if (← meaning? id).isNone then
    match Tag.name? (← tag id) with
    | none => refuse
    | some name =>
        match Shape.ofName? name with
        | some shape =>
            setMeaning id shape.start
            modify fun s => { s with agenda := s.agenda.push (id, shape) }
        | none => interpretScalar fuel id name

/-- Interpret the key and the value of an entry. -/
def interpretEntry (fuel : Nat) (entry : NodeId × NodeId) : Interpreter Unit := do
  interpret fuel entry.1
  if !((← meaning? entry.1).any Meaning.isHashable) then refuse
  interpret fuel entry.2

/-- Interpret an item that must be a mapping with one entry. -/
def interpretPair (fuel : Nat) (id : NodeId) : Interpreter Unit := do
  match (← node id).content with
  | .mapping [(key, value)] =>
      interpret fuel key
      interpret fuel value
  | _ => refuse

/-- Interpret the parts of a collection. -/
def interpretParts (fuel : Nat) (id : NodeId) (shape : Shape) : Interpreter Unit := do
  match shape, (← node id).content with
  | .sequence, .sequence items =>
      items.forM (interpret fuel)
      setMeaning id (.sequence items)
  | .pairs, .sequence items => items.forM (interpretPair fuel)
  | .mapping, .mapping _ =>
      flatten fuel id
      let entries ← entries id
      entries.forM (interpretEntry fuel)
      setMeaning id (.mapping entries)
  | .set, .mapping _ =>
      flatten fuel id
      (← entries id).forM (interpretEntry fuel)
  | _, _ => refuse

/-- Interpret the parts of all collections that have been set aside, from a place in the
agenda on. -/
def interpretAgenda (fuel : Nat) : Nat → Nat → Interpreter Unit
  | 0, _ => pure ()
  | steps + 1, index => do
      match (← get).agenda[index]? with
      | some (id, shape) =>
          interpretParts fuel id shape
          interpretAgenda fuel steps (index + 1)
      | none => pure ()

end Interpreter

/-- A number that is greater than the number of nodes and of entries of a document. -/
def Document.size (d : Document) : Nat :=
  d.nodes.foldl (fun n node => n + match node.content with
    | .mapping entries => entries.length + 1
    | _ => 1) 1

/-- What the nodes of a document stand for. -/
def Document.meanings (d : Document) : Except Fault (Array (Option Meaning)) := do
  let run : Interpreter Unit := do
    Interpreter.interpret d.size d.root
    Interpreter.interpretAgenda d.size d.size 0
  let ((), s) ← run.run { nodes := d.nodes, meanings := Array.replicate d.nodes.size none }
  return s.meanings

/-- A value.  What nobody looks into (a moment, a set, a pair, whatever lies deep in a
collection) is `other`. -/
inductive Value
  | null
  | bool (b : Bool)
  | int (n : Int)
  | float (x : Double)
  | text (t : Text)
  | bytes (b : Bytes)
  | sequence (items : List Value)
  | mapping (entries : List (Value × Value))
  | other

namespace Value

/-- Is the value this text? -/
def isText (t : Text) : Value → Bool
  | .text u => t = u
  | _ => false

/-- The value of the last entry with a key. -/
def lookup? (entries : List (Value × Value)) (key : Text) : Option Value :=
  (entries.reverse.find? fun entry => entry.1.isText key).map (·.2)

/-- The value of a node, with collections looked into down to a depth. -/
def ofMeaning (meanings : Array (Option Meaning)) : Nat → NodeId → Value
  | depth, id =>
      match (meanings[id]?).join, depth with
      | some .null, _ => .null
      | some (.bool b), _ => .bool b
      | some (.int n), _ => .int n
      | some (.float x), _ => .float x
      | some (.text t), _ => .text t
      | some (.bytes b), _ => .bytes b
      | some (.sequence items), depth + 1 => .sequence (items.map (ofMeaning meanings depth))
      | some (.mapping entries), depth + 1 =>
          .mapping (entries.map fun (key, value) =>
            (ofMeaning meanings depth key, ofMeaning meanings depth value))
      | _, _ => .other

end Value

/-- A way to read YAML texts. -/
abbrev Loader := Text → Except Fault Value

/-- The depth down to which the values of a document are looked into: a mapping, what it
has under its keys, and no further. -/
def depth : Nat := 2

/-- The value that a YAML text stands for.  A text without document stands for nothing. -/
def load : Loader := fun text => do
  match ← Document.ofTokens (tokens text) with
  | none => return .null
  | some document => return .ofMeaning (← document.meanings) depth document.root

end MarkupCatalog.Yaml
