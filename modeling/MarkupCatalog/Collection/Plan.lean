import MarkupCatalog.Log.Record
import MarkupCatalog.Record
import MarkupCatalog.Scan.Registry

/-!
# The plan of a collection

What the main line of a collection does once the annotated files are known is fixed: it
goes through the files in their order, numbers the annotations across all of them, and
hands each record first to the writer and then to the channel.  The plan is the list of
these actions.  A parser that fails ends it early.
-/

namespace MarkupCatalog.Collection

/-- A parser finds the annotations of a text.  It may fail, and what it does may depend on
how many texts it has seen before. -/
abbrev Parser := Nat → Text → Except Failure (List Annotation.Block)

/-- The parser for a dialect, which never fails. -/
def Parser.ofDialect (d : Annotation.Dialect) : Parser := fun _ text => .ok (d.parse text)

/-- What the main line of a collection does. -/
inductive Action
  | note (r : Log.Record)
  /-- Hand a chunk to the writer, if there is one. -/
  | write (chunk : Text)
  /-- Give a record to the channel. -/
  | keep (r : Record)
  /-- Give up. -/
  | fail (f : Failure)
  /-- No more records come. -/
  | endChannel
  /-- Finish the file, or call the callback if there is none. -/
  | finish
  deriving DecidableEq, Repr

/-- A note of the main line. -/
def note (level : Log.Level) (message : Text) : Log.Record := ⟨level, "collector", message⟩

/-- The records of blocks, numbered from `ordinal` on. -/
def recordsOf (template : Template) (source : Path) (ordinal : Nat) :
    List Annotation.Block → List Record
  | [] => []
  | b :: rest =>
      .ofBlock template source ordinal b :: recordsOf template source (ordinal + 1) rest

/-- What is done with a record.  A comma stands between records. -/
def keepRecord (mode : SerializeMode) (r : Record) : List Action :=
  (if r.ordinal = 0 then [] else [.write ","])
    ++ [.write (r.written mode).compact, .keep r]

/-- What is done with the annotations of a file. -/
def keepFile (s : Settings) (source : Path) (ordinal : Nat) (blocks : List Annotation.Block) :
    List Action :=
  (if blocks.isEmpty then
    [.note (note .debug ("No well-formed annotations in " ++ source.text))] else [])
    ++ (recordsOf s.template source ordinal blocks).flatMap (keepRecord s.mode)

/-- What is done at the end. -/
def conclude (recordCount fileCount : Nat) : List Action :=
  [.note (note .info ("Collected " ++ Text.ofNat recordCount ++ " components from "
      ++ Text.ofNat fileCount ++ " files")),
    .endChannel, .finish]

/-- What is done with the files from the one with number `index` on, when so many records
have been kept already. -/
def assemble (s : Settings) (parser : Parser) (index ordinal : Nat) : Scan.Registry → List Action
  | [] => conclude ordinal index
  | (source, text) :: rest =>
      match parser index text with
      | .error f => [.fail f]
      | .ok blocks =>
          keepFile s source ordinal blocks
            ++ assemble s parser (index + 1) (ordinal + blocks.length) rest

/-- Everything that the main line does with the annotated files. -/
def plan (s : Settings) (parser : Parser) (registry : Scan.Registry) : List Action :=
  .write "[" :: assemble s parser 0 0 registry

end MarkupCatalog.Collection
