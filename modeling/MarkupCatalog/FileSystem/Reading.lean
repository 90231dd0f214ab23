import MarkupCatalog.Charset.Name
import MarkupCatalog.FileSystem.Operation
import MarkupCatalog.Text.Lines

/-!
# Reading text files

A text file is read as a whole: its bytes are decoded in the charset that is asked for,
and every line end becomes a line feed.
-/

namespace MarkupCatalog.FileSystem

/-- The name that stands for the charset of the surroundings, which is UTF-8. -/
def surroundingsName : Text := "locale"

/-- The charset with a name. -/
def charsetNamed (name : Text) : Except Failure Charset :=
  if name = surroundingsName then .ok .utf8
  else
    match Charset.conversion? name with
    | some (.text charset) => .ok charset
    | some .other => .error (.notTextCharset name)
    | none => .error (.unknownCharset name)

/-- The failure that a fault of reading is. -/
def readFailure : Charset.ReadFault → Failure
  | .undecodable fault => .undecodable fault
  | .unmarked family => .unmarked family
  | .undefined => .undefinedCharset
  | .other message => .caller .value message

/-- The failure that a fault of writing is. -/
def writeFailure : Charset.WriteFault → Failure
  | .unencodable fault => .unencodable fault
  | .undefined => .undefinedCharset
  | .other message => .caller .value message

/-- The text of a file as its bytes are read, with line feeds at all line ends. -/
def readWith (fs : FileSystem) (decode : Bytes → Except Failure Text) (path : Text) :
    Except Failure Text := do
  let bytes ← fs.readBytes path
  return Text.withLineFeeds (← decode bytes)

/-- The text of a file.  The file is opened before its charset is looked for. -/
def readText (fs : FileSystem) (codecs : Charset.Codecs) (charset path : Text) :
    Except Failure Text := do
  if charset.contains '\x00' then throw .nullInName
  fs.readWith (fun bytes => do
    (Charset.decode codecs bytes (← charsetNamed charset)).mapError readFailure) path

/-- The text of a file in UTF-8. -/
def readUtf8 (fs : FileSystem) (path : Path) : Except Failure Text :=
  fs.readWith (fun bytes => (Charset.Utf8.decode bytes).mapError .undecodable) path.text

end MarkupCatalog.FileSystem
