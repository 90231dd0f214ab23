import MarkupCatalog.Decimal.Format
import MarkupCatalog.FileSystem.Reading
import MarkupCatalog.Settings.Basic
import MarkupCatalog.Yaml.Value

/-!
# Options from a file

The options of a run may come from a YAML file.  Scalars are taken as texts, whatever
their type; what is no scalar is passed over where a scalar is expected.  Paths in the
file are relative to the directory of the file.

A file that is not there gives no options.  How YAML is read is not decided here: any loader will
do.
-/

namespace MarkupCatalog.Settings.File

/-- The usual name of the file. -/
def fileName : Text := ".compdocs.yml"

/-- The text of an integer, unless it is too long. -/
def integerText (n : Int) : Except Failure Text :=
  let digits := Text.ofNat n.natAbs
  if Yaml.maxDigits < digits.length then .error (.yaml (.tooManyDigits none))
  else .ok (if n < 0 then '-' :: digits else digits)

/-- The text of a value, if it is a scalar. -/
def scalarText : Yaml.Value → Except Failure (Option Text)
  | .text t => .ok (some t)
  | .int n => (integerText n).map some
  | .float x => .ok (some (Decimal.write Decimal.plain x))
  | .bool true => .ok (some "True")
  | .bool false => .ok (some "False")
  | _ => .ok none

/-- The texts of a value that is a scalar text or a list of scalars. -/
def textList : Yaml.Value → Except Failure (List Text)
  | .text t => .ok [t]
  | .sequence items => return (← items.mapM scalarText).filterMap id
  | .bytes bytes => .ok (bytes.map fun b => Text.ofNat b.toNat)
  | _ => .ok []

/-- The entries of a mapping by key. -/
abbrev Entries := List (Yaml.Value × Yaml.Value)

/-- The text under a key. -/
def textAt (entries : Entries) (key : Text) : Except Failure (Option Text) :=
  match Yaml.Value.lookup? entries key with
  | some value => scalarText value
  | none => .ok none

/-- The text under a key, unless it is empty. -/
def nonEmptyAt (entries : Entries) (key : Text) : Except Failure (Option Text) :=
  (textAt entries key).map (Option.filter (!·.isEmpty))

/-- The keys of the options that are texts. -/
def textKeys : List Text :=
  ["keyword", "block_placeholder", "template", "comment_open", "comment_close", "serialize",
   "encoding"]

/-- The keys of the options that are paths. -/
def pathKeys : List Text := ["root_directory", "output_path"]

/-- The keys of the options that are lists of texts. -/
def listKeys : List Text := ["extensions", "exclude_paths"]

/-- The option with a key, if there is a value for it. -/
def optionAt (key : Text) (value : Except Failure (Option OptionValue)) :
    Except Failure Options :=
  return (← value).toList.map (key, ·)

/-- An option that is a text. -/
def textOption (entries : Entries) (key : Text) : Except Failure Options :=
  optionAt key ((textAt entries key).map (·.map .text))

/-- An option that is a path, seen from the directory `base`. -/
def pathOption (base : Path) (entries : Entries) (key : Text) : Except Failure Options :=
  optionAt key ((nonEmptyAt entries key).map (·.map fun t => .path (base.join (.ofText t))))

/-- An option that is a list of texts. -/
def listOption (entries : Entries) (key : Text) : Except Failure Options :=
  optionAt key ((Yaml.Value.lookup? entries key).mapM fun v => return .ofTexts (← textList v))

/-- The options in the entries of a file that stands in the directory `base`. -/
def options (base : Path) (entries : Entries) : Except Failure Options := do
  let texts ← textKeys.mapM (textOption entries)
  let paths ← pathKeys.mapM (pathOption base entries)
  let lists ← listKeys.mapM (listOption entries)
  return texts.flatten ++ paths.flatten ++ lists.flatten

/-- A template that the operating system does not give is a problem of the options. -/
def readTemplate (fs : FileSystem) (path : Path) : Except Failure Text :=
  match fs.readUtf8 path with
  | .error (.refused refusal) => .error (.config (.templateUnreadable path.text refusal))
  | result => result

/-- The value that a file holds.  A blank file and one without value hold an empty
mapping. -/
def readValue (yaml : Yaml.Loader) (fs : FileSystem) (file : Path) :
    Except Failure Yaml.Value := do
  let text ← fs.readUtf8 file
  if Text.isAllBlank text then return .mapping []
  match yaml text with
  | .ok .null => return .mapping []
  | .ok value => return value
  | .error .malformed => throw (.config (.unparsable file.name))
  | .error fault => throw (.yaml fault)

/-- The file that a path stands for: itself, or the file with the usual name in it. -/
def locate (fs : FileSystem) (account : Account) (path : Path) : Except Failure Path := do
  let path ← account.expand path
  if ← fs.isDirectory path then fs.resolve (path.join (.ofText fileName))
  else fs.resolve path

/-- The options of a file that holds a value. -/
def ofValue (fs : FileSystem) (file : Path) : Yaml.Value → Except Failure Options
  | .mapping entries => do
      let o ← options file.parent entries
      match ← nonEmptyAt entries "template_file" with
      | none => return o
      | some t =>
          return o.set "template" (.text (← readTemplate fs (file.parent.join (.ofText t))))
  | _ => .error (.config (.fileNotMapping file.name))

/-- The options that a path stands for. -/
def load (yaml : Yaml.Loader) (fs : FileSystem) (account : Account) (path : Path) :
    Except Failure Options := do
  let file ← locate fs account path
  if ← fs.isThere file then ofValue fs file (← readValue yaml fs file)
  else return []

end MarkupCatalog.Settings.File
