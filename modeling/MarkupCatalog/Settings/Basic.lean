import MarkupCatalog.Account
import MarkupCatalog.Annotation.Block
import MarkupCatalog.Charset.Name
import MarkupCatalog.Settings.Option
import MarkupCatalog.Template

/-!
# Settings

The settings of a run are its options after every one of them has been checked and
those that are missing have got their usual values.  No file is looked at for that.
Of several faults in the options, the one that is checked first is reported.
-/

namespace MarkupCatalog

/-- What is written for each record: all of it, or its rendered text alone. -/
inductive SerializeMode
  | record
  | rendered
  deriving DecidableEq, Repr

/-- The names of the modes. -/
def SerializeMode.name : SerializeMode → Text
  | .record => "record"
  | .rendered => "rendered"

/-- The mode with a name. -/
def SerializeMode.ofName? (name : Text) : Option SerializeMode :=
  [SerializeMode.record, .rendered].find? (·.name = name)

/-- The settings of a run. -/
structure Settings where
  root : Path
  dialect : Annotation.Dialect
  template : Template
  output : Option Path
  onComplete : Option Callback
  extensions : List Text
  mode : SerializeMode
  excludes : List Text
  charset : Text

namespace Settings

/-- Does the run write a file? -/
def writesOutput (s : Settings) : Bool := s.output.isSome

/-- The usual keyword. -/
def defaultKeyword : Text := "@component"

theorem defaultKeyword_ne_nil : defaultKeyword ≠ [] := by decide

/-- The usual placeholder. -/
def defaultPlaceholder : Text := "\x7b\x7bblock\x7d\x7d"

/-- The usual comment opener. -/
def defaultOpening : Text := "<!--"

/-- The usual comment closer. -/
def defaultClosing : Text := "-->"

/-- The usual file name endings. -/
def defaultExtensions : List Text := [".html"]

/-- The usual charset. -/
def defaultCharset : Text := "utf-8"

/-- A failure because of the options. -/
def problem {α : Type} (p : ConfigProblem) : Except Failure α := .error (.config p)

/-- A non-empty text. -/
abbrev NonEmptyText := { t : Text // t ≠ [] }

/-- The text of an option that must not be empty. -/
def requiredText (o : Options) (key : Text) (default : NonEmptyText) :
    Except Failure NonEmptyText :=
  match o.value key with
  | .none => .ok default
  | .text t => if h : t ≠ [] then .ok ⟨t, h⟩ else problem (.notNonEmptyText key)
  | _ => problem (.notNonEmptyText key)

/-- The texts of an option that is a text or a list of texts. -/
def textList (o : Options) (key : Text) : Except Failure (List Text) :=
  match o.value key with
  | .none => .ok []
  | .text t => .ok [t]
  | .sequence items =>
      match items.mapM OptionValue.text? with
      | some texts => .ok texts
      | none => problem (.notTextList key)
  | _ => problem (.notTextList key)

/-- The directory to be scanned, as it is given. -/
def rootPath (o : Options) : Except Failure Path :=
  match o.value "root_directory" with
  | .none => problem .rootMissing
  | .text t => if Text.isAllBlank t then problem .rootMissing else .ok (.ofText t)
  | .path p => .ok p
  | _ => problem (.notPath "root_directory")

/-- The file to be written, as it is given.  A blank text stands for no file. -/
def outputPath (o : Options) : Except Failure (Option Path) :=
  match o.value "output_path" with
  | .none => .ok none
  | .text t => .ok (if Text.isAllBlank t then none else some (.ofText t))
  | .path p => .ok (some p)
  | _ => problem (.notPath "output_path")

/-- The template, which is the placeholder alone if none is given. -/
def templateText (o : Options) (placeholder : Text) : Except Failure Text :=
  match o.value "template" with
  | .none => .ok placeholder
  | .text t => .ok t
  | _ => problem (.notText "template")

/-- The function to be called when the run is complete. -/
def completion (o : Options) : Except Failure (Option Callback) :=
  match o.value "on_complete" with
  | .none => .ok none
  | .callback c => .ok (some c)
  | _ => problem (.notCallable "on_complete")

/-- An extension starts with a point. -/
def dotted (extension : Text) : Text :=
  match extension with
  | '.' :: _ => extension
  | _ => '.' :: extension

/-- A charset name must be a known one. -/
def checkCharset (name : Text) : Except Failure Unit :=
  if name.contains '\x00' then .error .nullInName
  else if (Charset.conversion? name).isSome then .ok ()
  else problem (.unknownCharset name)

/-- The settings that a mapping of options makes. -/
def ofMapping (account : Account) (o : Options) : Except Failure Settings := do
  let root ← rootPath o
  let keyword ← requiredText o "keyword" ⟨defaultKeyword, by decide⟩
  let placeholder ← requiredText o "block_placeholder" ⟨defaultPlaceholder, by decide⟩
  let template ← templateText o placeholder.val
  let output ← outputPath o
  let onComplete ← completion o
  let modeName ← requiredText o "serialize" ⟨SerializeMode.record.name, by decide⟩
  let some mode := SerializeMode.ofName? modeName.val
    | problem (.unknownMode modeName.val)
  let extensions ← textList o "extensions"
  let excludes ← textList o "exclude_paths"
  let charset ← requiredText o "encoding" ⟨defaultCharset, by decide⟩
  checkCharset charset.val
  let root ← account.expand root
  let output ← output.mapM account.expand
  let opening ← requiredText o "comment_open" ⟨defaultOpening, by decide⟩
  let closing ← requiredText o "comment_close" ⟨defaultClosing, by decide⟩
  return {
    root
    dialect := ⟨keyword.val, opening.val, closing.val, keyword.property⟩
    template := ⟨template, placeholder.val⟩
    output
    onComplete
    extensions := (if extensions.isEmpty then defaultExtensions else extensions).map dotted
    mode
    excludes
    charset := charset.val }

/-- The settings that the given options make. -/
def ofOptions (account : Account) : OptionsGiven → Except Failure Settings
  | .nothing => problem .noOptions
  | .other => problem .optionsNotMapping
  | .mapping o => ofMapping account o

/-- The settings as options. -/
def toOptions (s : Settings) : Options :=
  [("root_directory", .path s.root),
   ("keyword", .text s.dialect.keyword),
   ("block_placeholder", .text s.template.placeholder),
   ("template", .text s.template.text),
   ("output_path", (s.output.map OptionValue.path).getD .none),
   ("on_complete", (s.onComplete.map OptionValue.callback).getD .none),
   ("extensions", .ofTexts s.extensions),
   ("comment_open", .text s.dialect.opening),
   ("comment_close", .text s.dialect.closing),
   ("serialize", .text s.mode.name),
   ("exclude_paths", .ofTexts s.excludes),
   ("encoding", .text s.charset)]

end Settings

end MarkupCatalog
