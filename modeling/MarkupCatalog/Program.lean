import MarkupCatalog.Arguments.Basic
import MarkupCatalog.Collection.Run
import MarkupCatalog.Settings.File

/-!
# The program

What happens from the arguments of the program to its exit: the logger is set up, the
options come from a file and from the arguments, the records are collected, and then
either a summary is printed, if they went to a file, or all of them.

A failure of the options, of the system or of decoding ends the program with a message
and the exit code 1.  Any other failure gets through to the caller, and so does a failure
of setting up the logger.
-/

namespace MarkupCatalog.Program

/-- How a run of the program ends. -/
inductive Ending
  | exit (code : Nat)
  | escaped (f : Failure)
  /-- The program waits for a file that nobody will close. -/
  | stuck
  deriving DecidableEq, Repr

/-- How the files are read that a run is given. -/
structure Readers where
  yaml : Yaml.Loader
  codecs : Charset.Codecs

/-- The readers of this library. -/
def Readers.usual : Readers := ⟨Yaml.load, .ascii⟩

/-- What a run of the program comes to. -/
structure Report where
  ending : Ending
  output : Text := []
  /-- What is written to the console beside the output. -/
  console : Text := []
  fs : FileSystem

/-- A value from the arguments as the value of an option. -/
def optionValue : Arguments.Value → OptionValue
  | .word t => .text t
  | .dropped => .sequence []

/-- A value from the arguments as a path, with the failure that arises if it was dropped. -/
def pathOf (dropped : Failure) : Arguments.Value → Except Failure Path
  | .word t => .ok (.ofText t)
  | .dropped => .error dropped

/-- The directory that is meant if none is given. -/
def currentDirectory : Text := "."

/-- The directory in the arguments; an empty one is no directory. -/
def directory (a : Arguments) : Text :=
  match a.path with
  | some (c :: rest) => c :: rest
  | _ => currentDirectory

/-- The options from the file that is named in the arguments, or from the one in the
directory. -/
def fileOptions (yaml : Yaml.Loader) (fs : FileSystem) (account : Account) (a : Arguments) :
    Except Failure Options := do
  match ← a.config.mapM (pathOf .pathDropped) with
  | some file => Settings.File.load yaml fs account file
  | none =>
      let root := Path.ofText (directory a)
      if ← fs.isDirectory root then Settings.File.load yaml fs account root else return []

/-- Set an option if there is a value for it. -/
def override (key : Text) (value : Option OptionValue) (o : Options) : Options :=
  match value with
  | some v => o.set key v
  | none => o

/-- A list of values as the value of an option, if there are any. -/
def listValue (values : List Arguments.Value) : Option OptionValue :=
  if values.isEmpty then none else some (.sequence (values.map optionValue))

/-- The template from the file that is named in the arguments. -/
def templateValue (fs : FileSystem) (a : Arguments) : Except Failure (Option OptionValue) :=
  a.templateFile.mapM fun value => do
    return .text (← Settings.File.readTemplate fs (← pathOf .templateDropped value))

/-- The options of a run: those from a file, changed by those in the arguments. -/
def options (yaml : Yaml.Loader) (fs : FileSystem) (account : Account) (a : Arguments) :
    Except Failure Options := do
  let o ← fileOptions yaml fs account a
  let template ← templateValue fs a
  let root := if a.path.isSome || !o.has "root_directory" then some (.text (directory a)) else none
  return o
    |> override "root_directory" root
    |> override "output_path" (a.output.map optionValue)
    |> override "keyword" (a.keyword.map optionValue)
    |> override "block_placeholder" (a.placeholder.map optionValue)
    |> override "template" template
    |> override "extensions" (listValue a.extensions)
    |> override "exclude_paths" (listValue a.excludes)
    |> override "serialize"
      (if a.renderedOnly then some (.text SerializeMode.rendered.name) else none)

/-- A path as the summary shows it: as seen from the current directory, if it is below. -/
def shownPath (fs : FileSystem) (path : Path) : Except Failure Text :=
  match fs.resolve path with
  | .ok resolved =>
      .ok (((resolved.relativeTo? fs.currentPath).map Path.text).getD path.text)
  | .error .nullInPath => .ok path.text
  | .error f => .error f

/-- The path of the output as the options give it, unless it is empty. -/
def givenOutput? (o : Options) : Option Path :=
  match o.value "output_path" with
  | .text (c :: rest) => some (.ofText (c :: rest))
  | .path p => some p
  | _ => none

/-- What is printed at the end. -/
def printed (fs : FileSystem) (o : Options) (records : List Record) : Except Failure Text :=
  match givenOutput? o with
  | some path => do
      let shown ← shownPath fs path
      return "Collected " ++ Text.ofNat records.length ++ " components into " ++ shown ++ "\n"
  | none => .ok ((Json.array (records.map Record.json)).indented 0 ++ "\n")

/-- What is said when a failure ends the program, if it does not get through. -/
def farewell? (f : Failure) : Option Text :=
  match f with
  | .config _ => some (Log.programName ++ ": invalid configuration: " ++ f.message ++ "\n")
  | .undecodable _ => some (failed f)
  | _ =>
      if f.isMissing then some (f.message ++ "\n")
      else if f.isSystem then some (failed f)
      else none
where
  /-- What is said when something did not work. -/
  failed (f : Failure) : Text :=
    Log.programName ++ " " ++ Arguments.commandName ++ " failed: " ++ f.message
      ++ "\nRun with --verbose for more details.\n"

/-- The report when a failure ends the collection. -/
def failed (fs : FileSystem) (console : Text) (f : Failure) : Report :=
  match farewell? f with
  | some words => { ending := .exit 1, console := console ++ words, fs }
  | none => { ending := .escaped f, console, fs }

/-- The report when a collection has come to an end. -/
def concluded (o : Options) (outcome : Collector.Outcome) : Report :=
  let shared := outcome.state.shared
  let fs := shared.file.fs
  let console := shared.journal.console
  match outcome.failure, shared.channel.wait with
  | some f, _ => failed fs console f
  | none, .error f => failed fs console f
  | none, .ok false => { ending := .stuck, console, fs }
  | none, .ok true =>
      match printed fs o shared.channel.records with
      | .ok output => { ending := .exit 0, output, console, fs }
      | .error f => { ending := .escaped f, console, fs }

/-- Carry out the command. -/
def collect (readers : Readers) (fs : FileSystem) (account : Account) (logger : Log.Logger)
    (a : Arguments) : Report :=
  match options readers.yaml fs account a with
  | .error f => failed fs [] f
  | .ok o =>
      match Settings.ofOptions account (.mapping o) with
      | .error f => failed fs [] f
      | .ok settings =>
          concluded o ((Collector.ofSettings settings readers.codecs).run fs account { logger })

/-- Run the program with arguments that have been read. -/
def run (readers : Readers) (fs : FileSystem) (account : Account) (logger : Log.Logger)
    (a : Arguments) : Report :=
  match a.logFile.mapM (pathOf .pathDropped) with
  | .error f => { ending := .escaped f, fs }
  | .ok logFile =>
      match logger.configure fs a.verbosity logFile with
      | (_, fs, some f) => { ending := .escaped f, fs }
      | (logger, fs, none) => collect readers fs account logger a

end MarkupCatalog.Program
