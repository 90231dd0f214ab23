import MarkupCatalog.FileSystem.Change
import MarkupCatalog.Program
import Std.Time.Format
import Std.Time.Zoned

/-!
# The executable

The outermost layer: it looks at the files around the current directory, runs the
program on them, and then prints what is to be printed and writes what has changed.
-/

namespace MarkupCatalog.Main

/-- The entry that a directory entry of the system stands for. -/
partial def load (e : IO.FS.DirEntry) : IO Entry := do
  match (← e.path.symlinkMetadata).type with
  | .dir =>
      let children ← e.path.readDir
      return .directory (← children.toList.mapM fun c => return (c.fileName.toList, ← load c))
  | .file => return .file (← IO.FS.readBinFile e.path).toList
  | .symlink =>
      try return .link (← IO.FS.realPath e.path).toString.toList
      catch _ => return .link []
  | .other => return .device .null

/-- A file system in which a place holds an entry, with the directories above it. -/
def insert (fs : FileSystem) (place : List Text) (e : Entry) : FileSystem :=
  ((fs.ensureDirectories (.absolute place.dropLast)).1).put place e

/-- The devices that every file system has. -/
def devices : Entry :=
  .directory [("dev", .directory [("null", .device .null), ("full", .device .full)])]

/-- The files below the current directory and below the paths that are named in full. -/
def loadAll (args : List String) : IO FileSystem := do
  let here ← IO.currentDir
  let current := (Path.ofText here.toString.toList).names
  let mut fs : FileSystem := ⟨devices, current⟩
  for arg in "." :: args do
    let path := here / arg
    if arg == "." || path.toString == arg then
      if ← path.pathExists then
        fs := insert fs (fs.absolutePath (.ofText path.toString.toList)).names (← load ⟨here, arg⟩)
  return fs

/-- The home directories of the users. -/
def loadAccount : IO Account := do
  let home := (← IO.getEnv "HOME").getD "/"
  let lines ← try IO.FS.lines "/etc/passwd" catch _ => pure #[]
  let users := lines.toList.filterMap fun line =>
    match line.splitOn ":" with
    | name :: _ :: _ :: _ :: _ :: directory :: _ => some (name.toList, directory.toList)
    | _ => none
  return ⟨home.toList, users⟩

/-- Write what has changed. -/
def save (before after : Entry) : IO Unit := do
  for (place, e) in Entry.changes (some before) [] after do
    let path := String.ofList (Path.absolute place).text
    match e with
    | .directory _ => IO.FS.createDirAll path
    | .file content => IO.FS.writeBinFile path ⟨content.toArray⟩
    | _ => pure ()

/-- Print what a run of the program says, write what has changed, and give the exit
code. -/
def conclude (before : FileSystem) (report : Program.Report) : IO UInt32 := do
  save before.root report.fs.root
  IO.eprint (String.ofList report.console)
  IO.print (String.ofList report.output)
  match report.ending with
  | .exit code => return code.toUInt32
  | .escaped f =>
      IO.eprintln (String.ofList f.message)
      return 1
  | .stuck => return 1

/-- Run the program. -/
def run (args : List String) : IO UInt32 := do
  match Arguments.parse (args.map String.toList) with
  | .help program =>
      IO.print (String.ofList (Arguments.summary program))
      return 0
  | .misuse program e =>
      IO.eprint (String.ofList (Arguments.summary program))
      IO.eprintln (String.ofList (Arguments.complaint program e))
      return 2
  | .arguments a =>
      let fs ← loadAll args
      let now ← Std.Time.PlainDateTime.now
      let clock := (now.format "uuuu-MM-dd HH:mm:ss,SSS").toList
      conclude fs (Program.run .usual fs (← loadAccount) { clock } a)

end MarkupCatalog.Main

/-- The entry point. -/
def main (args : List String) : IO UInt32 := MarkupCatalog.Main.run args
