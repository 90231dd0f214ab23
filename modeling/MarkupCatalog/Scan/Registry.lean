import MarkupCatalog.Account
import MarkupCatalog.FileSystem.Reading
import MarkupCatalog.Log.Record
import MarkupCatalog.Scan.Candidate

/-!
# The registry of annotated files

A scan reads every candidate below a directory and registers those in which the keyword
occurs somewhere.  If one of them cannot be read, there is no registry at all.
-/

namespace MarkupCatalog.Scan

/-- Annotated files and their texts, in the order of the scan. -/
abbrev Registry := List (Path × Text)

namespace Registry

/-- The text of a registered file. -/
def get? (r : Registry) (path : Path) : Option Text := (r.find? (·.1 = path)).map (·.2)

/-- A path as it is shown to the user of the library. -/
def describePath (path : Path) : Text := "PosixPath(" ++ Text.quoted path.text ++ ")"

/-- The registry as it is shown to the user of the library. -/
def describe (r : Registry) : Text :=
  "Registry([" ++ Text.joinWith ", " (r.map fun entry => describePath entry.1) ++ "])"

end Registry

/-- What a scan looks for. -/
structure Scanner where
  keyword : Text
  extensions : List Text
  excludes : List Text
  charset : Text
  codecs : Charset.Codecs

namespace Scanner

/-- The filter for candidates. -/
def filter (s : Scanner) : Filter := .ofPatterns s.extensions s.excludes

/-- May a text hold an annotation?  A registered file may still hold none. -/
def mayAnnotate (keyword text : Text) : Bool := Text.occursIn keyword text

/-- The progress of a scan. -/
def note (message : Text) : Log.Record := ⟨Log.Level.debug, "scanner", message⟩

/-- Read files one after the other and register those with the keyword, until one cannot
be read. -/
def readAll (s : Scanner) (fs : FileSystem) : List Path → List Log.Record × Except Failure Registry
  | [] => ([], .ok [])
  | path :: rest =>
      match fs.readText s.codecs s.charset path.text with
      | .error failure => ([], .error failure)
      | .ok text =>
          let (log, registry) := s.readAll fs rest
          if mayAnnotate s.keyword text then
            (note ("Registered " ++ path.text) :: log, registry.map ((path, text) :: ·))
          else (log, registry)

/-- The directory to be scanned.  The failures name it as it was given. -/
def findRoot (fs : FileSystem) (account : Account) (given : Text) : Except Failure Path := do
  let root ← account.expand (.ofText given)
  if !(← fs.isThere root) then throw (.rootNotFound given)
  if !(← fs.isDirectory root) then throw (.rootNotDirectory given)
  return root

/-- The candidate files below a directory. -/
def candidatePaths (s : Scanner) (fs : FileSystem) (root : Path) : Except Failure (List Path) := do
  let entries ← fs.listDirectory root
  return (candidates s.filter entries).map fun names => root.join ⟨[], names⟩

/-- Register the annotated files below a directory. -/
def scan (s : Scanner) (fs : FileSystem) (account : Account) (given : Text) :
    List Log.Record × Except Failure Registry :=
  match findRoot fs account given with
  | .error failure => ([], .error failure)
  | .ok root =>
      match s.candidatePaths fs root with
      | .error failure => ([], .error failure)
      | .ok paths =>
          match s.readAll fs paths with
          | (log, .error failure) => (log, .error failure)
          | (log, .ok registry) =>
              (log ++ [note ("Scanned " ++ Text.ofNat paths.length ++ " candidate files under "
                ++ root.text ++ ", " ++ Text.ofNat registry.length ++ " registered")],
                .ok registry)

end Scanner

end MarkupCatalog.Scan
