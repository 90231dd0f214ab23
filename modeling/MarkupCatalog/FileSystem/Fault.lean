import MarkupCatalog.Text.Quoted

/-!
# Faults of the file system

Why the operating system refuses an operation, with the number and the words that it
uses for it.
-/

namespace MarkupCatalog.FileSystem

/-- Why the operating system refuses an operation. -/
inductive Fault
  | notFound
  | alreadyExists
  | notDirectory
  | isDirectory
  | noSpace
  | nameTooLong
  | tooManyLinks
  deriving DecidableEq, Repr

namespace Fault

/-- The number of a fault. -/
def number : Fault → Nat
  | .notFound => 2
  | .alreadyExists => 17
  | .notDirectory => 20
  | .isDirectory => 21
  | .noSpace => 28
  | .nameTooLong => 36
  | .tooManyLinks => 40

/-- The words for a fault. -/
def words : Fault → Text
  | .notFound => "No such file or directory"
  | .alreadyExists => "File exists"
  | .notDirectory => "Not a directory"
  | .isDirectory => "Is a directory"
  | .noSpace => "No space left on device"
  | .nameTooLong => "File name too long"
  | .tooManyLinks => "Too many levels of symbolic links"

end Fault

/-- A refusal, with the path that the operation was about. -/
structure Refusal where
  fault : Fault
  path : Option Text := none
  deriving DecidableEq, Repr

/-- What is said about a refusal. -/
def Refusal.message (r : Refusal) : Text :=
  "[Errno " ++ Text.ofNat r.fault.number ++ "] " ++ r.fault.words
    ++ (match r.path with
      | some path => ": " ++ Text.quoted path
      | none => [])

end MarkupCatalog.FileSystem
