import MarkupCatalog.Failure
import MarkupCatalog.Path

/-!
# Home directories

A path whose first name starts with a tilde is a path below a home directory: that of
the user who runs the program, or of the user who is named after the tilde.
-/

namespace MarkupCatalog

/-- The home directories that are known. -/
structure Account where
  /-- The home directory of the user who runs the program. -/
  home : Text
  /-- The home directories of users by name. -/
  users : List (Text × Text) := []

namespace Account

/-- The home directory that the name after a tilde stands for. -/
def homeOf (account : Account) (user : Text) : Except Failure Text :=
  if user.isEmpty then .ok account.home
  else if user.contains '\x00' then .error .nullInPath
  else
    match account.users.find? (·.1 = user) with
    | some (_, home) => .ok home
    | none => .error .noHome

/-- The path with a home directory in place of a leading tilde. -/
def expand (account : Account) (path : Path) : Except Failure Path :=
  match path.isAbsolute, path.names with
  | false, ('~' :: user) :: names => do
      let home := Path.ofText (← account.homeOf user)
      return ⟨home.root, home.names ++ names⟩
  | _, _ => .ok path

end Account

end MarkupCatalog
