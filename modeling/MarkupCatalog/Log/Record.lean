import MarkupCatalog.Text.Basic

/-!
# Log records

What the parts of a run say about their progress: a level, the name of the part, and a
message.
-/

namespace MarkupCatalog.Log

/-- How important a message is. -/
abbrev Level := Nat

namespace Level

/-- For those who look for a mistake. -/
def debug : Level := 10

/-- For everybody. -/
def info : Level := 20

/-- Something is odd. -/
def warning : Level := 30

/-- Something went wrong. -/
def error : Level := 40

/-- Nothing works any more. -/
def critical : Level := 50

/-- The name of a level. -/
def name (level : Level) : Text :=
  if level = debug then "DEBUG"
  else if level = info then "INFO"
  else if level = warning then "WARNING"
  else if level = error then "ERROR"
  else if level = critical then "CRITICAL"
  else if level = 0 then "NOTSET"
  else "Level " ++ Text.ofNat level

end Level

/-- A message of a part of the program. -/
structure Record where
  level : Level
  part : Text
  message : Text
  deriving DecidableEq, Repr

/-- The name under which the program as a whole reports. -/
def programName : Text := "compdocs"

/-- The full name of a part. -/
def fullName (part : Text) : Text :=
  if part.isEmpty then programName else programName ++ "." ++ part

end MarkupCatalog.Log
