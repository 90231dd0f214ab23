import MarkupCatalog.Text.Digit
import MarkupCatalog.Text.Quoted
import MarkupCatalog.Text.Search

/-!
# The grammar of command lines

A command line is a list of arguments.  Some of them name options, the others are words.
An option has a short name such as `-o`, a long name such as `--output`, or both, and
takes no value or one.

* A long name may be cut short as long as it fits one option only.
* A value follows its option as the next word, or after an equals sign, or directly after
  a short name.
* Short names of options without a value may share one dash.
* After the argument `--` everything is a word.  Numbers below zero and arguments with a
  space are words too, unless they name an option.
-/

namespace MarkupCatalog.Arguments

/-- An option, which the program knows by its key. -/
structure Spec (κ : Type) where
  key : κ
  names : List Text
  takesValue : Bool := false
  deriving DecidableEq, Repr

/-- All names of an option as messages show them. -/
def Spec.title {κ : Type} (s : Spec κ) : Text := Text.joinWith "/" s.names

/-- The options that a command knows. -/
abbrev Grammar (κ : Type) := List (Spec κ)

/-- What is wrong with a command line. -/
inductive UsageError
  | ambiguous (arg : Text) (candidates : List Text)
  | valueMissing (option : Text)
  | valueUnwanted (option value : Text)
  | unknownCommand (name : Text)
  | commandMissing
  | unrecognized (args : List Text)
  deriving DecidableEq, Repr

/-- The argument after which everything is a word. -/
def separator : Text := ['-', '-']

/-- What is said about a command line. -/
def UsageError.message : UsageError → Text
  | .ambiguous arg candidates =>
      "ambiguous option: " ++ arg ++ " could match " ++ Text.joinWith ", " candidates
  | .valueMissing option => "argument " ++ option ++ ": expected one argument"
  | .valueUnwanted option value =>
      "argument " ++ option ++ ": ignored explicit argument " ++ Text.quoted value
  | .unknownCommand name =>
      "argument command: invalid choice: " ++ Text.quoted name ++ " (choose from 'collect')"
  | .commandMissing => "the following arguments are required: command"
  | .unrecognized args => "unrecognized arguments: " ++ Text.joinWith " " args

/-- The value of an option.  The separator is dropped where a value is expected, and
leaves nothing. -/
inductive Value
  | word (t : Text)
  | dropped
  deriving DecidableEq, Repr

/-- The value that an argument gives. -/
def Value.ofText (t : Text) : Value := if t = separator then .dropped else .word t

/-- An option as it is found in an argument, with the value in the same argument. -/
structure Found (κ : Type) where
  spec : Spec κ
  name : Text
  value : Option Text := none
  deriving DecidableEq, Repr

/-- What an argument is taken for. -/
inductive Reading (κ : Type)
  | word
  /-- The first `--`. -/
  | separator
  | option (found : Found κ)
  /-- An option that nobody knows. -/
  | unknown
  deriving DecidableEq, Repr

/-- An argument and what it is taken for. -/
structure Token (κ : Type) where
  arg : Text
  reading : Reading κ
  deriving DecidableEq, Repr

namespace Grammar

variable {κ : Type}

/-- All names with their options. -/
def entries (g : Grammar κ) : List (Text × Spec κ) := g.flatMap fun s => s.names.map (·, s)

/-- The option with a name. -/
def find? (g : Grammar κ) (name : Text) : Option (Spec κ) :=
  (g.entries.find? (·.1 = name)).map (·.2)

/-- Does the argument start with two dashes? -/
def isLong : Text → Bool
  | '-' :: '-' :: _ => true
  | _ => false

/-- An argument up to its first equals sign, and what comes after that. -/
def cutAtEquals (arg : Text) : Text × Option Text :=
  match Text.firstIndex? ['='] arg with
  | some i => (arg.take i, some (arg.drop (i + 1)))
  | none => (arg, none)

/-- The options that an argument can mean, if it is no full name. -/
def candidates (g : Grammar κ) (arg : Text) : List (Found κ) :=
  if isLong arg then
    let (start, value) := cutAtEquals arg
    (g.entries.filter fun e => start.isPrefixOf e.1).map fun e => ⟨e.2, e.1, value⟩
  else
    (g.entries.filter (·.1 = arg.take 2)).map fun e => ⟨e.2, e.1, some (arg.drop 2)⟩

/-- Is the argument a number below zero? -/
def isNegativeNumber (arg : Text) : Bool :=
  match arg with
  | '-' :: number =>
      let number := if number.getLast? = some '\n' then number.dropLast else number
      match number.dropWhile Text.isDecimalDigit with
      | [] => !number.isEmpty
      | '.' :: decimals => !decimals.isEmpty && decimals.all Text.isDecimalDigit
      | _ => false
  | _ => false

/-- What an argument before the separator is taken for. -/
def classify (g : Grammar κ) (arg : Text) : Except UsageError (Reading κ) :=
  match arg with
  | '-' :: _ :: _ =>
      match g.find? arg with
      | some spec => .ok (.option ⟨spec, arg, none⟩)
      | none =>
          let (name, value) := cutAtEquals arg
          match g.find? name, value with
          | some spec, some v => .ok (.option ⟨spec, name, some v⟩)
          | _, _ =>
              match g.candidates arg with
              | [found] => .ok (.option found)
              | [] => .ok (if isNegativeNumber arg || arg.contains ' ' then .word else .unknown)
              | several => .error (.ambiguous arg (several.map (·.name)))
  | _ => .ok .word

/-- What the arguments are taken for. -/
def tokens (g : Grammar κ) : List Text → Except UsageError (List (Token κ))
  | [] => .ok []
  | arg :: rest =>
      if arg = separator then .ok (⟨arg, .separator⟩ :: rest.map (⟨·, .word⟩))
      else do
        let reading ← g.classify arg
        let others ← g.tokens rest
        return ⟨arg, reading⟩ :: others

/-- An option that was taken, with its value if it has one. -/
abbrev Taken (κ : Type) := κ × Option Value

/-- The options in one argument: those that are complete, and the last one if it still
needs its value. -/
structure Cluster (κ : Type) where
  taken : List (Taken κ) := []
  pending : Option (Spec κ) := none

/-- An option without a value in the same argument. -/
def bare (s : Spec κ) : Cluster κ :=
  if s.takesValue then { pending := some s } else { taken := [(s.key, none)] }

/-- An option with a short name and what follows the name in the same argument. -/
def joined (g : Grammar κ) (s : Spec κ) (rest : Text) : Except UsageError (Cluster κ) :=
  if s.takesValue then .ok { taken := [(s.key, some (.ofText rest))] }
  else match rest with
    | [] => .error (.valueUnwanted s.title [])
    | c :: more =>
        match g.find? ['-', c] with
        | none => .error (.valueUnwanted s.title rest)
        | some next => do
            let cluster ← if more.isEmpty then .ok (bare next) else joined g next more
            return { cluster with taken := (s.key, none) :: cluster.taken }

/-- The options in one argument. -/
def cluster (g : Grammar κ) (f : Found κ) : Except UsageError (Cluster κ) :=
  match f.value with
  | none => .ok (bare f.spec)
  | some v =>
      if f.spec.takesValue then .ok { taken := [(f.spec.key, some (.ofText v))] }
      else if isLong f.name then .error (.valueUnwanted f.spec.title v)
      else joined g f.spec v

end Grammar

end MarkupCatalog.Arguments
