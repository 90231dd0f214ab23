import MarkupCatalog.Arguments.Grammar
import MarkupCatalog.Log.Logger
import MarkupCatalog.Path

/-!
# The command line of the program

The program has one command, which comes after the options of the program as a whole and
before its own.
-/

namespace MarkupCatalog

/-- What the arguments of the program say. -/
structure Arguments where
  verbosity : Log.Verbosity := {}
  logFile : Option Arguments.Value := none
  path : Option Text := none
  output : Option Arguments.Value := none
  keyword : Option Arguments.Value := none
  placeholder : Option Arguments.Value := none
  templateFile : Option Arguments.Value := none
  extensions : List Arguments.Value := []
  excludes : List Arguments.Value := []
  renderedOnly : Bool := false
  config : Option Arguments.Value := none
  deriving DecidableEq, Repr

namespace Arguments

/-- The options of the program and of its command. -/
inductive Key
  | help
  | verbose
  | quiet
  | logFile
  | output
  | keyword
  | placeholder
  | templateFile
  | extension
  | exclude
  | renderedOnly
  | config
  deriving DecidableEq, Repr

/-- The options that the program and its command have in common. -/
def common : Grammar Key :=
  [⟨.help, ["-h", "--help"], false⟩,
   ⟨.verbose, ["-v", "--verbose"], false⟩,
   ⟨.quiet, ["-q", "--quiet"], false⟩]

/-- The options before the command. -/
def programGrammar : Grammar Key := common ++ [⟨.logFile, ["--log-file"], true⟩]

/-- The options after the command. -/
def commandGrammar : Grammar Key :=
  common ++
  [⟨.output, ["-o", "--output"], true⟩,
   ⟨.keyword, ["--keyword"], true⟩,
   ⟨.placeholder, ["--placeholder"], true⟩,
   ⟨.templateFile, ["--template-file"], true⟩,
   ⟨.extension, ["--ext"], true⟩,
   ⟨.exclude, ["--exclude"], true⟩,
   ⟨.renderedOnly, ["--rendered-only"], false⟩,
   ⟨.config, ["--config"], true⟩]

/-- The name of the command. -/
def commandName : Text := "collect"

/-- Why a command line is not carried out. -/
inductive Stop
  | help
  | usage (e : UsageError)
  deriving DecidableEq, Repr

/-- The arguments after one more option.  Asking for help stops everything. -/
def take (a : Arguments) : Grammar.Taken Key → Except Stop Arguments
  | (.help, _) => .error .help
  | (.verbose, _) => .ok { a with verbosity := { a.verbosity with verbose := true } }
  | (.quiet, _) => .ok { a with verbosity := { a.verbosity with quiet := true } }
  | (.renderedOnly, _) => .ok { a with renderedOnly := true }
  | (.logFile, v) => .ok { a with logFile := v }
  | (.output, v) => .ok { a with output := v }
  | (.keyword, v) => .ok { a with keyword := v }
  | (.placeholder, v) => .ok { a with placeholder := v }
  | (.templateFile, v) => .ok { a with templateFile := v }
  | (.config, v) => .ok { a with config := v }
  | (.extension, v) => .ok { a with extensions := a.extensions ++ v.toList }
  | (.exclude, v) => .ok { a with excludes := a.excludes ++ v.toList }

/-- How far the arguments have been read: what they say, and what nobody knows. -/
structure Progress where
  arguments : Arguments := {}
  extras : List Text := []

namespace Progress

/-- One more argument that nobody knows. -/
def leave (p : Progress) (arg : Text) : Progress := { p with extras := p.extras ++ [arg] }

/-- Take options one after the other. -/
def takeAll (p : Progress) (taken : List (Grammar.Taken Key)) : Except Stop Progress := do
  return { p with arguments := ← taken.foldlM take p.arguments }

/-- Take the options of one argument.  The last one may take the word that comes next;
the number tells how many words were taken. -/
def takeOption (g : Grammar Key) (p : Progress) (found : Found Key) (rest : List (Token Key)) :
    Except Stop (Progress × Nat) := do
  let c ← (g.cluster found).mapError .usage
  match c.pending, rest with
  | none, _ => return (← p.takeAll c.taken, 0)
  | some s, ⟨arg, .word⟩ :: _ =>
      return (← p.takeAll (c.taken ++ [(s.key, some (.ofText arg))]), 1)
  | some s, _ => throw (.usage (.valueMissing s.title))

end Progress

/-- Read the arguments up to the command, which comes with all that follows it. -/
def readProgram : List (Token Key) → Progress → Except Stop (Progress × List Text)
  | [], p => .ok (p, [])
  | ⟨arg, reading⟩ :: rest, p =>
      match reading with
      | .unknown => readProgram rest (p.leave arg)
      | .option found => do
          let (p, words) ← p.takeOption programGrammar found rest
          readProgram (rest.drop words) p
      | .word => .ok (p, arg :: rest.map (·.arg))
      | .separator =>
          if rest.isEmpty then .ok (p.leave arg, []) else .ok (p, arg :: rest.map (·.arg))
termination_by tokens => tokens.length

/-- The arguments with a directory. -/
def Progress.goTo (p : Progress) (directory : Text) : Progress :=
  { p with arguments := { p.arguments with path := some directory } }

/-- Is the next token the separator? -/
def separatorFollows : List (Token Key) → Bool
  | ⟨_, .separator⟩ :: _ => true
  | _ => false

/-- Read the arguments of the command.  The first word is the directory, unless there is
one already (`filled`); a separator beside it is dropped. -/
def readCommand (filled : Bool) : List (Token Key) → Progress → Except Stop Progress
  | [], p => .ok p
  | ⟨arg, reading⟩ :: rest, p =>
      match reading with
      | .unknown => readCommand filled rest (p.leave arg)
      | .option found => do
          let (p, words) ← p.takeOption commandGrammar found rest
          readCommand filled (rest.drop words) p
      | .word =>
          if filled then readCommand true rest (p.leave arg)
          else readCommand true (rest.drop (if separatorFollows rest then 1 else 0)) (p.goTo arg)
      | .separator =>
          if filled then readCommand true rest (p.leave arg)
          else readCommand true (rest.drop 1) (rest.head?.elim p fun word => p.goTo word.arg)
termination_by tokens => tokens.length

/-- What a command line comes to.  Help and complaints name the program or the command
that they come from. -/
inductive Parsed
  | arguments (a : Arguments)
  | help (program : Text)
  | misuse (program : Text) (e : UsageError)
  deriving DecidableEq, Repr

/-- The outcome of a stop in a part of the program. -/
def Stop.parsed (program : Text) : Stop → Parsed
  | .help => .help program
  | .usage e => .misuse program e

/-- Read the arguments of the command. -/
def parseCommand (p : Progress) (args : List Text) : Except Stop Progress := do
  let tokens ← (commandGrammar.tokens args).mapError .usage
  readCommand false tokens p

/-- Read the arguments up to the command. -/
def parseProgram (args : List Text) : Except Stop (Progress × List Text) := do
  let tokens ← (programGrammar.tokens args).mapError .usage
  let (p, command) ← readProgram tokens {}
  match command with
  | [] => throw (.usage .commandMissing)
  | name :: rest =>
      if name = commandName then return (p, rest) else throw (.usage (.unknownCommand name))

/-- Read a command line.  What nobody knows is complained about at the very end. -/
def parse (args : List Text) : Parsed :=
  match parseProgram args with
  | .error stop => stop.parsed Log.programName
  | .ok (p, rest) =>
      match parseCommand p rest with
      | .error stop => stop.parsed (Log.programName ++ " " ++ commandName)
      | .ok p =>
          if p.extras.isEmpty then .arguments p.arguments
          else .misuse Log.programName (.unrecognized p.extras)

/-- How an option is shown in a summary. -/
def summaryOf (s : Spec Key) : Text :=
  " [" ++ s.names.headD [] ++ (if s.takesValue then " VALUE" else "") ++ "]"

/-- The summary of a command line. -/
def summary (program : Text) : Text :=
  let (g, words) : Grammar Key × Text :=
    if program = Log.programName then (programGrammar, " " ++ commandName ++ " ...")
    else (commandGrammar, " [path]")
  "usage: " ++ program ++ g.flatMap summaryOf ++ words ++ "\n"

/-- The complaint about a command line. -/
def complaint (program : Text) (e : UsageError) : Text := program ++ ": error: " ++ e.message

end Arguments

end MarkupCatalog
