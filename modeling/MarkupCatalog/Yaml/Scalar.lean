import MarkupCatalog.Yaml.Moment

/-!
# Scalars of a YAML text

The three ways in which a text stands in a YAML document: between quotes, plain, and
as an indented block of lines.  A line end inside quotes or in a plain scalar is read
as a space, and each further one as a line feed; a block keeps its lines, or folds
them in the same way.
-/

namespace MarkupCatalog.Yaml

/-- The value of a hexadecimal digit. -/
def hexValue? (c : Char) : Option Nat :=
  if '0' ≤ c ∧ c ≤ '9' then some (c.toNat - '0'.toNat)
  else if 'a' ≤ c ∧ c ≤ 'f' then some (c.toNat - 'a'.toNat + 10)
  else if 'A' ≤ c ∧ c ≤ 'F' then some (c.toNat - 'A'.toNat + 10)
  else none

/-- The number that hexadecimal digits write. -/
def hexNumber? (digits : Text) : Option Nat :=
  digits.foldl (fun n c => do return (← n) * 16 + (← hexValue? c)) (some 0)

/-- The character that a letter after a backslash stands for. -/
def escapedChar? : Char → Option Char
  | '0' => some '\x00'
  | 'a' => some '\x07'
  | 'b' => some '\x08'
  | 't' => some '\t'
  | '\t' => some '\t'
  | 'n' => some '\n'
  | 'v' => some '\x0b'
  | 'f' => some '\x0c'
  | 'r' => some '\r'
  | 'e' => some '\x1b'
  | ' ' => some ' '
  | '"' => some '"'
  | '\\' => some '\\'
  | '/' => some '/'
  | 'N' => some '\u0085'
  | '_' => some '\u00a0'
  | 'L' => some '\u2028'
  | 'P' => some '\u2029'
  | _ => none

/-- The number of hexadecimal digits after a backslash and a letter. -/
def escapeWidth? : Char → Option Nat
  | 'x' => some 2
  | 'u' => some 4
  | 'U' => some 8
  | _ => none

/-- The line ends of the empty lines that follow a line end in a quoted scalar. -/
def readQuotedBreaks : Nat → Reader Text
  | 0 => refuse
  | fuel + 1 => do
      if ← atDocumentMarker then refuse
      let _ ← readWhile isSpaceOrTab
      if isBreak (← peek) then
        let first ← readBreak
        return first ++ (← readQuotedBreaks fuel)
      else return []

/-- What a run of white space in a quoted scalar stands for. -/
def readQuotedGap (fuel : Nat) : Reader Text := do
  let blanks ← readWhile isSpaceOrTab
  let ch ← peek
  if ch == endMark then refuse
  else if isBreak ch then
    let first ← readBreak
    let more ← readQuotedBreaks fuel
    if first != ['\n'] then return first ++ more
    else if more.isEmpty then return [' ']
    else return more
  else return blanks

/-- The numbers of the characters of a text. -/
def codes (text : Text) : List Nat := text.map Char.toNat

/-- The text with the given numbers.  Two halves of a surrogate pair are one character; a
half that stands alone is none, and is read as the replacement character. -/
def ofCodes : List Nat → Text
  | [] => []
  | [n] => [ofCode n]
  | n :: m :: rest =>
      if 0xD800 ≤ n && n < 0xDC00 && 0xDC00 ≤ m && m < 0xE000 then
        Char.ofNat (0x10000 + (n - 0xD800) * 0x400 + (m - 0xDC00)) :: ofCodes rest
      else ofCode n :: ofCodes (m :: rest)
where
  /-- The character with a number. -/
  ofCode (n : Nat) : Char := if 0xD800 ≤ n && n < 0xE000 then '\uFFFD' else Char.ofNat n

/-- The numbers that an escape sequence stands for, its backslash being read. -/
def readEscape (fuel : Nat) : Reader (List Nat) := do
  let ch ← peek
  match escapedChar? ch, escapeWidth? ch with
  | some c, _ =>
      skip 1
      return [c.toNat]
  | none, some width =>
      skip 1
      let digits := (← get).rest.take width
      demand (digits.length == width)
      match hexNumber? digits with
      | none => refuse
      | some n =>
          if 0x80000000 ≤ n then throw .codePointOverflow
          if 0x110000 ≤ n then throw .codePointTooLarge
          skip width
          return [n]
  | none, none =>
      demand (isBreak ch)
      let _ ← readBreak
      return codes (← readQuotedBreaks fuel)

/-- Read a quoted scalar up to its end; its first quote has been read. -/
def readQuotedRest (double : Bool) : Nat → Reader (List Nat)
  | 0 => refuse
  | fuel + 1 => do
      let run := codes (← readWhile fun c => c != '\'' && c != '"' && c != '\\' && !isGap c)
      let ch ← peek
      if !double && ch == '\'' && (← peekAt 1) == '\'' then
        skip 2
        return run ++ ch.toNat :: (← readQuotedRest double fuel)
      else if ch == (if double then '"' else '\'') then
        skip 1
        return run
      else if ch == '\'' || ch == '"' || (!double && ch == '\\') then
        skip 1
        return run ++ ch.toNat :: (← readQuotedRest double fuel)
      else if ch == '\\' then
        skip 1
        let piece ← readEscape fuel
        return run ++ piece ++ (← readQuotedRest double fuel)
      else
        let gap ← readQuotedGap fuel
        return run ++ codes gap ++ (← readQuotedRest double fuel)

/-- Read a quoted scalar. -/
def readQuoted : Reader Text := do
  let double := (← peek) == '"'
  let fuel := (← get).rest.length
  skip 1
  return ofCodes (← readQuotedRest double (fuel + 1))

/-- The line ends of the empty lines that follow a line end in a plain scalar; none if
a document marker comes next. -/
def readPlainBreaks : Nat → Reader (Option Text)
  | 0 => refuse
  | fuel + 1 => do
      let ch ← peek
      if ch == ' ' then
        skip 1
        readPlainBreaks fuel
      else if isBreak ch then
        let first ← readBreak
        if ← atDocumentMarker then return none
        return (← readPlainBreaks fuel).map (first ++ ·)
      else return some []

/-- What a run of white space inside a plain scalar stands for; nothing if the scalar
ends here.  The flag tells whether a line end was passed. -/
def readPlainGap (fuel : Nat) : Reader (Text × Bool) := do
  let blanks ← readWhile (· == ' ')
  if isBreak (← peek) then
    let first ← readBreak
    if ← atDocumentMarker then return ([], true)
    match ← readPlainBreaks fuel with
    | none => return ([], true)
    | some more =>
        if first != ['\n'] then return (first ++ more, true)
        else if more.isEmpty then return ([' '], true)
        else return (more, true)
  else return (blanks, false)

/-- Does a plain scalar end before this character? -/
def endsPlain (inFlow : Bool) (ch next : Char) : Bool :=
  isGap ch
    || (ch == ':' && (isGap next || (inFlow && [',', '[', ']', '{', '}'].contains next)))
    || (inFlow && [',', '?', '[', ']', '{', '}'].contains ch)

/-- The front of a text that belongs to a plain scalar. -/
def plainRun (inFlow : Bool) : Text → Text
  | [] => []
  | ch :: rest =>
      if endsPlain inFlow ch (rest.headD endMark) then [] else ch :: plainRun inFlow rest

/-- Read a plain scalar, with the white space `gap` in front of it.  The flag tells
whether the scalar ends after a line end. -/
def readPlainRest (inFlow : Bool) (indent : Int) : Nat → Text → Bool → Reader (Text × Bool)
  | 0, _, _ => refuse
  | fuel + 1, gap, broken => do
      if (← peek) == '#' then return ([], broken)
      let run := plainRun inFlow (← get).rest
      if run.isEmpty then return ([], broken)
      skip run.length
      let (nextGap, broken) ← readPlainGap fuel
      if nextGap.isEmpty || (← peek) == '#'
          || (!inFlow && ((← get).column : Int) < indent) then
        return (gap ++ run, broken)
      let (more, broken) ← readPlainRest inFlow indent fuel nextGap broken
      return (gap ++ run ++ more, broken)

/-- Read a plain scalar; its further lines are indented by at least `indent`. -/
def readPlain (inFlow : Bool) (indent : Int) : Reader (Text × Bool) := do
  readPlainRest inFlow indent ((← get).rest.length + 1) [] false

/-- What is done with the line ends at the end of a block. -/
inductive Chomping
  | clip
  | strip
  | keep
  deriving DecidableEq, Repr

/-- The digit that gives the indentation of a block, if there is one. -/
def readIndentDigit : Reader (Option Nat) := do
  let ch ← peek
  if '0' ≤ ch ∧ ch ≤ '9' then
    demand (ch != '0')
    skip 1
    return some (ch.toNat - '0'.toNat)
  else return none

/-- The sign that tells about the line ends at the end of a block. -/
def readChomping : Reader Chomping := do
  let ch ← peek
  if ch == '+' then
    skip 1
    return .keep
  else if ch == '-' then
    skip 1
    return .strip
  else return .clip

/-- The signs after the mark of a block, in either order. -/
def readBlockHeader : Reader (Chomping × Option Nat) := do
  let first ← readChomping
  let increment ← readIndentDigit
  let chomping ← if first == .clip && increment.isSome then readChomping else pure first
  demand (isSpaceOrEnd (← peek))
  skipSpaces
  skipComment
  demand (isBreakOrEnd (← peek))
  let _ ← readBreak
  return (chomping, increment)

/-- The empty lines in front of a block, and the widest indentation among them. -/
def readBlockIndent : Nat → Nat → Reader (Text × Nat)
  | 0, _ => refuse
  | fuel + 1, widest => do
      let ch ← peek
      if ch == ' ' then
        skip 1
        readBlockIndent fuel (max widest (← get).column)
      else if isBreak ch then
        let first ← readBreak
        let (more, widest) ← readBlockIndent fuel widest
        return (first ++ more, widest)
      else return ([], widest)

/-- Pass over at most the spaces of an indentation. -/
def skipIndent (indent : Nat) : Reader Unit := do
  let c ← get
  let spaces := (c.rest.takeWhile (· == ' ')).length
  skip (min spaces (indent - c.column))

/-- The empty lines between two lines of a block. -/
def readBlockBreaks (indent : Nat) : Nat → Reader Text
  | 0 => refuse
  | fuel + 1 => do
      skipIndent indent
      if isBreak (← peek) then
        let first ← readBreak
        return first ++ (← readBlockBreaks indent fuel)
      else return []

/-- Is there a line of the block at this place? -/
def atBlockLine (indent : Nat) : Reader Bool := do
  let c ← get
  return c.column == indent && c.peek 0 != endMark

/-- Read the lines of a block, which has a line at this place.  The last line end and
the empty lines after it are given apart. -/
def readBlockLines (folded : Bool) (indent : Nat) : Nat → Reader (Text × Text × Text)
  | 0 => refuse
  | fuel + 1 => do
      let startsText := !isSpaceOrTab (← peek)
      let line ← readWhile (!isBreakOrEnd ·)
      let lineEnd ← readBreak
      let breaks ← readBlockBreaks indent fuel
      if ← atBlockLine indent then
        let glue :=
          if folded && lineEnd == ['\n'] && startsText && !isSpaceOrTab (← peek) then
            if breaks.isEmpty then [' '] else []
          else lineEnd
        let (more, last, trailing) ← readBlockLines folded indent fuel
        return (line ++ glue ++ breaks ++ more, last, trailing)
      else return (line, lineEnd, breaks)

/-- Read a block scalar; `parent` is the indentation of what it stands in. -/
def readBlockScalar (parent : Int) : Reader Text := do
  let folded := (← peek) == '>'
  let fuel := (← get).rest.length + 1
  skip 1
  let (chomping, increment) ← readBlockHeader
  let least := (max (parent + 1) 1).toNat
  let (front, indent) ← match increment with
    | none =>
        let (front, widest) ← readBlockIndent fuel 0
        pure (front, max least widest)
    | some n =>
        let indent := least + n - 1
        pure (← readBlockBreaks indent fuel, indent)
  let (body, last, trailing) ←
    if ← atBlockLine indent then
      let (body, last, trailing) ← readBlockLines folded indent fuel
      pure (front ++ body, last, trailing)
    else pure ([], [], front)
  match chomping with
  | .strip => return body
  | .clip => return body ++ last
  | .keep => return body ++ last ++ trailing

end MarkupCatalog.Yaml
