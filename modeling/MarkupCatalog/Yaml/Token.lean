import MarkupCatalog.Charset.Utf8
import MarkupCatalog.Yaml.Scalar

/-!
# Tokens of a YAML text

A YAML text is cut into tokens from left to right.  Indentation becomes visible as
tokens that start and end block collections.

A key of a mapping is recognised by the colon after it.  So each token that may be the
start of such a key is remembered, one for every level of flow collections, until the
colon comes or can come no more: the key has to stand on one line and to be no longer
than 1024 characters.  When the colon comes, the key token is put in front of what was
remembered.
-/

namespace MarkupCatalog.Yaml

/-- A directive in front of a document. -/
inductive Directive
  | version (major : Nat)
  | tagHandle (handle expansion : Text)
  | other
  deriving DecidableEq, Repr

/-- A token. -/
inductive Token
  | streamEnd
  | directive (d : Directive)
  | documentStart
  | documentEnd
  | blockSequenceStart
  | blockMappingStart
  | blockEnd
  | flowSequenceStart
  | flowMappingStart
  | flowSequenceEnd
  | flowMappingEnd
  | key
  | value
  | blockEntry
  | flowEntry
  | alias (name : Text)
  | anchor (name : Text)
  | tag (handle : Option Text) (suffix : Text)
  | scalar (text : Text) (plain : Bool)
  deriving DecidableEq, Repr

/-- A place at which a key may have started. -/
structure PossibleKey where
  /-- The number of tokens in front of it. -/
  token : Nat
  /-- Must it turn out to be a key? -/
  required : Bool
  index : Nat
  line : Nat
  column : Nat

/-- Is the place too far behind the start of a key for that to be one? -/
def PossibleKey.isStale (k : PossibleKey) (here : Cursor) : Bool :=
  k.line != here.line || 1024 < here.index - k.index

/-- What is known when the text has been cut up to a place. -/
structure Cutting where
  tokens : Array Token := #[]
  /-- The present column of indentation, and those around it. -/
  indent : Int := -1
  indents : List Int := []
  /-- May a key start here? -/
  keyAllowed : Bool := true
  /-- The possible keys: of the present level, then of the flow collections around it. -/
  keys : List (Option PossibleKey) := [none]

/-- An action that cuts tokens off a text. -/
abbrev Cutter := StateT Cutting Reader

namespace Cutter

/-- Are we inside of a flow collection? -/
def inFlow : Cutter Bool := return 1 < (← get).keys.length

/-- Add a token. -/
def emit (t : Token) : Cutter Unit :=
  modify fun s => { s with tokens := s.tokens.push t }

/-- Put a token in front of the one with the given number. -/
def emitAt (n : Nat) (t : Token) : Cutter Unit :=
  modify fun s =>
    { s with tokens := (s.tokens.extract 0 n).push t ++ s.tokens.extract n s.tokens.size }

/-- Say whether a key may start at the next token. -/
def allowKey (b : Bool) : Cutter Unit := modify fun s => { s with keyAllowed := b }

/-- The column of the next character. -/
def column : Cutter Int := return ((← getThe Cursor).column : Int)

/-- Forget the possible keys that the present place is too far from. -/
def forgetStaleKeys : Cutter Unit := do
  let here ← getThe Cursor
  let s ← get
  if s.keys.any (fun k => k.any fun k => k.isStale here && k.required) then refuse
  set { s with keys := s.keys.map (Option.filter (!·.isStale here)) }

/-- The possible key of the present level. -/
def possibleKey? : Cutter (Option PossibleKey) := return ((← get).keys.head?).join

/-- Replace the possible key of the present level. -/
def setKey (key : Option PossibleKey) : Cutter Unit :=
  modify fun s => { s with keys := key :: s.keys.drop 1 }

/-- Forget the possible key of the present level, which must not be a required one. -/
def forgetKey : Cutter Unit := do
  match ← possibleKey? with
  | some key => if key.required then refuse else setKey none
  | none => pure ()

/-- Remember that a key may start here. -/
def rememberKey : Cutter Unit := do
  let s ← get
  if s.keyAllowed then
    let here ← getThe Cursor
    forgetKey
    setKey (some {
      token := s.tokens.size
      required := !(← inFlow) && s.indent == here.column
      index := here.index
      line := here.line
      column := here.column })

/-- End the block collections that are indented by more than the column. -/
def unwindTo (column : Int) : List Int → Cutter Unit
  | [] => pure ()
  | outer :: rest => do
      if column < (← get).indent then
        emit .blockEnd
        modify fun s => { s with indent := outer, indents := rest }
        unwindTo column rest

/-- End the block collections that are indented by more than the column.  Inside of a
flow collection indentation does not count. -/
def unwind (column : Int) : Cutter Unit := do
  if !(← inFlow) then unwindTo column (← get).indents

/-- Start a deeper indentation if the column asks for it. -/
def deepen (column : Int) : Cutter Bool := do
  let s ← get
  if s.indent < column then
    set { s with indent := column, indents := s.indent :: s.indents }
    return true
  else return false

/-- Pass over white space, comments and line ends to the next token. -/
def skipToToken : Nat → Cutter Unit
  | 0 => pure ()
  | fuel + 1 => do
      skipSpaces
      skipComment
      if !(← readBreak).isEmpty then
        if !(← inFlow) then allowKey true
        skipToToken fuel

/-- Is the character a letter or digit of ASCII, a hyphen or an underscore? -/
def isNameChar (c : Char) : Bool := c.isAlphanum || c == '-' || c == '_'

/-- May the character stand in the URI of a tag? -/
def isUriChar (c : Char) : Bool :=
  c.isAlphanum || "-;/?:@&=+$,_.!~*'()[]".toList.contains c

/-- The bytes of a run of percent-escapes. -/
def readEscapedBytes : Nat → Reader (List UInt8)
  | 0 => refuse
  | fuel + 1 => do
      if (← peek) == '%' then
        skip 1
        match hexNumber? ((← get).rest.take 2), (← get).rest.length with
        | some n, _ + 2 =>
            skip 2
            return n.toUInt8 :: (← readEscapedBytes fuel)
        | _, _ => refuse
      else return []

/-- Read the URI of a tag. -/
def readUriRest : Nat → Reader Text
  | 0 => refuse
  | fuel + 1 => do
      let run ← readWhile isUriChar
      if (← peek) == '%' then
        match Charset.Utf8.decode (← readEscapedBytes fuel) with
        | .ok text => return run ++ text ++ (← readUriRest fuel)
        | .error _ => refuse
      else return run

/-- Read the URI of a tag, which must not be empty. -/
def readUri : Reader Text := do
  let escaped := (← peek) == '%'
  let uri ← readUriRest ((← get).rest.length + 1)
  demand (escaped || !uri.isEmpty)
  return uri

/-- Read a tag handle: one exclamation mark, or a name between two of them. -/
def readHandle : Reader Text := do
  demand ((← peek) == '!')
  if (← peekAt 1) == ' ' then
    skip 1
    return ['!']
  skip 1
  let name ← readWhile isNameChar
  demand ((← peek) == '!')
  skip 1
  return '!' :: name ++ ['!']

/-- Read a decimal number. -/
def readNumber : Reader Nat := do
  let digits ← readWhile Char.isDigit
  demand (!digits.isEmpty)
  if maxDigits < digits.length then throw (.tooManyDigits (some digits.length))
  return digits.foldl (fun n c => n * 10 + (c.toNat - '0'.toNat)) 0

/-- Read what follows the name of a directive. -/
def readDirectiveValue (name : Text) : Reader Directive := do
  if name == "YAML".toList then
    skipSpaces
    let major ← readNumber
    demand ((← peek) == '.')
    skip 1
    let _ ← readNumber
    demand (isSpaceOrEnd (← peek))
    return .version major
  else if name == "TAG".toList then
    skipSpaces
    let handle ← readHandle
    demand ((← peek) == ' ')
    skipSpaces
    let expansion ← readUri
    demand (isSpaceOrEnd (← peek))
    return .tagHandle handle expansion
  else
    let _ ← readWhile (!isBreakOrEnd ·)
    return .other

/-- Read a directive. -/
def readDirective : Reader Directive := do
  skip 1
  let name ← readWhile isNameChar
  demand (!name.isEmpty)
  demand (isSpaceOrEnd (← peek))
  let directive ← readDirectiveValue name
  skipSpaces
  skipComment
  demand (isBreakOrEnd (← peek))
  let _ ← readBreak
  return directive

/-- Read the name of an anchor or of an alias. -/
def readAnchorName : Reader Text := do
  skip 1
  let name ← readWhile isNameChar
  demand (!name.isEmpty)
  let ch ← peek
  demand (isGap ch || "?:,]\x7d%@`".toList.contains ch)
  return name

/-- Read a tag. -/
def readTag : Reader Token := do
  let ch ← peekAt 1
  let token ←
    if ch == '<' then do
      skip 2
      let suffix ← readUri
      demand ((← peek) == '>')
      skip 1
      pure (Token.tag none suffix)
    else if isGap ch then do
      skip 1
      pure (Token.tag none ['!'])
    else do
      let word := ((← get).rest.drop 1).takeWhile (!isSpaceOrEnd ·)
      let handle ← if word.contains '!' then readHandle else do
        skip 1
        pure ['!']
      pure (Token.tag (some handle) (← readUri))
  demand (isSpaceOrEnd (← peek))
  return token

/-- Cut a token that needs no more than its sign. -/
def cutSign (length : Nat) (t : Token) : Cutter Unit := do
  skip length
  emit t

/-- Cut a document marker or a directive: all blocks end in front of it. -/
def leaveBlocks : Cutter Unit := do
  unwind (-1)
  forgetKey
  allowKey false

/-- Cut the start of a flow collection. -/
def cutFlowStart (t : Token) : Cutter Unit := do
  rememberKey
  modify fun s => { s with keys := none :: s.keys }
  allowKey true
  cutSign 1 t

/-- Cut the end of a flow collection. -/
def cutFlowEnd (t : Token) : Cutter Unit := do
  if !(← inFlow) then refuse
  forgetKey
  modify fun s => { s with keys := s.keys.drop 1 }
  allowKey false
  cutSign 1 t

/-- Start a block collection at this column if it is a new one. -/
def openBlock (t : Token) : Cutter Unit := do
  if !(← inFlow) then
    if !(← get).keyAllowed then refuse
    if ← deepen (← column) then emit t

/-- Cut the hyphen of a sequence entry. -/
def cutBlockEntry : Cutter Unit := do
  openBlock .blockSequenceStart
  allowKey true
  forgetKey
  cutSign 1 .blockEntry

/-- Cut the question mark in front of a key. -/
def cutKey : Cutter Unit := do
  openBlock .blockMappingStart
  allowKey (!(← inFlow))
  forgetKey
  cutSign 1 .key

/-- Cut the colon after a key. -/
def cutValue : Cutter Unit := do
  match ← possibleKey? with
  | some key =>
      setKey none
      emitAt key.token .key
      if !(← inFlow) then
        if ← deepen key.column then emitAt key.token .blockMappingStart
      allowKey false
  | none =>
      openBlock .blockMappingStart
      allowKey (!(← inFlow))
      forgetKey
  cutSign 1 .value

/-- Cut a token that may be the start of a key. -/
def cutWord (read : Reader Token) : Cutter Unit := do
  rememberKey
  allowKey false
  emit (← read)

/-- Cut a plain scalar. -/
def cutPlain : Cutter Unit := do
  rememberKey
  allowKey false
  let (text, broken) ← readPlain (← inFlow) ((← get).indent + 1)
  if broken then allowKey true
  emit (.scalar text true)

/-- Cut a block scalar. -/
def cutBlockScalar : Cutter Unit := do
  allowKey true
  forgetKey
  let text ← readBlockScalar (← get).indent
  emit (.scalar text false)

/-- May a plain scalar start with this character? -/
def startsPlain (inFlow : Bool) (ch next : Char) : Bool :=
  !(isGap ch || "-?:,[]\x7b\x7d#&*!|>'\"%@`".toList.contains ch)
    || (!isGap next && (ch == '-' || (!inFlow && (ch == '?' || ch == ':'))))

/-- Cut the next token.  The answer tells whether the text is at its end. -/
def cutToken : Cutter Bool := do
  skipToToken ((← getThe Cursor).rest.length + 1)
  forgetStaleKeys
  unwind (← column)
  let ch ← peek
  let next ← peekAt 1
  let flow ← inFlow
  let atMarker := (← column) == 0 && (← atDocumentMarker)
  if ch == endMark then
    leaveBlocks
    emit .streamEnd
    return true
  if ch == '%' && (← column) == 0 then
    leaveBlocks
    emit (.directive (← readDirective))
  else if atMarker && ch == '-' then
    leaveBlocks
    cutSign 3 .documentStart
  else if atMarker && ch == '.' then
    leaveBlocks
    cutSign 3 .documentEnd
  else if ch == '[' then cutFlowStart .flowSequenceStart
  else if ch == '{' then cutFlowStart .flowMappingStart
  else if ch == ']' then cutFlowEnd .flowSequenceEnd
  else if ch == '}' then cutFlowEnd .flowMappingEnd
  else if ch == ',' then
    allowKey true
    forgetKey
    cutSign 1 .flowEntry
  else if ch == '-' && isGap next then cutBlockEntry
  else if ch == '?' && (flow || isGap next) then cutKey
  else if ch == ':' && (flow || isGap next) then cutValue
  else if ch == '*' then cutWord (return .alias (← readAnchorName))
  else if ch == '&' then cutWord (return .anchor (← readAnchorName))
  else if ch == '!' then cutWord readTag
  else if (ch == '|' || ch == '>') && !flow then cutBlockScalar
  else if ch == '\'' || ch == '"' then cutWord (return .scalar (← readQuoted) false)
  else if startsPlain flow ch next then cutPlain
  else refuse
  return false

end Cutter

/-- The tokens of a text up to its end, or up to a fault. -/
structure TokenStream where
  tokens : List Token
  fault : Option Fault := none

/-- The number of tokens that nothing can be put in front of any more, seen from a place. -/
def Cutting.settled (s : Cutting) (here : Cursor) : Nat :=
  (s.keys.filterMap (Option.filter (!·.isStale here))).foldl (fun n k => min n k.token)
    s.tokens.size

/-- Cut tokens up to the end of the text.  A fault is met by whoever asks for more than the
tokens that were settled before it. -/
def cutAll : Nat → Cutting → Cursor → TokenStream
  | 0, _, _ => { tokens := [], fault := some .malformed }
  | fuel + 1, s, here =>
      match (Cutter.cutToken.run s).run here with
      | .error fault =>
          { tokens := (s.tokens.extract 0 (s.settled here)).toList, fault := some fault }
      | .ok ((true, s), _) => { tokens := s.tokens.toList }
      | .ok ((false, s), here) => cutAll fuel s here

/-- The tokens of a text. -/
def tokens (text : Text) : TokenStream :=
  if !text.all isAllowed then { tokens := [], fault := some .malformed }
  else
    cutAll (text.length + 2) {} (Cursor.ofText (match text with
      | '\uFEFF' :: rest => rest
      | text => text))

end MarkupCatalog.Yaml
