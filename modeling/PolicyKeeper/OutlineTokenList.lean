import PolicyKeeper.OutlineTokens

/-!
# The tokens of an outline

Tokens are appended one after the other.  Beside them the state keeps the
indentation of the blocks that are open, the depth of brackets, and for each
depth the last place where a key may stand.  Such a place is given up when its
line is over or 1024 characters are passed; at the indentation of a block it
must become a key.  As long as a token may become a key, it is not given away:
more tokens are looked for first, and a fault among them comes before it.
-/

namespace PolicyKeeper

namespace Outline

/-- A place where a key may stand: before which token, and where in the text. -/
structure KeyPlace where
  token : Nat
  required : Bool
  index : Nat
  line : Nat
  column : Nat

structure TokenState where
  cursor : Cursor
  tokens : Array Token
  depth : Nat
  /-- The column of the innermost block, or -1 outside all blocks. -/
  indent : Int
  outerIndents : List Int
  keyAllowed : Bool
  /-- For each depth of brackets, where a key may stand. -/
  keyPlaces : List (Nat × KeyPlace)
  finished : Bool

namespace TokenState

def initial (text : List Char) : TokenState :=
  { cursor := .ofText text, tokens := #[], depth := 0, indent := -1, outerIndents := [],
    keyAllowed := true, keyPlaces := [], finished := false }

def inFlow (s : TokenState) : Bool := 0 < s.depth

def push (s : TokenState) (token : Token) : TokenState :=
  { s with tokens := s.tokens.push token }

def insert (s : TokenState) (place : Nat) (token : Token) : TokenState :=
  { s with tokens := s.tokens.insertIdxIfInBounds place token }

/-! ## Places of keys -/

def isStale (s : TokenState) (place : KeyPlace) : Bool :=
  place.line ≠ s.cursor.line || 1024 < s.cursor.index - place.index

def dropStale (s : TokenState) : Except Fault TokenState :=
  if s.keyPlaces.any fun (_, place) => s.isStale place && place.required then
    .error .malformed
  else .ok { s with keyPlaces := s.keyPlaces.filter fun (_, place) => !s.isStale place }

def dropPlace (s : TokenState) : Except Fault TokenState :=
  match s.keyPlaces.lookup s.depth with
  | none => .ok s
  | some place =>
      if place.required then .error .malformed
      else .ok { s with keyPlaces := s.keyPlaces.filter fun (depth, _) => depth ≠ s.depth }

def savePlace (s : TokenState) : Except Fault TokenState := do
  if !s.keyAllowed then return s
  let required := !s.inFlow && s.indent = s.cursor.column
  let s ← s.dropPlace
  let place : KeyPlace :=
    { token := s.tokens.size, required, index := s.cursor.index, line := s.cursor.line,
      column := s.cursor.column }
  return { s with keyPlaces := (s.depth, place) :: s.keyPlaces }

/-! ## Indentation -/

def unwindTo (column : Int) : List Int → TokenState → TokenState
  | [], s => s
  | outer :: rest, s =>
      if s.indent ≤ column then s
      else
        unwindTo column rest
          { s.push .blockEnd with indent := outer, outerIndents := rest }

def unwind (s : TokenState) (column : Int) : TokenState :=
  if s.inFlow then s else unwindTo column s.outerIndents s

def indentAt (s : TokenState) (column : Nat) : Option TokenState :=
  if s.indent < column then
    some { s with indent := column, outerIndents := s.indent :: s.outerIndents }
  else none

/-! ## Tokens -/

def endStream (s : TokenState) : Except Fault TokenState := do
  let s ← (s.unwind (-1)).dropPlace
  return { s.push .streamEnd with keyAllowed := false, keyPlaces := [], finished := true }

def addDirective (s : TokenState) : Except Fault TokenState := do
  let s ← (s.unwind (-1)).dropPlace
  let (token, cursor) ← scanDirective s.cursor
  return { s.push token with cursor, keyAllowed := false }

def addDocumentMark (s : TokenState) (token : Token) : Except Fault TokenState := do
  let s ← (s.unwind (-1)).dropPlace
  return { s.push token with cursor := s.cursor.advance 3, keyAllowed := false }

def openFlow (s : TokenState) (token : Token) : Except Fault TokenState := do
  let s ← s.savePlace
  return { s.push token with cursor := s.cursor.step, depth := s.depth + 1, keyAllowed := true }

def closeFlow (s : TokenState) (token : Token) : Except Fault TokenState := do
  let s ← s.dropPlace
  return { s.push token with cursor := s.cursor.step, depth := s.depth - 1, keyAllowed := false }

def addFlowEntry (s : TokenState) : Except Fault TokenState := do
  let s ← s.dropPlace
  return { s.push .flowEntry with cursor := s.cursor.step, keyAllowed := true }

def startBlock (s : TokenState) (token : Token) : Except Fault TokenState :=
  if s.inFlow then .ok s
  else if !s.keyAllowed then .error .malformed
  else
    match s.indentAt s.cursor.column with
    | some s => .ok (s.push token)
    | none => .ok s

def addBlockEntry (s : TokenState) : Except Fault TokenState := do
  let s ← s.startBlock .blockSequenceStart
  let s ← s.dropPlace
  return { s.push .blockEntry with cursor := s.cursor.step, keyAllowed := true }

def addKey (s : TokenState) : Except Fault TokenState := do
  let s ← s.startBlock .blockMappingStart
  let s ← s.dropPlace
  return { s.push .key with cursor := s.cursor.step, keyAllowed := !s.inFlow }

def addValue (s : TokenState) : Except Fault TokenState := do
  match s.keyPlaces.lookup s.depth with
  | some place =>
      let s := { s with
        keyPlaces := s.keyPlaces.filter fun (depth, _) => depth ≠ s.depth
        keyAllowed := false }
      let s := s.insert place.token .key
      let s :=
        if s.inFlow then s
        else
          match s.indentAt place.column with
          | some s => s.insert place.token .blockMappingStart
          | none => s
      return { s.push .value with cursor := s.cursor.step }
  | none =>
      let s ← s.startBlock .blockMappingStart
      let s ← s.dropPlace
      return { s.push .value with cursor := s.cursor.step, keyAllowed := !s.inFlow }

def addName (s : TokenState) (token : String → Token) : Except Fault TokenState := do
  let s ← s.savePlace
  let (name, cursor) ← scanAnchorName s.cursor
  return { s.push (token name) with cursor, keyAllowed := false }

def addTag (s : TokenState) : Except Fault TokenState := do
  let s ← s.savePlace
  let (token, cursor) ← scanTag s.cursor
  return { s.push token with cursor, keyAllowed := false }

def addBlockScalar (s : TokenState) : Except Fault TokenState := do
  let s ← s.dropPlace
  let (token, cursor) ← scanBlockScalar s.indent s.cursor
  return { s.push token with cursor, keyAllowed := true }

def addQuoted (s : TokenState) : Except Fault TokenState := do
  let s ← s.savePlace
  let (token, cursor) ← scanQuoted s.cursor
  return { s.push token with cursor, keyAllowed := false }

def addPlain (s : TokenState) : Except Fault TokenState := do
  let s ← s.savePlace
  let (text, broken, cursor) :=
    plainContent s.inFlow s.indent (s.cursor.size + 1) [] false s.cursor
  return { s.push (.scalar (String.ofList text) true) with cursor, keyAllowed := broken }

/-- Passes spaces, comments and line breaks.  After a break outside brackets a
key may stand.  The number bounds the breaks. -/
def skipToToken : Nat → TokenState → TokenState
  | 0, s => s
  | bound + 1, s =>
      let cursor := s.cursor.skipWhile (· == ' ')
      let cursor :=
        if cursor.next == '#' then cursor.skipWhile (!isBreakOrEnd ·) else cursor
      match cursor.takeBreak with
      | (none, _) => { s with cursor }
      | (some _, cursor) =>
          skipToToken bound { s with cursor, keyAllowed := s.keyAllowed || !s.inFlow }

def skipByteMark (s : TokenState) : TokenState :=
  if s.cursor.index = 0 && s.cursor.next == '\ufeff' then { s with cursor := s.cursor.step }
  else s

def addToken (s : TokenState) : Except Fault TokenState := do
  let s := s.skipByteMark
  let s := s.skipToToken (s.cursor.size + 1)
  let s ← s.dropStale
  let s := s.unwind s.cursor.column
  let cur := s.cursor
  let c := cur.next
  let isolated := isBlankOrEnd (cur.peek 1)
  if c == endMark then s.endStream
  else if c == '%' && cur.column = 0 then s.addDirective
  else if cur.column = 0 && cur.atDocumentMark then
    s.addDocumentMark (if c == '-' then .documentStart else .documentEnd)
  else if c == '[' then s.openFlow .flowSequenceStart
  else if c == '\x7b' then s.openFlow .flowMappingStart
  else if c == ']' then s.closeFlow .flowSequenceEnd
  else if c == '\x7d' then s.closeFlow .flowMappingEnd
  else if c == ',' then s.addFlowEntry
  else if c == '-' && isolated then s.addBlockEntry
  else if c == '?' && (s.inFlow || isolated) then s.addKey
  else if c == ':' && (s.inFlow || isolated) then s.addValue
  else if c == '*' then s.addName .alias
  else if c == '&' then s.addName .anchor
  else if c == '!' then s.addTag
  else if (c == '|' || c == '>') && !s.inFlow then s.addBlockScalar
  else if c == '\'' || c == '"' then s.addQuoted
  else if startsPlain s.inFlow cur then s.addPlain
  else .error .malformed

/-- How many tokens can be given away: those before the first that may become a
key. -/
def settledTokens (s : TokenState) : Nat :=
  s.keyPlaces.foldl (fun least (_, place) => min least place.token) s.tokens.size

def addTokens : Nat → TokenState → List Token × Option Fault
  | 0, s => (s.tokens.toList, some .malformed)
  | bound + 1, s =>
      match s.dropStale with
      | .error fault => (s.tokens.toList.take s.settledTokens, some fault)
      | .ok s =>
          match s.addToken with
          | .error fault => (s.tokens.toList.take s.settledTokens, some fault)
          | .ok s => if s.finished then (s.tokens.toList, none) else addTokens bound s

end TokenState

def isOutlineCharacter (c : Char) : Bool :=
  let n := c.toNat
  n == 0x09 || n == 0x0A || n == 0x0D || (0x20 ≤ n && n ≤ 0x7E) || n == 0x85 ||
    (0xA0 ≤ n && n ≤ 0xFFFD) || 0x10000 ≤ n

def tokensOf (text : List Char) : List Token × Option Fault :=
  if !text.all isOutlineCharacter then ([], some .malformed)
  else TokenState.addTokens (text.length + 2) (.initial text)

end Outline

end PolicyKeeper
