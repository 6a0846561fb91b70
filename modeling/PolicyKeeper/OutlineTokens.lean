import PolicyKeeper.HexDigits
import PolicyKeeper.Octets

/-!
# Tokens of outlines

Settings are written as an outline: mappings, sequences and scalars, nested by
indentation or by brackets.  The text is cut into tokens from left to right.
Indentation gives tokens of its own where a block starts and ends.  A key is
only known as such when the colon after it is met, so the place where one might
stand is remembered, and a key token is put there afterwards.
-/

namespace PolicyKeeper

namespace Outline

inductive Fault
  | malformed
  /-- An escape asks for a character beyond the last one. -/
  | beyondCharacters
  /-- An escape asks for a number that is too large for any character. -/
  | beyondNumbers
  | nestedTooDeep
  deriving DecidableEq

inductive Token
  | version (major : Nat)
  | tagHandle (handle start : String)
  | otherDirective
  | documentStart
  | documentEnd
  | streamEnd
  | blockSequenceStart
  | blockMappingStart
  | blockEnd
  | flowSequenceStart
  | flowSequenceEnd
  | flowMappingStart
  | flowMappingEnd
  | flowEntry
  | blockEntry
  | key
  | value
  | alias (name : String)
  | anchor (name : String)
  | tag (handle : Option String) (suffix : String)
  | scalar (text : String) (plain : Bool)
  deriving DecidableEq

/-! ## The place in the text -/

/-- What is left of a text, and where that starts. -/
structure Cursor where
  size : Nat
  rest : List Char
  index : Nat
  line : Nat
  column : Nat

/-- Stands for the character after the end; no outline holds it. -/
def endMark : Char := '\x00'

def isBreak (c : Char) : Bool :=
  c == '\n' || c == '\r' || c == '\x85' || c == '\u2028' || c == '\u2029'

def isBreakOrEnd (c : Char) : Bool := c == endMark || isBreak c

def isSpaceOrEnd (c : Char) : Bool := c == ' ' || isBreakOrEnd c

def isBlankOrEnd (c : Char) : Bool := c == '\t' || isSpaceOrEnd c

namespace Cursor

def ofText (text : List Char) : Cursor :=
  { size := text.length, rest := text, index := 0, line := 0, column := 0 }

def peek (cur : Cursor) (ahead : Nat) : Char := cur.rest.getD ahead endMark

def next (cur : Cursor) : Char := cur.rest.headD endMark

def step (cur : Cursor) : Cursor :=
  match cur.rest with
  | [] => cur
  | c :: rest =>
      let newLine := c == '\n' || c == '\x85' || c == '\u2028' || c == '\u2029' ||
        (c == '\r' && rest.head? ≠ some '\n')
      if newLine then
        { cur with rest, index := cur.index + 1, line := cur.line + 1, column := 0 }
      else
        { cur with
          rest, index := cur.index + 1
          column := if c == '\ufeff' then cur.column else cur.column + 1 }

def advance : Nat → Cursor → Cursor
  | 0, cur => cur
  | count + 1, cur => advance count cur.step

def takeWhile (p : Char → Bool) (cur : Cursor) : List Char × Cursor :=
  let run := cur.rest.takeWhile p
  (run, cur.advance run.length)

def skipWhile (p : Char → Bool) (cur : Cursor) : Cursor := (cur.takeWhile p).2

/-- Passes a line break, if there is one; most breaks count as line feeds. -/
def takeBreak (cur : Cursor) : Option Char × Cursor :=
  match cur.rest with
  | '\r' :: '\n' :: _ => (some '\n', cur.advance 2)
  | c :: _ =>
      if c == '\r' || c == '\n' || c == '\x85' then (some '\n', cur.step)
      else if c == '\u2028' || c == '\u2029' then (some c, cur.step)
      else (none, cur)
  | [] => (none, cur)

def skipBreak (cur : Cursor) : Cursor := cur.takeBreak.2

def skipRestOfLine (cur : Cursor) : Except Fault Cursor :=
  let cur := cur.skipWhile (· == ' ')
  let cur := if cur.next == '#' then cur.skipWhile (!isBreakOrEnd ·) else cur
  if isBreakOrEnd cur.next then .ok cur.skipBreak else .error .malformed

def atDocumentMark (cur : Cursor) : Bool :=
  let mark := cur.rest.take 3
  (mark == ['-', '-', '-'] || mark == ['.', '.', '.']) && isBlankOrEnd (cur.peek 3)

end Cursor

/-! ## Names and tags -/

def isWordCharacter (c : Char) : Bool := c.isAlphanum || c == '-' || c == '_'

def isAddressCharacter (c : Char) : Bool :=
  c.isAlphanum || ['-', ';', '/', '?', ':', '@', '&', '=', '+', '$', ',', '_', '.', '!', '~',
    '*', '\'', '(', ')', '[', ']', '%'].contains c

def hexNumber? (digits : List Char) : Option Nat :=
  (digits.mapM hexValue?).map fun values =>
    values.foldl (fun number value => 16 * number + value) 0

def percentRun : List Char → Except Fault (Octets × List Char)
  | '%' :: a :: b :: rest =>
      match hexNumber? [a, b] with
      | none => .error .malformed
      | some octet => do
          let (more, rest) ← percentRun rest
          .ok (UInt8.ofNat octet :: more, rest)
  | '%' :: _ => .error .malformed
  | rest => .ok ([], rest)

/-- The characters of an address with its escapes replaced.  The number bounds
the parts between escapes. -/
def unescapeAddress : Nat → List Char → Except Fault (List Char)
  | 0, _ => .ok []
  | bound + 1, s => do
      let before := s.takeWhile (· ≠ '%')
      match s.drop before.length with
      | [] => .ok before
      | escaped => do
          let (octets, rest) ← percentRun escaped
          match Utf8.decode octets with
          | .error _ => .error .malformed
          | .ok decoded => .ok (before ++ decoded ++ (← unescapeAddress bound rest))

def scanAddress (cur : Cursor) : Except Fault (String × Cursor) := do
  let (run, cur) := cur.takeWhile isAddressCharacter
  if run.isEmpty then .error .malformed
  else .ok (String.ofList (← unescapeAddress (run.length + 1) run), cur)

def scanHandle (cur : Cursor) : Except Fault (String × Cursor) :=
  if cur.next ≠ '!' then .error .malformed
  else if cur.peek 1 == ' ' then .ok ("!", cur.step)
  else
    let (word, after) := cur.step.takeWhile isWordCharacter
    if after.next ≠ '!' then .error .malformed
    else .ok (String.ofList ('!' :: word ++ ['!']), after.step)

def scanDecimal (cur : Cursor) : Except Fault (Nat × Cursor) :=
  let (digits, after) := cur.takeWhile Char.isDigit
  if digits.isEmpty then .error .malformed
  else .ok (digits.foldl (fun number c => 10 * number + (c.toNat - 0x30)) 0, after)

def scanVersion (cur : Cursor) : Except Fault (Token × Cursor) := do
  let (major, cur) ← scanDecimal (cur.skipWhile (· == ' '))
  if cur.next ≠ '.' then .error .malformed
  else
    let (_, cur) ← scanDecimal cur.step
    if isSpaceOrEnd cur.next then .ok (.version major, cur) else .error .malformed

def scanTagHandle (cur : Cursor) : Except Fault (Token × Cursor) := do
  let (handle, cur) ← scanHandle (cur.skipWhile (· == ' '))
  if cur.next ≠ ' ' then .error .malformed
  else
    let (start, cur) ← scanAddress (cur.skipWhile (· == ' '))
    if isSpaceOrEnd cur.next then .ok (.tagHandle handle start, cur) else .error .malformed

def scanDirective (cur : Cursor) : Except Fault (Token × Cursor) := do
  let (name, cur) := cur.step.takeWhile isWordCharacter
  if name.isEmpty || !isSpaceOrEnd cur.next then .error .malformed
  else
    let (token, cur) ←
      if name = "YAML".toList then scanVersion cur
      else if name = "TAG".toList then scanTagHandle cur
      else .ok (.otherDirective, cur.skipWhile (!isBreakOrEnd ·))
    .ok (token, ← cur.skipRestOfLine)

def endsAnchor (c : Char) : Bool :=
  isBlankOrEnd c || ['?', ':', ',', ']', '\x7d', '%', '@', '\x60'].contains c

def scanAnchorName (cur : Cursor) : Except Fault (String × Cursor) :=
  let (name, after) := cur.step.takeWhile isWordCharacter
  if name.isEmpty || !endsAnchor after.next then .error .malformed
  else .ok (String.ofList name, after)

def scanTagParts (cur : Cursor) : Except Fault (Option String × String × Cursor) := do
  let c := cur.peek 1
  if c == '<' then
    let (suffix, cur) ← scanAddress (cur.advance 2)
    if cur.next == '>' then .ok (none, suffix, cur.step) else .error .malformed
  else if isBlankOrEnd c then .ok (none, "!", cur.step)
  else
    let word := cur.step.rest.takeWhile fun c => !isSpaceOrEnd c
    let (handle, cur) ←
      if word.contains '!' then scanHandle cur else .ok ("!", cur.step)
    let (suffix, cur) ← scanAddress cur
    .ok (some handle, suffix, cur)

def scanTag (cur : Cursor) : Except Fault (Token × Cursor) := do
  let (handle, suffix, cur) ← scanTagParts cur
  if isSpaceOrEnd cur.next then .ok (.tag handle suffix, cur) else .error .malformed

/-! ## Block scalars -/

inductive Chomping
  | clip
  | strip
  | keep
  deriving DecidableEq

def chompingOf? (c : Char) : Option Chomping :=
  if c == '+' then some .keep else if c == '-' then some .strip else none

def incrementOf? (c : Char) : Option Nat :=
  if c.isDigit then some (c.toNat - 0x30) else none

def scanBlockHeader (cur : Cursor) : Except Fault (Chomping × Option Nat × Cursor) := do
  let (chomping, increment, cur) :=
    match chompingOf? cur.next with
    | some chomping =>
        match incrementOf? cur.step.next with
        | some increment => (chomping, some increment, cur.advance 2)
        | none => (chomping, none, cur.step)
    | none =>
        match incrementOf? cur.next with
        | some increment =>
            match chompingOf? cur.step.next with
            | some chomping => (chomping, some increment, cur.advance 2)
            | none => (.clip, some increment, cur.step)
        | none => (.clip, none, cur)
  if increment = some 0 || !isSpaceOrEnd cur.next then .error .malformed
  else .ok (chomping, increment, ← cur.skipRestOfLine)

/-- The line breaks before the first line with text, and the deepest column
that spaces reach there.  The number bounds the characters passed. -/
def leadingBreaks (bound : Nat) (deepest : Nat) (cur : Cursor) : List Char × Nat × Cursor :=
  match bound with
  | 0 => ([], deepest, cur)
  | bound + 1 =>
      if cur.next == ' ' then
        let cur := cur.step
        leadingBreaks bound (max deepest cur.column) cur
      else
        match cur.takeBreak with
        | (some c, cur) =>
            let (more, deepest, cur) := leadingBreaks bound deepest cur
            (c :: more, deepest, cur)
        | (none, _) => ([], deepest, cur)

def indentTo (column : Nat) (cur : Cursor) : Cursor :=
  let spaces := (cur.rest.take (column - cur.column)).takeWhile (· == ' ')
  cur.advance spaces.length

def emptyLines (indent : Nat) : Nat → Cursor → List Char × Cursor
  | 0, cur => ([], cur)
  | bound + 1, cur =>
      let cur := indentTo indent cur
      match cur.takeBreak with
      | (some c, cur) =>
          let (more, cur) := emptyLines indent bound cur
          (c :: more, cur)
      | (none, _) => ([], cur)

def isSpaceOrTab (c : Char) : Bool := c == ' ' || c == '\t'

/-- The lines of a block scalar from the cursor on, given the breaks before
them.  The result ends with the last break and the breaks after it. -/
def blockLines (folded : Bool) (indent : Nat) :
    Nat → List Char → Cursor → List Char × Option Char × List Char × Cursor
  | 0, breaks, cur => ([], none, breaks, cur)
  | bound + 1, breaks, cur =>
      if cur.column ≠ indent || cur.next == endMark then ([], none, breaks, cur)
      else
        let starts := !isSpaceOrTab cur.next
        let (line, cur) := cur.takeWhile (!isBreakOrEnd ·)
        let (lineBreak, cur) := cur.takeBreak
        let (after, cur) := emptyLines indent (cur.size + 1) cur
        let here := breaks ++ line
        if cur.column = indent && cur.next ≠ endMark then
          let joined :=
            if folded && lineBreak = some '\n' && starts && !isSpaceOrTab cur.next then
              if after.isEmpty then [' '] else []
            else lineBreak.toList
          let (more, last, tail, cur) := blockLines folded indent bound after cur
          (here ++ joined ++ more, last, tail, cur)
        else (here, lineBreak, after, cur)

def scanBlockScalar (indent : Int) (cur : Cursor) : Except Fault (Token × Cursor) := do
  let folded := cur.next == '>'
  let (chomping, increment, cur) ← scanBlockHeader cur.step
  let least := (max (indent + 1) 1).toNat
  let bound := cur.size + 1
  let (breaks, indent, cur) :=
    match increment with
    | none =>
        let (breaks, deepest, cur) := leadingBreaks bound 0 cur
        (breaks, max least deepest, cur)
    | some increment =>
        let indent := least + increment - 1
        let (breaks, cur) := emptyLines indent bound cur
        (breaks, indent, cur)
  let (body, last, tail, cur) := blockLines folded indent bound breaks cur
  let text := match chomping with
    | .strip => body
    | .clip => body ++ last.toList
    | .keep => body ++ last.toList ++ tail
  .ok (.scalar (String.ofList text) false, cur)

/-! ## Quoted scalars -/

def escapedCharacter? (c : Char) : Option Char :=
  [('0', '\x00'), ('a', '\x07'), ('b', '\x08'), ('t', '\t'), ('\t', '\t'), ('n', '\n'),
    ('v', '\x0b'), ('f', '\x0c'), ('r', '\r'), ('e', '\x1b'), (' ', ' '), ('"', '"'),
    ('\\', '\\'), ('/', '/'), ('N', '\x85'), ('_', '\xa0'), ('L', '\u2028'),
    ('P', '\u2029')].lookup c

def escapeLength? (c : Char) : Option Nat :=
  if c == 'x' then some 2 else if c == 'u' then some 4 else if c == 'U' then some 8 else none

def numberedCharacter (cur : Cursor) (length : Nat) : Except Fault (Char × Cursor) :=
  let digits := cur.rest.take length
  if digits.length < length then .error .malformed
  else
    match hexNumber? digits with
    | none => .error .malformed
    | some number =>
        if 0x80000000 ≤ number then .error .beyondNumbers
        else if 0x110000 ≤ number then .error .beyondCharacters
        else
          let c := if number.isValidChar then Char.ofNat number else '\ufffd'
          .ok (c, cur.advance length)

def quotedBreaks : Nat → Cursor → Except Fault (List Char × Cursor)
  | 0, cur => .ok ([], cur)
  | bound + 1, cur =>
      if cur.atDocumentMark then .error .malformed
      else
        let cur := cur.skipWhile isSpaceOrTab
        match cur.takeBreak with
        | (some c, cur) => do
            let (more, cur) ← quotedBreaks bound cur
            .ok (c :: more, cur)
        | (none, _) => .ok ([], cur)

/-- Blanks inside a quoted scalar: kept within a line, folded around breaks. -/
def quotedBlanks (bound : Nat) (cur : Cursor) : Except Fault (List Char × Cursor) :=
  let (blanks, cur) := cur.takeWhile isSpaceOrTab
  if cur.next == endMark then .error .malformed
  else
    match cur.takeBreak with
    | (none, _) => .ok (blanks, cur)
    | (some c, cur) => do
        let (breaks, cur) ← quotedBreaks bound cur
        let folded :=
          if c ≠ '\n' then [c] else if breaks.isEmpty then [' '] else []
        .ok (folded ++ breaks, cur)

def isQuotedText (c : Char) : Bool :=
  !(c == '\'' || c == '"' || c == '\\' || isBlankOrEnd c)

def quotedContent (mark : Char) : Nat → Cursor → Except Fault (List Char × Cursor)
  | 0, _ => .error .malformed
  | bound + 1, cur => do
      let double := mark == '"'
      let (run, cur) := cur.takeWhile isQuotedText
      let continued := fun (here : List Char) (cur : Cursor) => do
        let (more, cur) ← quotedContent mark bound cur
        .ok (run ++ here ++ more, cur)
      let c := cur.next
      if c == mark then
        if !double && cur.peek 1 == '\'' then continued ['\''] (cur.advance 2)
        else .ok (run, cur.step)
      else if c == '\\' && double then
        let cur := cur.step
        let c := cur.next
        match escapedCharacter? c, escapeLength? c with
        | some replaced, _ => continued [replaced] cur.step
        | none, some length => do
            let (replaced, cur) ← numberedCharacter cur.step length
            continued [replaced] cur
        | none, none =>
            if isBreak c then do
              let (breaks, cur) ← quotedBreaks (cur.size + 1) cur.skipBreak
              continued breaks cur
            else .error .malformed
      else if c == '\'' || c == '"' || c == '\\' then continued [c] cur.step
      else do
        let (blanks, cur) ← quotedBlanks (cur.size + 1) cur
        continued blanks cur

def scanQuoted (cur : Cursor) : Except Fault (Token × Cursor) := do
  let (text, after) ← quotedContent cur.next (cur.size + 1) cur.step
  .ok (.scalar (String.ofList text) false, after)

/-! ## Plain scalars -/

def isFlowMark (c : Char) : Bool := [',', '[', ']', '\x7b', '\x7d'].contains c

def plainRun (inFlow : Bool) : List Char → Nat
  | [] => 0
  | c :: rest =>
      let after := rest.headD endMark
      let stops := isBlankOrEnd c ||
        (c == ':' && (isBlankOrEnd after || (inFlow && isFlowMark after))) ||
        (inFlow && (c == '?' || isFlowMark c))
      if stops then 0 else plainRun inFlow rest + 1

/-- Spaces and breaks after the first break inside a plain scalar; nothing
when a document mark follows. -/
def plainBreaks : Nat → Cursor → Option (List Char) × Cursor
  | 0, cur => (some [], cur)
  | bound + 1, cur =>
      if cur.next == ' ' then plainBreaks bound cur.step
      else
        match cur.takeBreak with
        | (none, _) => (some [], cur)
        | (some c, cur) =>
            if cur.atDocumentMark then (none, cur)
            else
              let (more, cur) := plainBreaks bound cur
              (more.map (c :: ·), cur)

/-- What stands between two runs of a plain scalar.  The flag tells whether a
line break was passed. -/
def plainSpaces (cur : Cursor) : List Char × Bool × Cursor :=
  let (blanks, cur) := cur.takeWhile (· == ' ')
  match cur.takeBreak with
  | (none, _) => (blanks, false, cur)
  | (some c, cur) =>
      if cur.atDocumentMark then ([], true, cur)
      else
        match plainBreaks (cur.size + 1) cur with
        | (none, cur) => ([], true, cur)
        | (some breaks, cur) =>
            let folded :=
              if c ≠ '\n' then [c] else if breaks.isEmpty then [' '] else []
            (folded ++ breaks, true, cur)

/-- A plain scalar from the cursor on, with the spaces before it.  The flag
tells whether it ended after a line break. -/
def plainContent (inFlow : Bool) (indent : Int) :
    Nat → List Char → Bool → Cursor → List Char × Bool × Cursor
  | 0, _, broken, cur => ([], broken, cur)
  | bound + 1, spaces, broken, cur =>
      let length := plainRun inFlow cur.rest
      if cur.next == '#' || length = 0 then ([], broken, cur)
      else
        let run := spaces ++ cur.rest.take length
        let (between, broken, cur) := plainSpaces (cur.advance length)
        if between.isEmpty || cur.next == '#' || (!inFlow && cur.column < indent + 1) then
          (run, broken, cur)
        else
          let (more, broken, cur) := plainContent inFlow indent bound between broken cur
          (run ++ more, broken, cur)

def startsPlain (inFlow : Bool) (cur : Cursor) : Bool :=
  let c := cur.next
  let isMark := ['-', '?', ':', ',', '[', ']', '\x7b', '\x7d', '#', '&', '*', '!', '|', '>', '\'',
    '"', '%', '@', '\x60'].contains c
  (!isBlankOrEnd c && !isMark) ||
    (!isBlankOrEnd (cur.peek 1) && (c == '-' || (!inFlow && (c == '?' || c == ':'))))

end Outline

end PolicyKeeper
