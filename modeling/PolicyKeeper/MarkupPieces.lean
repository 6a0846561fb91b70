import PolicyKeeper.MarkupParts

/-!
# Pieces of content

Content is a sequence of runs of characters and references, tags, protected
sections, comments and instructions.  Pieces are cut from the front of the
text until nothing is left; a text that cannot be cut is not well formed.
-/

namespace PolicyKeeper

namespace Markup

structure WrittenAttribute where
  name : String
  value : List Part

inductive Piece
  | run (parts : List Part)
  /-- A protected section: its characters are no markup. -/
  | section (s : List Char)
  | start (name : String) (attributes : List WrittenAttribute) (closed : Bool)
  | finish (name : String)
  | aside

/-- Reads attributes up to the end of a start tag.  At least one blank stands
before each attribute.  The number bounds the attributes that may follow. -/
def scanAttributes? :
    Nat → List Char → Option (List WrittenAttribute × Bool × List Char)
  | 0, _ => none
  | _, '>' :: rest => some ([], false, rest)
  | _, '/' :: '>' :: rest => some ([], true, rest)
  | bound + 1, s =>
      let rest := skipBlanks s
      match rest with
      | '>' :: rest => some ([], false, rest)
      | '/' :: '>' :: rest => some ([], true, rest)
      | _ => do
          guard (s.head?.any isBlank)
          let (name, rest) ← scanQualifiedName? rest
          let rest ← match skipBlanks rest with
            | '=' :: rest => some (skipBlanks rest)
            | _ => none
          let (mark, rest) ← match rest with
            | mark :: rest => if mark = '"' || mark = '\'' then some (mark, rest) else none
            | [] => none
          let (written, rest) ← splitPast? [mark] rest
          guard (!written.contains '<')
          let value ← parts? written
          let (more, closed, rest) ← scanAttributes? bound rest
          some ({ name, value } :: more, closed, rest)

def scanStartTag? (s : List Char) : Option (Piece × List Char) := do
  let (name, rest) ← scanQualifiedName? s
  let bound := (rest.takeWhile (· ≠ '<')).length + 1
  let (attributes, closed, rest) ← scanAttributes? bound rest
  some (.start name attributes closed, rest)

def scanEndTag? (s : List Char) : Option (Piece × List Char) := do
  let (name, rest) ← scanQualifiedName? s
  match skipBlanks rest with
  | '>' :: rest => some (.finish name, rest)
  | _ => none

def sectionMark : List Char := ['C', 'D', 'A', 'T', 'A', '[']

def scanMarked? : List Char → Option (Piece × List Char)
  | '/' :: rest => scanEndTag? rest
  | '?' :: rest => (skipInstruction? rest).map (.aside, ·)
  | '!' :: '-' :: '-' :: rest => (skipComment? rest).map (.aside, ·)
  | '!' :: '[' :: rest =>
      if sectionMark.isPrefixOf rest then
        (splitPast? [']', ']', '>'] (rest.drop sectionMark.length)).map fun (s, rest) =>
          (.section s, rest)
      else none
  | s => scanStartTag? s

def scanPiece? : List Char → Option (Piece × List Char)
  | '<' :: rest => scanMarked? rest
  | s =>
      let run := s.takeWhile (· ≠ '<')
      if occursIn [']', ']', '>'] run then none
      else (parts? run).map fun parts => (.run parts, s.dropWhile (· ≠ '<'))

def piecesWithin? : Nat → List Char → Option (List Piece)
  | _, [] => some []
  | 0, _ => none
  | bound + 1, s => do
      let (piece, rest) ← scanPiece? s
      let more ← piecesWithin? bound rest
      some (piece :: more)

/-- All pieces of a text; each holds a character at least. -/
def pieces? (s : List Char) : Option (List Piece) := piecesWithin? s.length s

end Markup

end PolicyKeeper
