/-!
# Lines and parts of texts

Files come with three kinds of line breaks.  Where lines matter, all of them
are line feeds.  A text is also cut where a mark stands.
-/

namespace PolicyKeeper

/-- Carriage returns become line feeds, a pair of both becomes one. -/
def normalizeBreaks : List Char → List Char
  | [] => []
  | '\r' :: '\n' :: rest => '\n' :: normalizeBreaks rest
  | '\r' :: rest => '\n' :: normalizeBreaks rest
  | c :: rest => c :: normalizeBreaks rest

/-- The parts of a text between the places where a mark stands. -/
def partsAt (mark : Char) : List Char → List (List Char)
  | [] => [[]]
  | c :: rest =>
      if c = mark then [] :: partsAt mark rest
      else
        match partsAt mark rest with
        | [] => [[c]]
        | first :: more => (c :: first) :: more

end PolicyKeeper
