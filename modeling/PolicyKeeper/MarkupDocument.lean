import PolicyKeeper.Encoding
import PolicyKeeper.Markup

/-!
# Markup documents

A document is a text, or octets in an encoding.  Octets show by their first
two or three whether they come in pairs; the version declaration may then name
the encoding.  One of the few encodings that every reader knows must fit what
the octets show.  Any other must take one octet for each character and agree
with ASCII on the marks, and holds for all that comes after the declaration.
-/

namespace PolicyKeeper

inductive MarkupFault
  | malformed
  | unknownEncoding (name : String)
  /-- The name is that of a transformation which gives no text. -/
  | notTextEncoding (name : String)
  | failingEncoding (name : String) (codec : FailingCodec)
  | severalOctets
  deriving DecidableEq

namespace Markup

/-- How octets are grouped before the version declaration is read. -/
inductive Grouping
  | single
  | pairs (order : OctetOrder)
  deriving DecidableEq

def grouping : Octets → Grouping × Octets
  | 0xFE :: 0xFF :: rest => (.pairs .mostFirst, rest)
  | 0xFF :: 0xFE :: rest => (.pairs .leastFirst, rest)
  | 0xEF :: 0xBB :: 0xBF :: rest => (.single, rest)
  | 0x00 :: rest => (.pairs .mostFirst, 0x00 :: rest)
  | a :: 0x00 :: rest => (.pairs .leastFirst, a :: 0x00 :: rest)
  | octets => (.single, octets)

/-- Characters of units of two octets.  The unit after a lead is taken by its
low ten bits, whatever it is. -/
def joinUnits? : List Nat → Option (List Char)
  | [] => some []
  | [unit] =>
      if Utf16.isLead unit || Utf16.isTrail unit then none else some [Char.ofNat unit]
  | unit :: next :: rest =>
      if Utf16.isTrail unit then none
      else if Utf16.isLead unit then (joinUnits? rest).map (Utf16.joined unit next :: ·)
      else (joinUnits? (next :: rest)).map (Char.ofNat unit :: ·)

def pairedCharacters? (order : OctetOrder) (octets : Octets) : Option (List Char) :=
  match Utf16.units order octets with
  | (units, none) => joinUnits? units
  | (_, some _) => none

def isIndifferent (c : Char) : Bool :=
  (c.toNat < 0x20 && c ≠ '\t' && c ≠ '\n' && c ≠ '\r') ||
    ['$', '@', '\\', '^', '\x60', '\x7b', '\x7d', '~', '\x7f'].contains c

/-- Whether a code page has every mark at its own place and nowhere else. -/
def agreesOnMarks (page : Array Char) : Bool :=
  (List.range 256).all fun place =>
    let own := Char.ofNat place
    match Encoding.onPage? page (UInt8.ofNat place) with
    | none => 0x80 ≤ place || isIndifferent own
    | some c =>
        c = own ||
          ((0x80 ≤ place || isIndifferent own) && (0x80 ≤ c.toNat || isIndifferent c))

def ofOption : Option α → Except MarkupFault α
  | some value => .ok value
  | none => .error .malformed

def namedCharacters (name : String) (octets : Octets) : Except MarkupFault (List Char) :=
  match Encoding.ofName? name with
  | none => .error (.unknownEncoding name)
  | some .notText => .error (.notTextEncoding name)
  | some (.failing codec) => .error (.failingEncoding name codec)
  | some (.utf16 _) => .error .severalOctets
  | some (.utf32 _) => .error .severalOctets
  | some (.several _) => .error .severalOctets
  | some (.codePage characters) =>
      let page := characters.toList.toArray
      if agreesOnMarks page then ofOption (octets.mapM (Encoding.onPage? page))
      else .error .malformed
  | some .escaped => .ok (Encoding.latin octets)
  | some (.shifting _ announcing) =>
      ofOption (octets.mapM fun octet =>
        if octet = announcing then none else Encoding.asciiOnly? octet)
  | some _ => ofOption (octets.mapM Encoding.asciiOnly?)

def singleCharacters (encoding : Option String) (octets : Octets) :
    Except MarkupFault (List Char) :=
  let utf8 := ofOption (Utf8.decode octets).toOption
  match encoding with
  | none => utf8
  | some name =>
      match String.ofList (name.toList.map Char.toUpper) with
      | "UTF-8" => utf8
      | "ISO-8859-1" => .ok (Encoding.latin octets)
      | "US-ASCII" => ofOption (octets.mapM Encoding.asciiOnly?)
      | "UTF-16" => .error .malformed
      | "UTF-16BE" => .error .malformed
      | "UTF-16LE" => .error .malformed
      | _ => namedCharacters name octets

/-- The characters up to the first one beyond ASCII; a version declaration has
no others. -/
def leadingCharacters (order : OctetOrder) (octets : Octets) : List Char :=
  ((Utf16.units order octets).1.takeWhile (· < 0x80)).map Char.ofNat

/-- A declaration in pairs of octets, up to its end. -/
def declarationCharacters (leading : List Char) : List Char :=
  match splitPast? "?>".toList leading with
  | some (declaration, _) => declaration ++ "?>".toList
  | none => leading

def pairedDocument (order : OctetOrder) (octets : Octets) : Except MarkupFault (List Char) := do
  let leading := leadingCharacters order octets
  let (version, _) ← ofOption (scanVersionDeclaration? (normalizeBreaks leading))
  let characters := ofOption (pairedCharacters? order octets)
  match version.bind (·.encoding) with
  | none => characters
  | some name =>
      let upper := String.ofList (name.toList.map Char.toUpper)
      if upper = "UTF-16" then characters
      else if upper = "UTF-16BE" then
        if order = .mostFirst then characters else .error .malformed
      else if upper = "UTF-16LE" then
        if order = .leastFirst then characters else .error .malformed
      else if ["UTF-8", "ISO-8859-1", "US-ASCII"].contains upper then .error .malformed
      else do
        -- after the declaration octets no longer come in pairs
        let declaration := declarationCharacters leading
        let rest ← namedCharacters name (octets.drop (2 * declaration.length))
        .ok (declaration ++ rest)

def documentCharacters (octets : Octets) : Except MarkupFault (List Char) :=
  match grouping octets with
  | (.pairs order, rest) => pairedDocument order rest
  | (.single, rest) => do
      let (version, _) ← ofOption (scanVersionDeclaration? (normalizeBreaks (Encoding.latin rest)))
      singleCharacters (version.bind (·.encoding)) rest

def readOctets (octets : Octets) : Except MarkupFault Element := do
  ofOption (read? (← documentCharacters octets))

def dropByteMark : List Char → List Char
  | '\ufeff' :: rest => rest
  | s => s

/-- The root element of a text; the encoding that it names is not obeyed. -/
def readText (text : String) : Except MarkupFault Element :=
  ofOption (read? (dropByteMark text.toList))

end Markup

end PolicyKeeper
