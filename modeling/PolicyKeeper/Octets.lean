/-!
# Characters from octets

The Unicode encodings of one, two and four octets.  Reading stops at the first
sequence that encodes no character; the fault names the octets concerned and
what is wrong with them.
-/

namespace PolicyKeeper

abbrev Octets := List UInt8

inductive DecodingFault
  /-- From octet `first` on, `count` octets (the first of them is `octet`) are
  not the code of a character. -/
  | malformed (encoding : String) (octet : UInt8) (first count : Nat) (reason : String)
  | unmarked (encoding : String)
  /-- The encoding is one that reads nothing. -/
  | undefined
  deriving DecidableEq

namespace DecodingFault

def twoHexDigits (octet : UInt8) : String :=
  let digits := Nat.toDigits 16 octet.toNat
  String.ofList (if digits.length < 2 then '0' :: digits else digits)

def message : DecodingFault → String
  | .malformed encoding octet first count reason =>
      let place :=
        if count = 1 then s!"byte 0x{twoHexDigits octet} in position {first}"
        else s!"bytes in position {first}-{first + count - 1}"
      s!"'{encoding}' codec can't decode {place}: {reason}"
  | .unmarked encoding => s!"{encoding} stream does not start with BOM"
  | .undefined => "undefined encoding"

end DecodingFault

def octetAt (octets : Octets) (place : Nat) : UInt8 := octets.getD place 0

namespace Utf8

/-- A sequence in progress: its first octet and place, how many octets of it
are read and how many are missing, the range of the next one, and its value so
far. -/
structure Pending where
  lead : UInt8
  start : Nat
  read : Nat
  missing : Nat
  least : Nat
  greatest : Nat
  value : Nat

/-- What the first octet of a longer sequence announces.  The second octet has
a narrower range where a shorter code, a surrogate or a number beyond U+10FFFF
would be possible. -/
def announced? (octet : UInt8) (start : Nat) : Option Pending :=
  let n := octet.toNat
  let pending := fun missing least greatest value =>
    some { lead := octet, start, read := 1, missing, least, greatest, value }
  if n < 0xC2 then none
  else if n < 0xE0 then pending 1 0x80 0xBF (n - 0xC0)
  else if n = 0xE0 then pending 2 0xA0 0xBF 0
  else if n = 0xED then pending 2 0x80 0x9F 0x0D
  else if n < 0xF0 then pending 2 0x80 0xBF (n - 0xE0)
  else if n = 0xF0 then pending 3 0x90 0xBF 0
  else if n < 0xF4 then pending 3 0x80 0xBF (n - 0xF0)
  else if n = 0xF4 then pending 3 0x80 0x8F 4
  else none

def Pending.fault (p : Pending) (reason : String) : DecodingFault :=
  .malformed "utf-8" p.lead p.start p.read reason

def decodeFrom (place : Nat) (pending : Option Pending) (done : List Char) :
    Octets → Except DecodingFault (List Char)
  | [] =>
      match pending with
      | none => .ok done.reverse
      | some p => .error (p.fault "unexpected end of data")
  | octet :: rest =>
      match pending with
      | none =>
          if octet.toNat < 0x80 then
            decodeFrom (place + 1) none (Char.ofNat octet.toNat :: done) rest
          else
            match announced? octet place with
            | some p => decodeFrom (place + 1) (some p) done rest
            | none => .error (.malformed "utf-8" octet place 1 "invalid start byte")
      | some p =>
          let n := octet.toNat
          if p.least ≤ n && n ≤ p.greatest then
            let value := 64 * p.value + (n - 0x80)
            if p.missing ≤ 1 then
              decodeFrom (place + 1) none (Char.ofNat value :: done) rest
            else
              decodeFrom (place + 1)
                (some { p with
                  read := p.read + 1, missing := p.missing - 1
                  least := 0x80, greatest := 0xBF, value }) done rest
          else .error (p.fault "invalid continuation byte")

def decode (octets : Octets) : Except DecodingFault (List Char) :=
  decodeFrom 0 none [] octets

def encodeChar (c : Char) : Octets :=
  let n := c.toNat
  let tail := fun shift => UInt8.ofNat (0x80 + n / shift % 64)
  if n < 0x80 then [UInt8.ofNat n]
  else if n < 0x800 then [UInt8.ofNat (0xC0 + n / 64), tail 1]
  else if n < 0x10000 then [UInt8.ofNat (0xE0 + n / 4096), tail 64, tail 1]
  else [UInt8.ofNat (0xF0 + n / 262144), tail 4096, tail 64, tail 1]

def encode (s : List Char) : Octets := s.flatMap encodeChar

/-- The text of octets in which faulty sequences are replaced: each longest
part of a code, or single octet that starts none, by U+FFFD. -/
def decodeLeniently (pending : Option Pending) (done : List Char) : Octets → List Char
  | [] =>
      match pending with
      | none => done.reverse
      | some _ => ('\ufffd' :: done).reverse
  | octet :: rest =>
      let n := octet.toNat
      let afresh := fun done =>
        if n < 0x80 then (none, Char.ofNat n :: done)
        else
          match announced? octet 0 with
          | some p => (some p, done)
          | none => (none, '\ufffd' :: done)
      let (pending, done) :=
        match pending with
        | none => afresh done
        | some p =>
            if p.least ≤ n && n ≤ p.greatest then
              let value := 64 * p.value + (n - 0x80)
              if p.missing ≤ 1 then (none, Char.ofNat value :: done)
              else
                (some { p with
                  missing := p.missing - 1, least := 0x80, greatest := 0xBF, value }, done)
            else afresh ('\ufffd' :: done)
      decodeLeniently pending done rest

end Utf8

inductive OctetOrder
  | leastFirst
  | mostFirst
  deriving DecidableEq

namespace OctetOrder

def number (order : OctetOrder) (unit : Octets) : Nat :=
  let inOrder := if order = .mostFirst then unit else unit.reverse
  inOrder.foldl (fun number octet => 256 * number + octet.toNat) 0

def mark (order : OctetOrder) : String := if order = .mostFirst then "be" else "le"

end OctetOrder

namespace Utf16

def isLead (unit : Nat) : Bool := 0xD800 ≤ unit && unit < 0xDC00

def isTrail (unit : Nat) : Bool := 0xDC00 ≤ unit && unit < 0xE000

def joined (lead trail : Nat) : Char :=
  Char.ofNat (0x10000 + (lead - 0xD800) * 0x400 + trail % 0x400)

def units (order : OctetOrder) : Octets → List Nat × Option UInt8
  | [] => ([], none)
  | [octet] => ([], some octet)
  | a :: b :: rest =>
      let (more, left) := units order rest
      (order.number [a, b] :: more, left)

def decodeUnits (order : OctetOrder) (left : Option UInt8) (octets : Octets) (place : Nat) :
    List Nat → Except DecodingFault (List Char)
  | [] =>
      match left with
      | none => .ok []
      | some octet => .error (fault octet place 1 "truncated data")
  | unit :: rest =>
      if isTrail unit then
        .error (fault (octetAt octets place) place 2 "illegal encoding")
      else if isLead unit then
        match rest with
        | [] =>
            .error (fault (octetAt octets place) place (if left.isSome then 3 else 2)
              "unexpected end of data")
        | trail :: more =>
            if isTrail trail then
              (decodeUnits order left octets (place + 4) more).map (joined unit trail :: ·)
            else .error (fault (octetAt octets place) place 2 "illegal UTF-16 surrogate")
      else (decodeUnits order left octets (place + 2) rest).map (Char.ofNat unit :: ·)
where
  fault (octet : UInt8) (first count : Nat) (reason : String) : DecodingFault :=
    .malformed s!"utf-16-{order.mark}" octet first count reason

def decodeAs (order : OctetOrder) (octets : Octets) (skipped : Nat) :
    Except DecodingFault (List Char) :=
  let (us, left) := units order (octets.drop skipped)
  decodeUnits order left octets skipped us

def decodeMarked (octets : Octets) : Except DecodingFault (List Char) :=
  match octets.take 2 with
  | [0xFF, 0xFE] => decodeAs .leastFirst octets 2
  | [0xFE, 0xFF] => decodeAs .mostFirst octets 2
  | start => do
      let s ← decodeAs .leastFirst octets 0
      if start.length < 2 then .ok s else .error (.unmarked "UTF-16")

end Utf16

namespace Utf32

def decodeFrom (order : OctetOrder) (place : Nat) : Octets → Except DecodingFault (List Char)
  | [] => .ok []
  | a :: b :: c :: d :: rest =>
      let number := order.number [a, b, c, d]
      let fault := fun reason =>
        .error (.malformed s!"utf-32-{order.mark}" a place 4 reason)
      if 0xD800 ≤ number && number < 0xE000 then
        fault "code point in surrogate code point range(0xd800, 0xe000)"
      else if 0x110000 ≤ number then fault "code point not in range(0x110000)"
      else (decodeFrom order (place + 4) rest).map (Char.ofNat number :: ·)
  | a :: rest =>
      .error (.malformed s!"utf-32-{order.mark}" a place (rest.length + 1) "truncated data")

def decodeMarked (octets : Octets) : Except DecodingFault (List Char) :=
  match octets.take 4 with
  | [0xFF, 0xFE, 0, 0] => decodeFrom .leastFirst 4 (octets.drop 4)
  | [0, 0, 0xFE, 0xFF] => decodeFrom .mostFirst 4 (octets.drop 4)
  | start => do
      let s ← decodeFrom .leastFirst 0 octets
      if start.length < 4 then .ok s else .error (.unmarked "UTF-32")

end Utf32

end PolicyKeeper
