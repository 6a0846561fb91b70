import PolicyKeeper.DecimalDigits
import PolicyKeeper.HexDigits
import PolicyKeeper.TextParts

/-!
# Addresses of hosts

A host may be told by four decimal numbers between dots, or by eight groups of
hexadecimal digits between colons.  Two colons at one place stand for as many
groups of zeros as are missing, the last two groups may be written as four
numbers, and a zone may follow after a percent sign.
-/

namespace PolicyKeeper

namespace HostAddress

/-- A number below 256 without zeros in front. -/
def isNumber (s : List Char) : Bool :=
  !s.isEmpty && s.length ≤ 3 && s.all Char.isDigit && (s = ['0'] || s.head? ≠ some '0') &&
    numberOfDigits (s.filterMap digitValue?) < 256

def isFourPart (s : List Char) : Bool :=
  let parts := partsAt '.' s
  parts.length = 4 && parts.all isNumber

def isGroup (s : List Char) : Bool :=
  !s.isEmpty && s.length ≤ 4 && s.all fun c => (hexValue? c).isSome

/-- The groups with the last one as two, if it is written as four numbers. -/
def expandedGroups? (parts : List (List Char)) : Option (List (List Char)) :=
  match parts.getLast? with
  | none => none
  | some last =>
      if !last.contains '.' then some parts
      else if isFourPart last then some (parts.dropLast ++ [['0'], ['0']])
      else none

/-- How many groups stand on one side of two colons; none where the address
starts or ends there. -/
def groupsBeside? (parts : List (List Char)) : Option Nat :=
  if parts = [[]] then some 0
  else if parts.all isGroup then some parts.length
  else none

def areGroups : List (List Char) → Bool
  | [] => false
  | first :: rest =>
      match rest.dropLast.findIdx? (·.isEmpty) with
      | none => rest.length = 7 && (first :: rest).all isGroup
      | some place =>
          match groupsBeside? (first :: rest.take place), groupsBeside? (rest.drop (place + 1)) with
          | some before, some after => before + after ≤ 7
          | _, _ => false

def isZone : List (List Char) → Bool
  | [] => true
  | [zone] => !zone.isEmpty
  | _ => false

def isEightPart (s : List Char) : Bool :=
  match partsAt '%' s with
  | address :: zone => isZone zone && ((expandedGroups? (partsAt ':' address)).any areGroups)
  | [] => false

end HostAddress

end PolicyKeeper
