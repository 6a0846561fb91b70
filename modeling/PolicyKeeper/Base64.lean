/-!
# Base 64

Characters outside the alphabet are skipped.  Padding ends the text once a
group is complete; a group that stays incomplete is refused.
-/

namespace PolicyKeeper

namespace Base64

def value? (c : Char) : Option Nat :=
  let n := c.toNat
  if 0x41 ≤ n && n ≤ 0x5A then some (n - 0x41)
  else if 0x61 ≤ n && n ≤ 0x7A then some (n - 0x61 + 26)
  else if 0x30 ≤ n && n ≤ 0x39 then some (n - 0x30 + 52)
  else if n == 0x2B then some 62
  else if n == 0x2F then some 63
  else none

/-- Reads on with `held` values of the present group already seen, `pads` marks
of padding since then, and the bits left over from the last value. -/
def decodeFrom (held pads left : Nat) : List Char → Option (List UInt8)
  | [] => if held = 0 then some [] else none
  | c :: rest =>
      if c = '=' then
        if 2 ≤ held && 4 ≤ held + (pads + 1) then some []
        else decodeFrom held (pads + 1) left rest
      else
        match value? c with
        | none => decodeFrom held pads left rest
        | some value =>
            let octet := fun high low => UInt8.ofNat (left * high + value / low)
            match held with
            | 0 => decodeFrom 1 0 value rest
            | 1 => (decodeFrom 2 0 (value % 16) rest).map (octet 4 16 :: ·)
            | 2 => (decodeFrom 3 0 (value % 4) rest).map (octet 16 4 :: ·)
            | _ => (decodeFrom 0 0 0 rest).map (octet 64 1 :: ·)

def decode (s : List Char) : Option (List UInt8) := decodeFrom 0 0 0 s

end Base64

end PolicyKeeper
