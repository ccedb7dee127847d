/-!
Reading base 64. Characters outside the alphabet are passed over; padding that completes a group of
four ends the data; a group that is left incomplete is an error.
-/

namespace Manuscript.Text

/-- The six bits that a character of the alphabet stands for. -/
def base64Digit? (c : Char) : Option Nat :=
  if 'A' ≤ c && c ≤ 'Z' then some (c.toNat - 65)
  else if 'a' ≤ c && c ≤ 'z' then some (c.toNat - 71)
  else if c.isDigit then some (c.toNat + 4)
  else if c = '+' then some 62
  else if c = '/' then some 63
  else none

/-- Reads on, `place` characters into a group whose unread bits are `bits`, after `pads` padding
characters in a row. -/
def base64From (place bits pads : Nat) : List Char → Option (List UInt8)
  | [] => if place = 0 then some [] else none
  | c :: rest =>
    if c = '=' then
      if place ≥ 2 && place + pads + 1 ≥ 4 then some []
      else base64From place bits (if place ≥ 2 then pads + 1 else pads) rest
    else match base64Digit? c with
      | none => base64From place bits pads rest
      | some d =>
        if place = 0 then base64From 1 d 0 rest
        else if place = 1 then
          (base64From 2 (d % 16) 0 rest).map (UInt8.ofNat (bits * 4 + d / 16) :: ·)
        else if place = 2 then
          (base64From 3 (d % 4) 0 rest).map (UInt8.ofNat (bits * 16 + d / 4) :: ·)
        else (base64From 0 0 0 rest).map (UInt8.ofNat (bits * 64 + d) :: ·)

def decodeBase64? (s : String) : Option (List UInt8) := base64From 0 0 0 s.toList

end Manuscript.Text
