import Manuscript.Text.Entity
import Manuscript.Text.Quoted

/-!
Percent-encoding of addresses. Letters, digits and the marks of an address stay, with the percent
signs already there; every other character becomes its bytes.
-/

namespace Manuscript.Text

def addressMarks : List Char := ":/?#@!$&()*+,;=%_.-~".toList

/-- Whether a character stays as it is in an address. -/
def staysInAddress (c : Char) : Bool := c.isAlphanum || addressMarks.contains c

def percentByte (b : UInt8) : List Char :=
  '%' :: ((hexPadded 2 b.toNat).toList.map Char.toUpper)

def percentChar (c : Char) : List Char :=
  if staysInAddress c then [c] else c.toString.toUTF8.toList.flatMap percentByte

/-- An address with its character references replaced and all else percent-encoded. -/
def address (cs : List Char) : String := String.ofList ((unescape cs).flatMap percentChar)

end Manuscript.Text
