import Manuscript.Text.Printable

/-!
Quoted texts, as messages show them: between single quotes, or between double quotes when the text
holds a single quote and no double one; the quote in use, the backslash and everything that cannot
be printed is escaped.
-/

namespace Manuscript.Text

def hexPadded (width n : Nat) : String :=
  let digits := Nat.toDigits 16 n
  String.ofList (List.replicate (width - digits.length) '0' ++ digits)

/-- The quote for a text: the single one, unless that occurs and the double one does not. -/
def quoteFor (cs : List Char) : Char :=
  if cs.contains '\'' && !cs.contains '"' then '"' else '\''

/-- One character of a quoted text. -/
def quoteChar (quote c : Char) : String :=
  if c = quote || c = '\\' then String.ofList ['\\', c]
  else if c = '\n' then "\\n"
  else if c = '\r' then "\\r"
  else if c = '\t' then "\\t"
  else if isPrintable c then c.toString
  else if c.toNat < 256 then "\\x" ++ hexPadded 2 c.toNat
  else if c.toNat < 65536 then "\\u" ++ hexPadded 4 c.toNat
  else "\\U" ++ hexPadded 8 c.toNat

def quoted (s : String) : String :=
  let quote := quoteFor s.toList
  quote.toString ++ String.join (s.toList.map (quoteChar quote)) ++ quote.toString

/-- A byte string between quotes, after the mark `b`. Only ASCII bytes are shown as characters. -/
def quotedBytes (bytes : List UInt8) : String :=
  let cs := bytes.map fun b => Char.ofNat b.toNat
  let quote := quoteFor cs
  let shown (c : Char) : String :=
    if c.toNat < 128 then quoteChar quote c else "\\x" ++ hexPadded 2 c.toNat
  "b" ++ quote.toString ++ String.join (cs.map shown) ++ quote.toString

end Manuscript.Text
