import Manuscript.Binary64.Basic

/-!
Reading a double from decimal text: an optional sign, digits with an optional point, and an optional
exponent; or one of the words `inf`, `infinity` and `nan`.
-/

namespace Manuscript.Binary64

def digitsValue (cs : List Char) : Nat := cs.foldl (fun n c => 10 * n + (c.toNat - 48)) 0

/-- Splits an optional sign off; `true` for a minus. -/
def signOf : List Char → Bool × List Char
  | '-' :: rest => (true, rest)
  | '+' :: rest => (false, rest)
  | rest => (false, rest)

/-- The exponent after its letter: nothing, or a signed run of digits. -/
def exponentOf : List Char → Option Int
  | [] => some 0
  | c :: rest =>
    if c = 'e' || c = 'E' then
      let (negative, ds) := signOf rest
      if ds.isEmpty || !ds.all Char.isDigit then none
      else some (if negative then -(digitsValue ds : Int) else digitsValue ds)
    else none

/-- Reads the digits, the point and the exponent. -/
def ofUnsigned (negative : Bool) (cs : List Char) : Option Binary64 :=
  let whole := cs.takeWhile Char.isDigit
  let rest := cs.dropWhile Char.isDigit
  let (places, tail) := match rest with
    | '.' :: more => (more.takeWhile Char.isDigit, more.dropWhile Char.isDigit)
    | _ => ([], rest)
  if whole.isEmpty && places.isEmpty then none
  else (exponentOf tail).map fun e =>
    ofDecimal negative (digitsValue (whole ++ places)) (e - places.length)

/-- Reads a double, if the text writes one. -/
def ofText? (s : String) : Option Binary64 :=
  let (negative, rest) := signOf s.toList
  let word := String.ofList (rest.map Char.toLower)
  if word == "inf" || word == "infinity" then some (infinity negative)
  else if word == "nan" then some nan
  else ofUnsigned negative rest

end Manuscript.Binary64
