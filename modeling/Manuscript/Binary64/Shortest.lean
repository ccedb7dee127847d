import Manuscript.Binary64.Basic

/-!
The shortest decimal text of a double: the fewest digits that read back as the same number, of those
the nearest. Numbers from `0.0001` up to below `10 ^ 16` are written positionally with at least one
decimal place, others with an exponent of at least two digits.
-/

namespace Manuscript.Binary64

def digitCount (n : Nat) : Nat := (Nat.toDigits 10 n).length

def magnitude (num den : Nat) : Int :=
  if num ≥ den then digitCount (num / den) - 1
  else -(digitCount ((den + num - 1) / num - 1) : Int)

/-- `num / den · 10 ^ (-shift)` as a fraction again. -/
def scaleTen (num den : Nat) (shift : Int) : Nat × Nat :=
  if shift ≥ 0 then (num, den * powerOfTen shift.toNat) else (num * powerOfTen (-shift).toNat, den)

/-- The reals that round to a finite positive double, in quarters of its unit: the ends, and whether
they belong to the interval. -/
def interval (mantissa : Nat) (exponent : Int) : Nat × Nat × Bool :=
  let low :=
    if mantissa = powerOfTwo 52 && exponent > -1074 then 4 * mantissa - 1 else 4 * mantissa - 2
  (low, 4 * mantissa + 2, mantissa % 2 == 0)

/-- The best decimal on the grid of `count` digits, if one lies in the interval: digits and exponent
of ten. -/
def onGrid (mantissa : Nat) (exponent : Int) (count : Nat) : Option (Nat × Int) :=
  let value := scaleDown (4 * mantissa) 1 (2 - exponent)
  let place := magnitude value.1 value.2 + 1 - count
  let (num, den) := scaleTen value.1 value.2 place
  let below := num / den
  let (low, high, closed) := interval mantissa exponent
  -- a candidate `d` stands for `d · den / num` times the value, so it is compared in quarters
  let inside (d : Nat) : Bool :=
    let lhs := d * den * (4 * mantissa)
    if closed then low * num ≤ lhs && lhs ≤ high * num else low * num < lhs && lhs < high * num
  let under := inside below && below > 0
  let above := inside (below + 1)
  let gapUnder := num - below * den
  let gapOver := (below + 1) * den - num
  if under && above then
    some (if gapUnder < gapOver || gapUnder == gapOver && below % 2 == 0 then below else below + 1,
      place)
  else if under then some (below, place)
  else if above then some (below + 1, place)
  else none

/-- Digits and exponent of the shortest decimal that reads back; seventeen digits always do. -/
def shortest (mantissa : Nat) (exponent : Int) : Nat × Int :=
  ((List.range 17).findSome? fun k => onGrid mantissa exponent (k + 1)).getD (mantissa, 0)

/-- Writes `digits · 10 ^ exponent`; zeros at the end of the digits are not written. -/
def layout (digits : Nat) (exponent : Int) : String :=
  let all := Nat.toDigits 10 digits
  let ds := (all.reverse.dropWhile (· == '0')).reverse
  let point : Int := all.length + exponent
  if -3 ≤ point && point ≤ 0 then
    "0." ++ String.ofList (List.replicate (-point).toNat '0' ++ ds)
  else if 0 < point && point ≤ 16 then
    let k := point.toNat
    if k < ds.length then String.ofList (ds.take k ++ ['.'] ++ ds.drop k)
    else String.ofList (ds ++ List.replicate (k - ds.length) '0' ++ ['.', '0'])
  else
    let e := point - 1
    let es := Nat.toDigits 10 e.natAbs
    let fraction := ds.drop 1
    String.ofList (ds.take 1 ++ (if fraction.isEmpty then [] else '.' :: fraction) ++ ['e']
      ++ [if e < 0 then '-' else '+'] ++ List.replicate (2 - es.length) '0' ++ es)

def text (x : Binary64) : String :=
  match x.read with
  | .nan => "nan"
  | .infinite negative => if negative then "-inf" else "inf"
  | .finite negative mantissa exponent =>
    let body :=
      if mantissa = 0 then "0.0"
      else
        let (digits, place) := shortest mantissa exponent
        layout digits place
    if negative then "-" ++ body else body

end Manuscript.Binary64
