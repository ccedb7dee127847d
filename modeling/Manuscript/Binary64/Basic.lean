/-!
Double-precision numbers by their 64 bits: a sign, eleven bits of exponent and fifty-two of
fraction. Arithmetic is exact on the decoded numbers and rounded once, to nearest with ties to
even.
-/

namespace Manuscript

def powerOfTwo (n : Nat) : Nat := Nat.pow 2 n

def powerOfTen (n : Nat) : Nat := Nat.pow 10 n

/-- A double-precision number. -/
structure Binary64 where
  bits : UInt64
  deriving DecidableEq, Inhabited

namespace Binary64

/-- What a bit pattern stands for: a finite number is `± mantissa · 2 ^ exponent`. -/
inductive Reading where
  | nan
  | infinite (negative : Bool)
  | finite (negative : Bool) (mantissa : Nat) (exponent : Int)
  deriving DecidableEq

def read (x : Binary64) : Reading :=
  let n := x.bits.toNat
  let negative := n / powerOfTwo 63 == 1
  let field : Nat := n / powerOfTwo 52 % 2048
  let fraction : Nat := n % powerOfTwo 52
  if field = 2047 then if fraction = 0 then .infinite negative else .nan
  else if field = 0 then .finite negative fraction (-1074)
  else .finite negative (fraction + powerOfTwo 52) ((field : Int) - 1075)

/-- Adds the sign to the bits of a number without one. -/
def withSign (negative : Bool) (magnitude : Nat) : Binary64 :=
  ⟨UInt64.ofNat (if negative then magnitude + powerOfTwo 63 else magnitude)⟩

def nan : Binary64 := ⟨0x7ff8000000000000⟩

def infinity (negative : Bool) : Binary64 := withSign negative (2047 * powerOfTwo 52)

def zero (negative : Bool) : Binary64 := withSign negative 0

/-- The quotient rounded to the nearest integer, a half to the even one. -/
def roundHalfEven (num den : Nat) : Nat :=
  let q := num / den
  let r := num % den
  if 2 * r < den then q
  else if 2 * r > den then q + 1
  else q + q % 2

/-- `num / den · 2 ^ (-shift)` as a fraction again. -/
def scaleDown (num den : Nat) (shift : Int) : Nat × Nat :=
  if shift ≥ 0 then (num, den * powerOfTwo shift.toNat) else (num * powerOfTwo (-shift).toNat, den)

/-- The double nearest to a fraction. The unit is chosen so that the mantissa has fifty-three bits,
or fewer when the number is below the normal range. -/
def ofFraction (negative : Bool) (num den : Nat) : Binary64 :=
  if num = 0 then zero negative
  else
    let guess : Int := max ((num.log2 : Int) - (den.log2 : Int) - 53) (-1074)
    let first := scaleDown num den guess
    let unit := if first.1 / first.2 ≥ powerOfTwo 53 then guess + 1 else guess
    let scaled := scaleDown num den unit
    let mantissa := roundHalfEven scaled.1 scaled.2
    let bits : Nat :=
      if mantissa < powerOfTwo 52 then mantissa
      else (unit + 1075).toNat * powerOfTwo 52 + (mantissa - powerOfTwo 52)
    if bits ≥ 2047 * powerOfTwo 52 then infinity negative else withSign negative bits

/-- The double nearest to `digits · 10 ^ exponent`. Exponents far outside the range are settled
first, so that no huge power is computed. -/
def ofDecimal (negative : Bool) (digits : Nat) (exponent : Int) : Binary64 :=
  let places : Int := (Nat.toDigits 10 digits).length + exponent
  if digits = 0 then zero negative
  else if places > 310 then infinity negative
  else if places < -326 then zero negative
  else if exponent ≥ 0 then ofFraction negative (digits * powerOfTen exponent.toNat) 1
  else ofFraction negative digits (powerOfTen (-exponent).toNat)

/-- A finite double as a fraction: numerator and positive denominator. -/
def fraction? (x : Binary64) : Option (Int × Nat) :=
  match x.read with
  | .finite negative m e =>
    let num : Int := if e ≥ 0 then m * powerOfTwo e.toNat else m
    let den : Nat := if e ≥ 0 then 1 else powerOfTwo (-e).toNat
    some (if negative then -num else num, den)
  | _ => none

/-- Rounds an exact fraction; a zero takes the sign given. -/
def ofExact (zeroNegative : Bool) (num : Int) (den : Nat) : Binary64 :=
  if num = 0 then zero zeroNegative else ofFraction (num < 0) num.natAbs den

/-- The sum of two finite doubles, rounded once; with another operand, not a number. -/
def add (x y : Binary64) : Binary64 :=
  match x.fraction?, y.fraction? with
  | some (a, b), some (c, d) => ofExact false (a * d + c * b) (b * d)
  | _, _ => if x.fraction?.isSome then y else x

/-- The product of a finite double and a natural number, rounded once. -/
def scale (x : Binary64) (k : Nat) : Binary64 :=
  match x.fraction? with
  | some (a, b) => ofExact false (a * k) b
  | none => x

def negate (x : Binary64) : Binary64 :=
  ⟨UInt64.ofNat ((x.bits.toNat + powerOfTwo 63) % powerOfTwo 64)⟩

end Binary64

end Manuscript
