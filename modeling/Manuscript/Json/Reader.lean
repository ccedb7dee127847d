import Manuscript.Binary64.Reader
import Manuscript.Value.Key

/-!
Reading JSON. Besides the standard forms the words `NaN`, `Infinity` and `-Infinity` are numbers; a
number without fraction and exponent is an integer of any size; of equal keys the last value counts.
-/

namespace Manuscript.Json

def isSpace (c : Char) : Bool := c == ' ' || c == '\t' || c == '\n' || c == '\r'

def skipSpace (cs : List Char) : List Char := cs.dropWhile isSpace

def hexDigit? (c : Char) : Option Nat :=
  if c.isDigit then some (c.toNat - 48)
  else if 'a' ≤ c && c ≤ 'f' then some (c.toNat - 87)
  else if 'A' ≤ c && c ≤ 'F' then some (c.toNat - 55)
  else none

def hexFour? : List Char → Option (Nat × List Char)
  | a :: b :: c :: d :: rest => do
    let w ← hexDigit? a
    let x ← hexDigit? b
    let y ← hexDigit? c
    let z ← hexDigit? d
    some (4096 * w + 256 * x + 16 * y + z, rest)
  | _ => none

/-- The character of a code point. The formats keep half of a surrogate pair that stands alone; a
text here holds characters only, so the replacement character takes its place. -/
def charOf (n : Nat) : Char := if n < 0xD800 || 0xE000 ≤ n then Char.ofNat n else Char.ofNat 0xFFFD

/-- The character of an escape that starts with `u`; two surrogates make one character. -/
def unicodeEscape? (cs : List Char) : Option (Char × List Char) := do
  let (high, rest) ← hexFour? cs
  match rest with
  | '\\' :: 'u' :: more =>
    match hexFour? more with
    | some (low, after) =>
      if 0xD800 ≤ high && high < 0xDC00 && 0xDC00 ≤ low && low < 0xE000 then
        some (Char.ofNat (0x10000 + (high - 0xD800) * 1024 + (low - 0xDC00)), after)
      else some (charOf high, rest)
    | none => some (charOf high, rest)
  | _ => some (charOf high, rest)

/-- The character that a letter after a backslash stands for. -/
def simpleEscape? (c : Char) : Option Char :=
  if c = '"' || c = '\\' || c = '/' then some c
  else if c = 'b' then some (Char.ofNat 8)
  else if c = 'f' then some (Char.ofNat 12)
  else if c = 'n' then some '\n'
  else if c = 'r' then some '\r'
  else if c = 't' then some '\t'
  else none

/-- The characters of a string up to its closing quote, read so far in reverse. -/
def stringBody : Nat → List Char → List Char → Option (String × List Char)
  | 0, _, _ => none
  | _, _, [] => none
  | _ + 1, acc, '"' :: rest => some (String.ofList acc.reverse, rest)
  | fuel + 1, acc, '\\' :: 'u' :: rest => do
    let (c, after) ← unicodeEscape? rest
    stringBody fuel (c :: acc) after
  | fuel + 1, acc, '\\' :: c :: rest => do
    let e ← simpleEscape? c
    stringBody fuel (e :: acc) rest
  | fuel + 1, acc, c :: rest =>
    if c.toNat < 32 || c = '\\' then none else stringBody fuel (c :: acc) rest

def digits? (cs : List Char) : Option (List Char × List Char) :=
  let ds := cs.takeWhile Char.isDigit
  if ds.isEmpty then none else some (ds, cs.dropWhile Char.isDigit)

/-- The whole part of a number: a zero, or digits that do not start with one. -/
def wholePart? : List Char → Option (List Char × List Char)
  | '0' :: rest => some (['0'], rest)
  | cs => digits? cs

/-- The fraction of a number: a point and digits, or nothing. -/
def fractionPart : List Char → List Char × List Char
  | '.' :: rest => match digits? rest with
    | some (ds, after) => (ds, after)
    | none => ([], '.' :: rest)
  | cs => ([], cs)

/-- The exponent of a number: a letter, a sign and digits, or nothing. -/
def exponentPart (cs : List Char) : Option Int × List Char :=
  match cs with
  | c :: rest =>
    if c = 'e' || c = 'E' then
      let (negative, more) := Binary64.signOf rest
      match digits? more with
      | some (ds, after) =>
        let n : Int := Binary64.digitsValue ds
        (some (if negative then -n else n), after)
      | none => (none, cs)
    else (none, cs)
  | [] => (none, cs)

/-- A number after its sign. -/
def number? (negative : Bool) (cs : List Char) : Option (Value × List Char) := do
  let (whole, rest) ← wholePart? cs
  let (places, rest) := fractionPart rest
  let (exponent, rest) := exponentPart rest
  if places.isEmpty && exponent.isNone then
    let n : Int := Binary64.digitsValue whole
    some (.int (if negative then -n else n), rest)
  else
    let e : Int := exponent.getD 0 - places.length
    some (.float (Binary64.ofDecimal negative (Binary64.digitsValue (whole ++ places)) e), rest)

def word? (w : String) (cs : List Char) : Option (List Char) :=
  if w.toList.isPrefixOf cs then some (cs.drop w.length) else none

def constants : List (String × Value) :=
  [("null", .null), ("true", .bool true), ("false", .bool false), ("NaN", .float Binary64.nan),
    ("Infinity", .float (Binary64.infinity false)), ("-Infinity", .float (Binary64.infinity true))]

def constant? (cs : List Char) : Option (Value × List Char) :=
  constants.findSome? fun (w, v) => (word? w cs).map fun rest => (v, rest)

mutual

/-- A value at the start of a text. -/
def value? : Nat → List Char → Option (Value × List Char)
  | 0, _ => none
  | fuel + 1, cs =>
    match cs with
    | '"' :: rest => (stringBody (rest.length + 1) [] rest).map fun (s, after) => (.str s, after)
    | '[' :: rest =>
      match skipSpace rest with
      | ']' :: after => some (.list [], after)
      | more => (elements? fuel more).map fun (vs, after) => (.list vs, after)
    | '\x7b' :: rest =>
      match skipSpace rest with
      | '\x7d' :: after => some (.map [], after)
      | more => (members? fuel more).map fun (es, after) => (.map (Value.ofPairs es), after)
    | _ =>
      match constant? cs with
      | some found => some found
      | none => match cs with
        | '-' :: rest => number? true rest
        | _ => number? false cs

def elements? : Nat → List Char → Option (List Value × List Char)
  | 0, _ => none
  | fuel + 1, cs => do
    let (v, rest) ← value? fuel cs
    match skipSpace rest with
    | ']' :: after => some ([v], after)
    | ',' :: more =>
      let (vs, after) ← elements? fuel (skipSpace more)
      some (v :: vs, after)
    | _ => none

def members? : Nat → List Char → Option (List (Value × Value) × List Char)
  | 0, _ => none
  | fuel + 1, cs =>
    match cs with
    | '"' :: rest => do
      let (key, afterKey) ← stringBody (rest.length + 1) [] rest
      match skipSpace afterKey with
      | ':' :: more =>
        let (v, afterValue) ← value? fuel (skipSpace more)
        match skipSpace afterValue with
        | '\x7d' :: after => some ([(.str key, v)], after)
        | ',' :: next =>
          let (es, after) ← members? fuel (skipSpace next)
          some ((.str key, v) :: es, after)
        | _ => none
      | _ => none
    | _ => none

end

/-- Reads a document: one value with white space around it. -/
def read? (s : String) : Option Value :=
  let cs := s.toList
  match value? (cs.length + 1) (skipSpace cs) with
  | some (v, rest) => if (skipSpace rest).isEmpty then some v else none
  | none => none

end Manuscript.Json
