import Manuscript.Json.Reader
import Manuscript.Text.EntityTable
import Manuscript.Text.Lines

/-!
Character references, as HTML 5 decodes them: by number (`&#65;`, `&#x41;`) or by name (`&amp;`). A
name that is not known may start with one that counts without its semicolon.
-/

namespace Manuscript.Text

/-- A named character reference. -/
structure Entity where
  name : List Char
  /-- whether the name counts without a semicolon -/
  bare : Bool
  text : List Char

def hexValue (cs : List Char) : Nat := cs.foldl (fun n c => 16 * n + (Json.hexDigit? c).getD 0) 0

def entityOf (record : List Char) : Entity :=
  let left := record.takeWhile (· != '=')
  let codes := splitAt '+' (record.drop (left.length + 1))
  ⟨left.takeWhile (· != '*'), left.contains '*', codes.map fun code => Char.ofNat (hexValue code)⟩

def entities : List Entity :=
  entityRecords.flatMap fun line => (splitAt ' ' line.toList).map entityOf

/-- What a name, given with its semicolon, stands for. -/
def namedReference? (name : List Char) : Option (List Char) :=
  (entities.find? fun e => e.name == name).map Entity.text

/-- What the longest beginning of a name that counts without a semicolon stands for, and how long
that beginning is. Beginnings of one character do not count. -/
def bareReference? (name : List Char) : Nat → Option (List Char × Nat)
  | 0 => none
  | n + 1 =>
    if n + 1 < 2 then none
    else match entities.find? fun e => e.bare && e.name == name.take (n + 1) with
      | some e => some (e.text, n + 1)
      | none => bareReference? name n

/-- The characters that the numbers 128 to 159 stand for. -/
def windowsCodes : List (Nat × Nat) :=
  [(0x80, 0x20AC), (0x81, 0x81), (0x82, 0x201A), (0x83, 0x192), (0x84, 0x201E), (0x85, 0x2026),
    (0x86, 0x2020), (0x87, 0x2021), (0x88, 0x2C6), (0x89, 0x2030), (0x8A, 0x160), (0x8B,
    0x2039), (0x8C, 0x152), (0x8D, 0x8D), (0x8E, 0x17D), (0x8F, 0x8F), (0x90, 0x90), (0x91,
    0x2018), (0x92, 0x2019), (0x93, 0x201C), (0x94, 0x201D), (0x95, 0x2022), (0x96, 0x2013),
    (0x97, 0x2014), (0x98, 0x2DC), (0x99, 0x2122), (0x9A, 0x161), (0x9B, 0x203A), (0x9C, 0x153),
    (0x9D, 0x9D), (0x9E, 0x17E), (0x9F, 0x178)]

/-- Whether a code point is no character: control characters and the last two of each plane. -/
def isNoncharacter (n : Nat) : Bool :=
  (1 ≤ n && n ≤ 8) || n == 11 || (14 ≤ n && n ≤ 31) || (127 ≤ n && n ≤ 159) ||
    (0xFDD0 ≤ n && n ≤ 0xFDEF) || n % 65536 ≥ 65534

/-- What a number stands for. -/
def numericReference (n : Nat) : List Char :=
  if n = 0 then [Char.ofNat 0xFFFD]
  else if n = 13 then ['\r']
  else match windowsCodes.lookup n with
    | some code => [Char.ofNat code]
    | none =>
      if (0xD800 ≤ n && n ≤ 0xDFFF) || n > 0x10FFFF then [Char.ofNat 0xFFFD]
      else if isNoncharacter n then []
      else [Char.ofNat n]

def isReferenceChar (c : Char) : Bool :=
  !(c == '\t' || c == '\n' || c.toNat == 12 || c == ' ' || c == '<' || c == '&' || c == '#'
    || c == ';')

/-- A character reference after its ampersand: what it stands for, and the text after it. -/
def reference? (cs : List Char) : Option (List Char × List Char) :=
  match cs with
  | '#' :: x :: rest =>
    if x = 'x' || x = 'X' then
      let digits := rest.takeWhile fun c => (Json.hexDigit? c).isSome
      match rest.drop digits.length with
      | ';' :: after =>
        if digits.isEmpty then none else some (numericReference (hexValue digits), after)
      | _ => none
    else
      let digits := (x :: rest).takeWhile Char.isDigit
      match (x :: rest).drop digits.length with
      | ';' :: after =>
        if digits.isEmpty || digits.length > 7 then none
        else some (numericReference (Binary64.digitsValue digits), after)
      | _ => none
  | _ =>
    let name := cs.takeWhile isReferenceChar
    match cs.drop name.length with
    | ';' :: after =>
      if name.isEmpty || name.length > 32 then none
      else match namedReference? name with
        | some text => some (text, after)
        | none => match bareReference? name name.length with
          | some (text, n) => some (text ++ name.drop n ++ [';'], after)
          | none => none
    | _ => none

/-- Replaces the character references of a text. -/
def unescapeFrom : Nat → List Char → List Char
  | 0, cs => cs
  | _, [] => []
  | fuel + 1, '&' :: rest =>
    match reference? rest with
    | some (text, after) => text ++ unescapeFrom fuel after
    | none => '&' :: unescapeFrom fuel rest
  | fuel + 1, c :: rest => c :: unescapeFrom fuel rest

def unescape (cs : List Char) : List Char := unescapeFrom cs.length cs

end Manuscript.Text
