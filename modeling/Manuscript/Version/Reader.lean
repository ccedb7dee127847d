import Manuscript.Text.Blank
import Manuscript.Version.Basic

/-!
Reading versions. Small and capital letters count alike, the marks have long and short spellings,
and a dot, a hyphen or an underline may stand between a mark and its number; a missing number is
zero.
-/

namespace Manuscript.Version

def numberOf (digits : List Char) : Nat := digits.foldl (fun n c => 10 * n + (c.toNat - 48)) 0

/-- Takes a number; at least one digit must stand there. -/
def number? (cs : List Char) : Option (Nat × List Char) :=
  let digits := cs.takeWhile Char.isDigit
  if digits.isEmpty then none else some (numberOf digits, cs.dropWhile Char.isDigit)

def isSeparator (c : Char) : Bool := c == '.' || c == '-' || c == '_'

def dropSeparator : List Char → List Char
  | c :: rest => if isSeparator c then rest else c :: rest
  | [] => []

def oneOf? (cs : List Char) : List (String × α) → Option (α × List Char)
  | [] => none
  | (w, a) :: more =>
    if w.toList.isPrefixOf cs then some (a, cs.drop w.length) else oneOf? cs more

/-- Takes a mark with its number; separators may stand before and after the word. -/
def mark? (words : List (String × α)) (cs : List Char) : Option ((α × Nat) × List Char) :=
  (oneOf? (dropSeparator cs) words).map fun (a, rest) =>
    match number? (dropSeparator rest) with
    | some (n, rest) => ((a, n), rest)
    | none => ((a, 0), dropSeparator rest)

def preWords : List (String × PreStage) :=
  [("alpha", .alpha), ("a", .alpha), ("beta", .beta), ("b", .beta), ("preview", .candidate),
    ("pre", .candidate), ("c", .candidate), ("rc", .candidate)]

def postWords : List (String × Unit) := [("post", ()), ("rev", ()), ("r", ())]

/-- Takes a post-release mark: a hyphen and a number, or a word. -/
def post? (cs : List Char) : Option (Nat × List Char) :=
  let spelled := (mark? postWords cs).map fun (m, rest) => (m.2, rest)
  match cs with
  | '-' :: rest => number? rest <|> spelled
  | _ => spelled

def dev? (cs : List Char) : Option (Nat × List Char) :=
  (mark? [("dev", ())] cs).map fun (m, rest) => (m.2, rest)

/-- Takes what one reader takes, or nothing. -/
def optionally (read : List Char → Option (α × List Char)) (cs : List Char) :
    Option α × List Char :=
  match read cs with
  | some (a, rest) => (some a, rest)
  | none => (none, cs)

/-- The further release numbers, each after a dot; the fuel is the length of the text. -/
def moreNumbers : Nat → List Char → List Nat × List Char
  | fuel + 1, '.' :: cs =>
    match number? cs with
    | some (n, rest) =>
      let (ns, rest) := moreNumbers fuel rest
      (n :: ns, rest)
    | none => ([], '.' :: cs)
  | _, cs => ([], cs)

/-- Takes an epoch and the release numbers; the letter `v` may stand in front. -/
def head? (cs : List Char) : Option (Version × List Char) := do
  let cs := match cs with
    | 'v' :: rest => rest
    | _ => cs
  let (n, rest) ← number? cs
  match rest with
  | '!' :: rest =>
    let (m, rest) ← number? rest
    let (ms, rest) := moreNumbers rest.length rest
    return ({ epoch := n, release := m :: ms }, rest)
  | _ =>
    let (ns, rest) := moreNumbers rest.length rest
    return ({ release := n :: ns }, rest)

def marks (v : Version) (cs : List Char) : Version × List Char :=
  let (pre, cs) := optionally (mark? preWords) cs
  let (post, cs) := optionally post? cs
  let (dev, cs) := optionally dev? cs
  ({ v with pre := pre, post := post, dev := dev }, cs)

def isBuildChar (c : Char) : Bool := c.isDigit || c.isLower

def buildPart (cs : List Char) : LocalPart :=
  if cs.all Char.isDigit then .number (numberOf cs) else .word (String.ofList cs)

/-- The parts of a local build mark; the fuel is the length of the text. -/
def buildParts? : Nat → List Char → Option (List LocalPart × List Char)
  | 0, _ => none
  | fuel + 1, cs => do
    let word := cs.takeWhile isBuildChar
    let rest := cs.dropWhile isBuildChar
    if word.isEmpty then none
    else match rest with
      | c :: after =>
        if isSeparator c then
          match buildParts? fuel after with
          | some (parts, rest) => return (buildPart word :: parts, rest)
          | none => return ([buildPart word], rest)
        else return ([buildPart word], rest)
      | [] => return ([buildPart word], rest)

def build? : List Char → Option (List LocalPart × List Char)
  | '+' :: cs => buildParts? (cs.length + 1) cs
  | _ => none

/-- Takes a whole version from the start of a text in small letters. -/
def leading? (cs : List Char) : Option (Version × List Char) := do
  let (v, rest) ← head? cs
  let (v, rest) := marks v rest
  let (build, rest) := optionally build? rest
  return ({ v with build := build.getD [] }, rest)

def ofText? (s : String) : Option Version :=
  match leading? ((Text.trim s.toList).map Char.toLower) with
  | some (v, []) => some v
  | _ => none

end Manuscript.Version
