import Manuscript.Json.Reader
import Manuscript.Yaml.Cursor

/-!
Scalars of a YAML text: plain, between quotes, and in blocks. Line ends inside a scalar are folded:
one becomes a blank, and of several the first is dropped.
-/

namespace Manuscript.Yaml

/-- What folding makes of a line end and the empty lines after it. -/
def folded (first : Char) (breaks : List Char) : List Char :=
  if first != '\n' then first :: breaks
  else if breaks.isEmpty then [' ']
  else breaks

/-! ### Plain scalars -/

/-- Whether a plain scalar ends before a character, given the one after it. -/
def endsPlain (inFlow : Bool) (x : Char) (next : Option Char) : Bool :=
  isGap x
    || (x == ':' && (next.all isGap
        || inFlow && next.any fun y => [',', '[', ']', '\x7b', '\x7d'].contains y))
    || (inFlow && [',', '?', '[', ']', '\x7b', '\x7d'].contains x)

def plainRun (inFlow : Bool) : List Char → List Char
  | [] => []
  | x :: more => if endsPlain inFlow x more.head? then [] else x :: plainRun inFlow more

/-- Passes over line ends and blanks after the first line end of a gap. `none` when a document
separator follows. -/
def plainBreaks : Nat → List Char → Cursor → Option (List Char) × Cursor
  | 0, acc, c => (some acc, c)
  | fuel + 1, acc, c =>
    if c.sees (· == ' ') then plainBreaks fuel acc c.step
    else match c.lineBreak? with
      | some (b, next) =>
        if next.atSeparator then (none, next) else plainBreaks fuel (acc ++ [b]) next
      | none => (some acc, c)

/-- The gap after the words of a plain scalar, as it reads inside the scalar, the place after it,
and whether it holds a line end. An empty gap ends the scalar. -/
def plainGap (c : Cursor) : List Char × Cursor × Bool :=
  let (blanks, afterBlanks) := c.run (· == ' ')
  match afterBlanks.lineBreak? with
  | none => (blanks, afterBlanks, false)
  | some (first, next) =>
    if next.atSeparator then ([], next, true)
    else match plainBreaks (next.rest.length + 1) [] next with
      | (some breaks, after) => (folded first breaks, after, true)
      | (none, after) => ([], after, true)

/-- A plain scalar from a place on: its text, the place after it, and whether the last thing passed
over was a line end. -/
def plainFrom (inFlow : Bool) (indent : Nat) :
    Nat → List Char → List Char → Bool → Cursor → List Char × Cursor × Bool
  | 0, acc, _, broke, c => (acc, c, broke)
  | fuel + 1, acc, gap, broke, c =>
    if c.sees (· == '#') then (acc, c, broke)
    else
      let word := plainRun inFlow c.rest
      if word.isEmpty then (acc, c, broke)
      else
        let (next, after, brokeNow) := plainGap (c.advance word.length)
        let text := acc ++ gap ++ word
        if next.isEmpty || after.sees (· == '#') || (!inFlow && after.column < indent) then
          (text, after, brokeNow)
        else plainFrom inFlow indent fuel text next brokeNow after

def plainScalar (inFlow : Bool) (indent : Nat) (c : Cursor) : String × Cursor × Bool :=
  let (text, after, broke) := plainFrom inFlow indent (c.rest.length + 1) [] [] false c
  (String.ofList text, after, broke)

/-! ### Quoted scalars -/

def escapes : List (Char × Nat) :=
  [('0', 0), ('a', 7), ('b', 8), ('t', 9), ('\t', 9), ('n', 10), ('v', 11), ('f', 12), ('r', 13),
    ('e', 27), (' ', 32), ('"', 34), ('\\', 92), ('/', 47), ('N', 0x85), ('_', 0xA0),
    ('L', 0x2028), ('P', 0x2029)]

def escapeWidth? (c : Char) : Option Nat :=
  if c = 'x' then some 2 else if c = 'u' then some 4 else if c = 'U' then some 8 else none

def hexNumber? (cs : List Char) : Option Nat :=
  cs.foldl (fun n c => do some (16 * (← n) + (← Json.hexDigit? c))) (some 0)

/-- The empty lines after a line end inside quotes. A document separator cannot stand there. -/
def quotedBreaks : Nat → List Char → Cursor → Reading (List Char × Cursor)
  | 0, acc, c => .ok (acc, c)
  | fuel + 1, acc, c =>
    if c.atSeparator then malformed
    else
      let c := c.skip fun x => x == ' ' || x == '\t'
      match c.lineBreak? with
      | some (b, next) => quotedBreaks fuel (acc ++ [b]) next
      | none => .ok (acc, c)

/-- An escape after its backslash. Half of a surrogate pair is replaced as `Json.charOf` tells,
where the language keeps it. -/
def escape (c : Cursor) : Reading (List Char × Cursor) :=
  match c.peek with
  | none => malformed
  | some x =>
    match escapes.lookup x with
    | some n => .ok ([Char.ofNat n], c.step)
    | none => match escapeWidth? x with
      | some width =>
        let digits := (c.rest.drop 1).take width
        if digits.length < width then malformed
        else match hexNumber? digits with
          | none => malformed
          | some n =>
            if n ≥ 0x80000000 then .error (.breakdown .unforeseen)
            else if n ≥ 0x110000 then .error (.breakdown .impossibleValue)
            else .ok ([Json.charOf n], c.advance (width + 1))
      | none => match c.lineBreak? with
        | some (_, next) => quotedBreaks (next.rest.length + 1) [] next
        | none => malformed

def quotedGap (c : Cursor) : Reading (List Char × Cursor) := do
  let (blanks, c) := c.run fun x => x == ' ' || x == '\t'
  match c.lineBreak? with
  | some (first, next) =>
    let (breaks, after) ← quotedBreaks (next.rest.length + 1) [] next
    return (folded first breaks, after)
  | none => if c.rest.isEmpty then malformed else return (blanks, c)

/-- A quoted scalar after its opening quote. -/
def quotedFrom (double : Bool) : Nat → List Char → Cursor → Reading (List Char × Cursor)
  | 0, _, _ => malformed
  | fuel + 1, acc, c =>
    match c.peek with
    | none => malformed
    | some x =>
      if isGap x then do
        let (gap, after) ← quotedGap c
        quotedFrom double fuel (acc ++ gap) after
      else if double then
        if x = '"' then .ok (acc, c.step)
        else if x = '\\' then do
          let (read, after) ← escape c.step
          quotedFrom double fuel (acc ++ read) after
        else quotedFrom double fuel (acc ++ [x]) c.step
      else if x = '\'' then
        if c.ahead 1 = some '\'' then quotedFrom double fuel (acc ++ ['\'']) (c.advance 2)
        else .ok (acc, c.step)
      else quotedFrom double fuel (acc ++ [x]) c.step

def quotedScalar (double : Bool) (c : Cursor) : Reading (String × Cursor) := do
  let (text, after) ← quotedFrom double (c.rest.length + 1) [] c.step
  return (String.ofList text, after)

/-! ### Block scalars -/

/-- What is done with the line ends at the end of a block scalar. -/
inductive Chomping where
  | clip
  | strip
  | keep
  deriving DecidableEq

/-- The chomping mark at a place, if there is one. -/
def chomping? (c : Cursor) : Option Chomping :=
  match c.peek with
  | some '+' => some .keep
  | some '-' => some .strip
  | _ => none

/-- The indentation mark at a place: a digit other than zero. -/
def increment? (c : Cursor) : Reading (Option Nat) :=
  match c.peek with
  | some x => if x = '0' then malformed
    else if x.isDigit then .ok (some (x.toNat - 48)) else .ok none
  | none => .ok none

/-- The marks after the sign of a block scalar, in either order. -/
def blockMarks (c : Cursor) : Reading (Chomping × Option Nat × Cursor) := do
  match chomping? c with
  | some chomp =>
    let c := c.step
    match ← increment? c with
    | some n => return (chomp, some n, c.step)
    | none => return (chomp, none, c)
  | none =>
    match ← increment? c with
    | some n =>
      let c := c.step
      match chomping? c with
      | some chomp => return (chomp, some n, c.step)
      | none => return (.clip, some n, c)
    | none => return (.clip, none, c)

/-- Passes over blanks and a comment; the line must end there. -/
def restOfLine (c : Cursor) : Reading Cursor :=
  let c := c.skipComment
  if c.atLineEnd then .ok c.passBreak.2 else malformed

/-- The empty lines at the start of a block scalar and the widest of their indentations. -/
def leadingBreaks : Nat → List Char → Nat → Cursor → List Char × Nat × Cursor
  | 0, acc, widest, c => (acc, widest, c)
  | fuel + 1, acc, widest, c =>
    if c.sees (· == ' ') then
      let c := c.step
      leadingBreaks fuel acc (max widest c.column) c
    else match c.lineBreak? with
      | some (b, next) => leadingBreaks fuel (acc ++ [b]) widest next
      | none => (acc, widest, c)

/-- The empty lines before a line of a block scalar. -/
def blockBreaks (indent : Nat) : Nat → List Char → Cursor → List Char × Cursor
  | 0, acc, c => (acc, c)
  | fuel + 1, acc, c =>
    let c := c.indentTo indent
    match c.lineBreak? with
    | some (b, next) => blockBreaks indent fuel (acc ++ [b]) next
    | none => (acc, c)

/-- The lines of a block scalar: the text, its last line end, and the empty lines that follow. -/
def blockLines (fold : Bool) (indent : Nat) : Nat → List Char → List Char → Cursor →
    List Char × List Char × List Char × Cursor
  | 0, acc, breaks, c => (acc, [], breaks, c)
  | fuel + 1, acc, breaks, c =>
    let startsWithText := !(c.sees fun x => x == ' ' || x == '\t')
    let (line, c) := c.run (!isBreak ·)
    let (lineEnd, c) := c.passBreak
    let (more, c) := blockBreaks indent (c.rest.length + 1) [] c
    let text := acc ++ breaks ++ line
    if c.column == indent && !c.rest.isEmpty then
      let joins := fold && lineEnd == ['\n'] && startsWithText
        && !(c.sees fun x => x == ' ' || x == '\t')
      let glue := if joins then (if more.isEmpty then [' '] else []) else lineEnd
      blockLines fold indent fuel (text ++ glue) more c
    else (text, lineEnd, more, c)

/-- The empty lines at the start of a block scalar, its indentation, and the place after them. The
indentation is given by a mark, or found on the first line with text. -/
def blockStart (least : Nat) (increment : Option Nat) (c : Cursor) : List Char × Nat × Cursor :=
  match increment with
  | none =>
    let (breaks, widest, c) := leadingBreaks (c.rest.length + 1) [] 0 c
    (breaks, max least widest, c)
  | some n =>
    let indent := least + n - 1
    let (breaks, c) := blockBreaks indent (c.rest.length + 1) [] c
    (breaks, indent, c)

/-- The lines of a block scalar after the empty lines at its start; there may be none. -/
def blockBody (fold : Bool) (indent : Nat) (breaks : List Char) (c : Cursor) :
    List Char × List Char × List Char × Cursor :=
  if c.column == indent && !c.rest.isEmpty then
    blockLines fold indent (c.rest.length + 1) [] breaks c
  else ([], [], breaks, c)

/-- The block scalar at a place. Its indentation is at least one more than that of the block around
it. -/
def blockScalar (fold : Bool) (parent : Int) (c : Cursor) : Reading (String × Cursor) := do
  let (chomp, increment, c) ← blockMarks c.step
  if c.sees fun x => x != ' ' && !isBreak x then malformed
  let c ← restOfLine c
  let (breaks, indent, c) := blockStart (max (parent + 1) 1).toNat increment c
  let (text, lineEnd, after, c) := blockBody fold indent breaks c
  let tail := match chomp with
    | .strip => []
    | .clip => lineEnd
    | .keep => lineEnd ++ after
  return (String.ofList (text ++ tail), c)

end Manuscript.Yaml
