import Manuscript.Yaml.Scalar
import Manuscript.Yaml.Token

/-!
Cutting a YAML text into tokens. Blocks are found by their columns: a deeper column opens a block,
a shallower one closes blocks. That something is a key shows only at the colon after it, so places
where a key may have begun are remembered, and the key token is put in later. Until then the tokens
from such a place on are held back, so a problem further on comes before what they would be refused
for.
-/

namespace Manuscript.Yaml

/-- A place where a key may have begun: the number of its first token and where it stands. A
required one must turn out to be a key. -/
structure Candidate where
  position : Nat
  required : Bool
  index : Nat
  line : Nat
  column : Nat

/-- The state of the scanner. -/
structure Scanner where
  cursor : Cursor
  tokens : Array Token := #[]
  /-- how many flow collections are open -/
  flow : Nat := 0
  /-- whether a key may begin here -/
  keyAllowed : Bool := true
  /-- the candidates for keys, by the number of open flow collections -/
  candidates : List (Nat × Candidate) := []
  /-- the column of the innermost block -/
  indent : Int := -1
  /-- the columns of the blocks around it -/
  outer : List Int := []
  finished : Bool := false

namespace Scanner

def emit (s : Scanner) (t : Token) : Scanner := { s with tokens := s.tokens.push t }

def moveTo (s : Scanner) (c : Cursor) : Scanner := { s with cursor := c }

def insert (s : Scanner) (position : Nat) (t : Token) : Scanner :=
  { s with tokens := (s.tokens.toList.take position ++ t :: s.tokens.toList.drop position).toArray }

/-- Whether a candidate can no longer be a key: keys do not span lines, nor 1024 characters. -/
def stale (s : Scanner) (k : Candidate) : Bool :=
  k.line != s.cursor.line || s.cursor.index > k.index + 1024

/-- Drops the candidates that can no longer be keys. -/
def dropStale (s : Scanner) : Reading Scanner :=
  if s.candidates.any fun (_, k) => s.stale k && k.required then malformed
  else .ok { s with candidates := s.candidates.filter fun (_, k) => !s.stale k }

/-- Drops the candidate of the current flow level. -/
def dropCandidate (s : Scanner) : Reading Scanner :=
  match s.candidates.lookup s.flow with
  | some k =>
    if k.required then malformed
    else .ok { s with candidates := s.candidates.filter fun (f, _) => f != s.flow }
  | none => .ok s

/-- Remembers the current place as a candidate, if a key may begin here. -/
def markCandidate (s : Scanner) : Reading Scanner :=
  if s.keyAllowed then do
    let required := s.flow == 0 && s.indent == s.cursor.column
    let s ← s.dropCandidate
    let k : Candidate :=
      ⟨s.tokens.size, required, s.cursor.index, s.cursor.line, s.cursor.column⟩
    return { s with candidates := (s.flow, k) :: s.candidates }
  else .ok s

/-- Closes the blocks that are deeper than a column. -/
def unwind (s : Scanner) (column : Int) : List Int → Scanner
  | [] => s
  | parent :: rest =>
    if s.indent > column then
      unwind { (s.emit .blockEnd) with indent := parent, outer := rest } column rest
    else s

/-- Closes the blocks that are deeper than a column; inside a flow collection there are none. -/
def closeBlocks (s : Scanner) (column : Int) : Scanner :=
  if s.flow > 0 then s else s.unwind column s.outer

/-- Opens a block at a column that is deeper than the innermost one; the second part tells whether
it did. -/
def openBlock (s : Scanner) (column : Nat) : Scanner × Bool :=
  if s.indent < column then
    ({ s with outer := s.indent :: s.outer, indent := column }, true)
  else (s, false)

/-- Passes over blanks, comments and line ends. -/
def toNext : Nat → Scanner → Scanner
  | 0, s => s
  | fuel + 1, s =>
    let c := s.cursor.skipComment
    match c.lineBreak? with
    | some (_, next) =>
      toNext fuel { s with cursor := next, keyAllowed := s.keyAllowed || s.flow == 0 }
    | none => s.moveTo c

/-! ### Names and tags -/

def isNameChar (c : Char) : Bool := c.isAlphanum || c == '-' || c == '_'

def isTagChar (c : Char) : Bool :=
  c.isAlphanum || "-;/?:@&=+$,_.!~*'()[]%".toList.contains c

/-- The bytes that a run of percent escapes writes. -/
def percentBytes : List Char → Option (List UInt8 × List Char)
  | '%' :: a :: b :: rest => do
    let n ← hexNumber? [a, b]
    match percentBytes rest with
    | some (bytes, after) => some (UInt8.ofNat n :: bytes, after)
    | none => none
  | '%' :: _ => none
  | rest => some ([], rest)

/-- Replaces percent escapes by the characters they encode. -/
def decodePercent : Nat → List Char → Option (List Char)
  | 0, cs => some cs
  | _, [] => some []
  | fuel + 1, c :: rest =>
    if c = '%' then do
      let (bytes, after) ← percentBytes (c :: rest)
      let text ← String.fromUTF8? (ByteArray.mk bytes.toArray)
      return text.toList ++ (← decodePercent fuel after)
    else (decodePercent fuel rest).map (c :: ·)

def tagText (c : Cursor) : Reading (String × Cursor) :=
  let (text, after) := c.run isTagChar
  if text.isEmpty then malformed
  else match decodePercent text.length text with
    | some decoded => .ok (String.ofList decoded, after)
    | none => malformed

/-- The handle of a tag at a place: an exclamation mark, or a name between two. -/
def tagHandle (c : Cursor) : Reading (String × Cursor) :=
  if !c.sees (· == '!') then malformed
  else
    let c := c.step
    if c.sees (· == ' ') then .ok ("!", c)
    else
      let (name, after) := c.run isNameChar
      if after.sees (· == '!') then .ok (String.ofList ('!' :: name ++ ['!']), after.step)
      else malformed

/-- Whether a word ends here: at a blank, the end of a line, or the end of the text. -/
def wordEnds (c : Cursor) : Bool := !(c.sees fun x => x != ' ' && !isBreak x)

/-- The handle before the suffix of a tag, or the one of a tag that is written without. -/
def handleAt (c : Cursor) : Reading (String × Cursor) :=
  let word := c.step.rest.takeWhile fun x => x != ' ' && !isBreak x
  if word.contains '!' then tagHandle c else .ok ("!", c.step)

def tagParts (c : Cursor) : Reading (TagParts × Cursor) :=
  if c.ahead 1 = some '<' then do
    let (suffix, c) ← tagText (c.advance 2)
    if c.sees (· == '>') then return (⟨none, suffix⟩, c.step) else malformed
  else if (c.ahead 1).all isGap then return (⟨none, "!"⟩, c.step)
  else do
    let (handle, c) ← handleAt c
    let (suffix, c) ← tagText c
    return (⟨some handle, suffix⟩, c)

def tagAt (c : Cursor) : Reading (TagParts × Cursor) := do
  let (parts, c) ← tagParts c
  if wordEnds c then return (parts, c) else malformed

/-- The name of an anchor or an alias at a place, after its mark. -/
def nameAt (c : Cursor) : Reading (String × Cursor) :=
  let (name, after) := c.step.run isNameChar
  let ends := after.peek.all fun x =>
    isGap x || "?:,]\x7d%@".toList.contains x || x.toNat == 96
  if name.isEmpty || !ends then malformed else .ok (String.ofList name, after)

/-! ### Directives -/

def directiveNumber (c : Cursor) : Reading (Nat × Cursor) :=
  let (digits, after) := c.run Char.isDigit
  if digits.isEmpty then malformed else .ok (Binary64.digitsValue digits, after)

/-- The version that a directive states, after its name. -/
def versionAt (c : Cursor) : Reading (Token × Cursor) := do
  let (major, c) ← directiveNumber (c.skip (· == ' '))
  if c.sees (· == '.') then
    let (_, c) ← directiveNumber c.step
    if wordEnds c then return (.versionDirective major, c) else malformed
  else malformed

/-- The handle and its expansion that a directive states, after its name. -/
def expansionAt (c : Cursor) : Reading (Token × Cursor) := do
  let (handle, c) ← tagHandle (c.skip (· == ' '))
  if c.sees (· == ' ') then
    let (expansion, c) ← tagText (c.skip (· == ' '))
    if wordEnds c then return (.tagDirective handle expansion, c) else malformed
  else malformed

def directiveBody (name : String) (c : Cursor) : Reading (Token × Cursor) :=
  if name = "YAML" then versionAt c
  else if name = "TAG" then expansionAt c
  else .ok (.otherDirective, c.skip (!isBreak ·))

def directiveAt (c : Cursor) : Reading (Token × Cursor) := do
  let (name, c) := c.step.run isNameChar
  if name.isEmpty || !wordEnds c then malformed
  else
    let (token, c) ← directiveBody (String.ofList name) c
    return (token, ← restOfLine c)

/-! ### One step -/

def leaveBlocks (s : Scanner) : Reading Scanner := do
  let s ← (s.closeBlocks (-1)).dropCandidate
  return { s with keyAllowed := false }

def openFlow (s : Scanner) (t : Token) : Reading Scanner := do
  let s ← s.markCandidate
  return { (s.emit t) with flow := s.flow + 1, keyAllowed := true, cursor := s.cursor.step }

def closeFlow (s : Scanner) (t : Token) : Reading Scanner := do
  let s ← s.dropCandidate
  if s.flow = 0 then malformed
  else return { (s.emit t) with flow := s.flow - 1, keyAllowed := false, cursor := s.cursor.step }

/-- Opens a block at a column, with a token at a position for it, unless one is open there or this
is inside a flow collection. -/
def startBlock (s : Scanner) (column position : Nat) (t : Token) : Scanner :=
  if s.flow == 0 && (s.openBlock column).2 then (s.openBlock column).1.insert position t else s

/-- Opens a block at the current place, unless one is open there or this is inside a flow
collection. -/
def startBlockHere (s : Scanner) (t : Token) : Scanner :=
  s.startBlock s.cursor.column s.tokens.size t

/-- A dash that starts an element of a block sequence. -/
def blockEntryToken (s : Scanner) : Reading Scanner :=
  if s.flow == 0 && !s.keyAllowed then malformed
  else do
    let s ← (s.startBlockHere .blockSequenceStart).dropCandidate
    return { (s.emit .blockEntry) with keyAllowed := true, cursor := s.cursor.step }

/-- A question mark that starts a key. -/
def keyToken (s : Scanner) : Reading Scanner :=
  if s.flow == 0 && !s.keyAllowed then malformed
  else do
    let s ← (s.startBlockHere .blockMappingStart).dropCandidate
    return { (s.emit .key) with keyAllowed := s.flow == 0, cursor := s.cursor.step }

/-- A colon after a candidate, which is a key therefore. -/
def valueOfKey (s : Scanner) (k : Candidate) : Scanner :=
  let s := { s with candidates := s.candidates.filter fun (f, _) => f != s.flow }
  let s := (s.insert k.position .key).startBlock k.column k.position .blockMappingStart
  { (s.emit .value) with keyAllowed := false, cursor := s.cursor.step }

/-- A colon that starts a value. The candidate of the current level, if there is one, is a key. -/
def valueToken (s : Scanner) : Reading Scanner :=
  match s.candidates.lookup s.flow with
  | some k => .ok (s.valueOfKey k)
  | none =>
    if s.flow == 0 && !s.keyAllowed then malformed
    else do
      let s := s.startBlockHere .blockMappingStart
      let s ← { s with keyAllowed := s.flow == 0 }.dropCandidate
      return { (s.emit .value) with cursor := s.cursor.step }

def standsAlone (s : Scanner) : Bool := (s.cursor.ahead 1).all isGap

/-- Whether a plain scalar can start with the next character. -/
def startsPlain (s : Scanner) (x : Char) : Bool :=
  let special := "-?:,[]\x7b\x7d#&*!|>'\"%@".toList.contains x || x.toNat == 96
  !(isGap x || special)
    || (!s.standsAlone && (x == '-' || (s.flow == 0 && (x == '?' || x == ':'))))

def directiveToken (s : Scanner) : Reading Scanner := do
  let s ← s.leaveBlocks
  let (token, after) ← directiveAt s.cursor
  return { (s.emit token) with cursor := after }

def separatorToken (s : Scanner) (t : Token) : Reading Scanner := do
  let s ← s.leaveBlocks
  return { (s.emit t) with cursor := s.cursor.advance 3 }

def flowEntryToken (s : Scanner) : Reading Scanner := do
  let s ← { s with keyAllowed := true }.dropCandidate
  return { (s.emit .flowEntry) with cursor := s.cursor.step }

/-- A token that may begin a key, and is told by its first character. -/
def markedToken (s : Scanner) (read : Cursor → Reading (Token × Cursor)) : Reading Scanner := do
  let s ← s.markCandidate
  let (token, after) ← read s.cursor
  return { (s.emit token) with keyAllowed := false, cursor := after }

def nameToken (make : String → Token) (c : Cursor) : Reading (Token × Cursor) := do
  let (name, after) ← nameAt c
  return (make name, after)

def tagToken (c : Cursor) : Reading (Token × Cursor) := do
  let (parts, after) ← tagAt c
  return (.tag parts, after)

def quotedToken (double : Bool) (c : Cursor) : Reading (Token × Cursor) := do
  let (text, after) ← quotedScalar double c
  return (.scalar text false, after)

def blockScalarToken (s : Scanner) (fold : Bool) : Reading Scanner := do
  let s ← { s with keyAllowed := true }.dropCandidate
  let (text, after) ← blockScalar fold s.indent s.cursor
  return { (s.emit (.scalar text false)) with cursor := after }

/-- A plain scalar. A key may follow one that ends with a line. -/
def plainToken (s : Scanner) : Reading Scanner := do
  let s ← s.markCandidate
  let (text, after, broke) := plainScalar (s.flow > 0) (s.indent + 1).toNat s.cursor
  return { (s.emit (.scalar text true)) with keyAllowed := broke, cursor := after }

/-- The end of the text, where all blocks end. -/
def endToken (s : Scanner) : Reading Scanner := do
  let s ← (s.closeBlocks (-1)).dropCandidate
  return { (s.emit .streamEnd) with finished := true }

/-- Scans the token that starts with a character. -/
def tokenOf (s : Scanner) (x : Char) : Reading Scanner :=
  if x = '%' && s.cursor.column == 0 then s.directiveToken
  else if s.cursor.column == 0 && s.cursor.atSeparator then
    s.separatorToken (if x = '-' then .documentStart else .documentEnd)
  else if x = '[' then s.openFlow .flowSequenceStart
  else if x = '\x7b' then s.openFlow .flowMappingStart
  else if x = ']' then s.closeFlow .flowSequenceEnd
  else if x = '\x7d' then s.closeFlow .flowMappingEnd
  else if x = ',' then s.flowEntryToken
  else if x = '-' && s.standsAlone then s.blockEntryToken
  else if x = '?' && (s.flow > 0 || s.standsAlone) then s.keyToken
  else if x = ':' && (s.flow > 0 || s.standsAlone) then s.valueToken
  else if x = '*' then s.markedToken (nameToken .alias)
  else if x = '&' then s.markedToken (nameToken .anchor)
  else if x = '!' then s.markedToken tagToken
  else if (x = '|' || x = '>') && s.flow == 0 then s.blockScalarToken (x == '>')
  else if x = '\'' || x = '"' then s.markedToken (quotedToken (x == '"'))
  else if s.startsPlain x then s.plainToken
  else malformed

/-- Scans the next token, or several where blocks end before it. -/
def next (s : Scanner) : Reading Scanner := do
  let s ← (s.toNext (s.cursor.rest.length + 1)).dropStale
  let s := s.closeBlocks s.cursor.column
  match s.cursor.peek with
  | none => s.endToken
  | some x => s.tokenOf x

/-- How many tokens have been given out when the next one is scanned. Those from the first
candidate on are held back, since a key may still begin there. -/
def givenOut (s : Scanner) : Nat :=
  let pending := s.candidates.filter fun (_, k) => k.required || !s.stale k
  (pending.map fun (_, k) => k.position).foldl min s.tokens.size

/-- Scans to the end. A problem ends the tokens before those that are held back. -/
def run : Nat → Scanner → List Token × Option Problem
  | 0, s => (s.tokens.toList, some .malformed)
  | fuel + 1, s =>
    if s.finished then (s.tokens.toList, none)
    else match s.next with
      | .ok t => run fuel t
      | .error e => (s.tokens.toList.take s.givenOut, some e)

end Scanner

/-- Whether a character may occur in a YAML text at all. -/
def isAllowed (c : Char) : Bool :=
  let n := c.toNat
  n == 9 || n == 10 || n == 13 || (32 ≤ n && n ≤ 126) || n == 0x85 || (0xA0 ≤ n && n ≤ 0xD7FF)
    || (0xE000 ≤ n && n ≤ 0xFFFD) || 0x10000 ≤ n

/-- The tokens of a text, and the problem that ends them, if they do not reach the end. -/
def scan (text : List Char) : List Token × Option Problem :=
  if !text.all isAllowed then ([], some .malformed)
  else
    let text := match text with
      | c :: rest => if isMark c then rest else c :: rest
      | [] => []
    Scanner.run (text.length + 2) { cursor := { rest := text } }

end Manuscript.Yaml
