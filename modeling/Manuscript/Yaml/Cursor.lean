import Manuscript.Fault

/-!
A place in a YAML text: what follows, and the line and column reached. A line ends at a line feed,
a carriage return (with or without a line feed), a next-line character, or a line or paragraph
separator.
-/

namespace Manuscript.Yaml

/-- Why a text has no value: it is not well formed, or a scalar denotes nothing. -/
inductive Problem where
  | malformed
  | breakdown (b : Breakdown)
  deriving DecidableEq

abbrev Reading (α : Type) := Except Problem α

/-- Gives up on a text that is not well formed. -/
def malformed : Reading α := .error .malformed

namespace Reading

theorem bind_eq_ok {x : Reading α} {f : α → Reading β} {b : β} :
    x >>= f = .ok b ↔ ∃ a, x = .ok a ∧ f a = .ok b := by
  cases x <;> simp [bind, Except.bind]

end Reading

def isBreak (c : Char) : Bool :=
  c == '\n' || c == '\r' || c.toNat == 0x85 || c.toNat == 0x2028 || c.toNat == 0x2029

/-- Whether a character separates words: a blank, a tab or the end of a line. -/
def isGap (c : Char) : Bool := c == ' ' || c == '\t' || isBreak c

def isMark (c : Char) : Bool := c.toNat == 0xFEFF

/-- A place in a text. -/
structure Cursor where
  rest : List Char
  index : Nat := 0
  line : Nat := 0
  column : Nat := 0

namespace Cursor

def peek (c : Cursor) : Option Char := c.rest.head?

def ahead (c : Cursor) (n : Nat) : Option Char := c.rest[n]?

/-- Whether the next character satisfies `p`; the end of the text does not. -/
def sees (c : Cursor) (p : Char → Bool) : Bool := c.peek.any p

def atLineEnd (c : Cursor) : Bool := !(c.sees fun x => !isBreak x)

/-- Passes over one character. A carriage return counts as the end of a line unless a line feed
follows. -/
def step (c : Cursor) : Cursor :=
  match c.rest with
  | [] => c
  | '\r' :: '\n' :: more =>
    { rest := '\n' :: more, index := c.index + 1, line := c.line, column := c.column + 1 }
  | x :: more =>
    if isBreak x then { rest := more, index := c.index + 1, line := c.line + 1, column := 0 }
    else
      { rest := more, index := c.index + 1, line := c.line
        column := if isMark x then c.column else c.column + 1 }

def advance (c : Cursor) : Nat → Cursor
  | 0 => c
  | n + 1 => c.step.advance n

def run (c : Cursor) (p : Char → Bool) : List Char × Cursor :=
  let taken := c.rest.takeWhile p
  (taken, c.advance taken.length)

def skip (c : Cursor) (p : Char → Bool) : Cursor := (c.run p).2

/-- Passes over the end of a line. All line ends but the two separators read as a line feed. -/
def lineBreak? (c : Cursor) : Option (Char × Cursor) :=
  match c.rest with
  | '\r' :: '\n' :: _ => some ('\n', c.advance 2)
  | x :: _ =>
    if x.toNat = 0x2028 || x.toNat = 0x2029 then some (x, c.step)
    else if isBreak x then some ('\n', c.step)
    else none
  | [] => none

def passBreak (c : Cursor) : List Char × Cursor :=
  match c.lineBreak? with
  | some (b, next) => ([b], next)
  | none => ([], c)

def skipComment (c : Cursor) : Cursor :=
  let c := c.skip (· == ' ')
  if c.sees (· == '#') then c.skip (!isBreak ·) else c

/-- Whether three equal characters that separate documents, and then a gap or the end, stand
here. -/
def atSeparator (c : Cursor) : Bool :=
  match c.rest with
  | '-' :: '-' :: '-' :: more => !(more.head?.any fun x => !isGap x)
  | '.' :: '.' :: '.' :: more => !(more.head?.any fun x => !isGap x)
  | _ => false

def indentTo (c : Cursor) (column : Nat) : Cursor :=
  let blanks := (c.rest.takeWhile (· == ' ')).length
  c.advance (min blanks (column - c.column))

end Cursor

end Manuscript.Yaml
