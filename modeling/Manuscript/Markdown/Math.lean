import Manuscript.Markdown.Html

/-!
Formulas between dollar signs: two signs set off a block, one sign an inline formula.
-/

namespace Manuscript.Markdown

/-- The text before the first two dollar signs, and the text after them. -/
def untilTwoSigns (cs : List Char) : Option (List Char × List Char) :=
  match cs with
  | [] => none
  | '$' :: '$' :: rest => some ([], rest)
  | c :: rest => (untilTwoSigns rest).map fun (f, after) => (c :: f, after)

/-- A block of mathematics: its formula, and the lines after it. Nothing may follow it on its line.
-/
def mathBlock? (ls : List Line) : Option (List Char × List Line) := do
  let first ← ls.head?
  match ← afterIndent? 3 first with
  | '$' :: '$' :: _ =>
    let (formula, rest) ← untilTwoSigns (ls.flatten.drop (spaces first + 2))
    match rest.dropWhile isSpace with
    | [] => some (Text.trim formula, [])
    | '\n' :: after => some (Text.trim formula, linesOf after)
    | _ => none
  | _ => none

/-- An inline formula between pairs of dollar signs, after the first pair. -/
def doubleFormula? (cs : List Char) : Option (List Char × List Char) :=
  match untilTwoSigns cs with
  | some ([], _) | none => none
  | found => found

/-- The text before the next dollar sign on the line; a backslash keeps the character after it. -/
def untilSign : List Char → Option (List Char × List Char)
  | [] => none
  | '$' :: rest => some ([], rest)
  | '\\' :: c :: rest =>
    if c = '\n' then none else (untilSign rest).map fun (f, after) => ('\\' :: c :: f, after)
  | c :: rest =>
    if c = '\n' || c = '\\' then none else (untilSign rest).map fun (f, after) => (c :: f, after)

/-- Drops the backticks around a formula. -/
def dropTicks (formula : List Char) : List Char :=
  match formula with
  | a :: rest =>
    match rest.reverse with
    | b :: inner =>
      if a.toNat = 96 && b.toNat = 96 && !inner.isEmpty then inner.reverse else formula
    | [] => formula
  | [] => []

/-- An inline formula after its opening dollar sign. It does not start with white space, and no
digit follows its closing sign. -/
def formula? (cs : List Char) : Option (List Char × List Char) := do
  if cs.head?.any Text.isBlank then none
  let (formula, rest) ← untilSign cs
  if formula.isEmpty || rest.head?.any Char.isDigit then none
  else some (dropTicks formula, rest)

end Manuscript.Markdown
