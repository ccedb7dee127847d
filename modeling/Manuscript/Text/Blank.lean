/-!
Blank characters, and the operations that trim by them. "Blank" is white space of every script,
the four information separators (`U+001C` to `U+001F`) included.
-/

namespace Manuscript.Text

def isBlank (c : Char) : Bool :=
  let n := c.toNat
  (9 ≤ n && n ≤ 13) || (28 ≤ n && n ≤ 32) || n == 133 || n == 160 || n == 5760 ||
    (8192 ≤ n && n ≤ 8202) || n == 8232 || n == 8233 || n == 8239 || n == 8287 || n == 12288

/-- Drops the longest end of the list that satisfies `p`. -/
def dropEnd (p : Char → Bool) (cs : List Char) : List Char := (cs.reverse.dropWhile p).reverse

/-- Drops what satisfies `p` from both ends. -/
def trimBoth (p : Char → Bool) (cs : List Char) : List Char := dropEnd p (cs.dropWhile p)

def trim (cs : List Char) : List Char := trimBoth isBlank cs

def trimRight (cs : List Char) : List Char := dropEnd isBlank cs

def trimmed (s : String) : String := String.ofList (trim s.toList)

/-- Whether a text is empty or holds white space only. -/
def allBlank (s : String) : Bool := s.toList.all isBlank

/-- The runs of characters that are not white space. -/
def words (cs : List Char) : List (List Char) :=
  let step (c : Char) (acc : List Char × List (List Char)) : List Char × List (List Char) :=
    if isBlank c then ([], if acc.1.isEmpty then acc.2 else acc.1 :: acc.2)
    else (c :: acc.1, acc.2)
  let last := cs.foldr step ([], [])
  if last.1.isEmpty then last.2 else last.1 :: last.2

end Manuscript.Text
