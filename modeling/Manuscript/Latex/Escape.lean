/-!
Escaping of the ten characters that have a meaning of their own in LaTeX text.
-/

namespace Manuscript.Latex

/-- What stands for a character in escaped text. -/
def escapeChar (c : Char) : List Char :=
  if c = '\\' then "\\textbackslash\x7b\x7d".toList
  else if c = '~' then "\\textasciitilde\x7b\x7d".toList
  else if c = '^' then "\\textasciicircum\x7b\x7d".toList
  else if c = '\x7b' || c = '\x7d' || c = '$' || c = '%' || c = '&' || c = '#' || c = '_' then
    ['\\', c]
  else [c]

/-- The escaped form of a text. -/
def escape (s : String) : String := String.ofList (s.toList.flatMap escapeChar)

end Manuscript.Latex
