import Manuscript.Text.Word

/-!
A template is LaTeX text with placeholders, a name of word characters between two percent signs. One
pass from left to right cuts a template into segments; a percent sign that opens no placeholder is
text.
-/

namespace Manuscript.Template

/-- A piece of a template. -/
inductive Segment where
  | literal (text : List Char)
  | placeholder (name : List Char)
  deriving DecidableEq

/-- The name of the placeholder whose opening percent sign stands just before a text, and what
follows its closing one. -/
def nameAt? (cs : List Char) : Option (List Char × List Char) :=
  match cs.takeWhile Text.isWordChar, cs.dropWhile Text.isWordChar with
  | [], _ => none
  | name, '%' :: rest => some (name, rest)
  | _, _ => none

theorem length_of_nameAt? {cs name rest : List Char} (h : nameAt? cs = some (name, rest)) :
    rest.length < cs.length := by
  unfold nameAt? at h
  split at h
  · simp at h
  · rename_i heq _
    simp only [Option.some.injEq, Prod.mk.injEq] at h
    have := (List.dropWhile_suffix (l := cs) Text.isWordChar).length_le
    rw [heq] at this
    simp only [List.length_cons, h.2] at this
    omega
  · simp at h

/-- Puts a character in front of the segments, joining it to a literal that comes first. -/
def consLiteral (c : Char) : List Segment → List Segment
  | .literal t :: rest => .literal (c :: t) :: rest
  | segments => .literal [c] :: segments

/-- The segments of a template. -/
def segments (cs : List Char) : List Segment :=
  match cs with
  | [] => []
  | c :: rest =>
    if c = '%' then
      match _h : nameAt? rest with
      | some (name, after) => .placeholder name :: segments after
      | none => consLiteral c (segments rest)
    else consLiteral c (segments rest)
termination_by cs.length
decreasing_by
  · have := length_of_nameAt? _h; simp; omega
  · simp
  · simp

def Segment.name? : Segment → Option String
  | .placeholder name => some (String.ofList name)
  | .literal _ => none

/-- The first occurrences of the elements of a list. -/
def distinct (names : List String) : List String :=
  names.foldl (fun seen n => if seen.contains n then seen else seen ++ [n]) []

/-- The names of the placeholders of a template, in the order in which they first appear. -/
def placeholders (template : String) : List String :=
  distinct ((segments template.toList).filterMap Segment.name?)

end Manuscript.Template
