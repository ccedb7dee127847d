import Manuscript.Text.Blank
import Mathlib.Data.List.DropRight

/-!
# The ends of a text

What is dropped from the start or the end of a text as long as it satisfies a predicate, and what is
left then. There is one way to strip a text of the white space around it, and trimming does it
(`stripped_trim`, `Stripped.trim_eq`).
-/

namespace Manuscript.Text

variable {p : Char → Bool} {cs text : List Char}

/-! ### Dropping from the ends -/

theorem dropWhile_eq_self (h : ∀ c ∈ cs.head?, p c = false) : cs.dropWhile p = cs := by
  cases cs with
  | nil => rfl
  | cons c cs => rw [List.dropWhile_cons_of_neg (by simp [h c rfl])]

theorem head?_dropWhile (p : Char → Bool) (cs : List Char) :
    ∀ c ∈ (cs.dropWhile p).head?, p c = false := by
  intro c hc
  have hnot := List.head?_dropWhile_not p cs
  rwa [Option.mem_def.mp hc] at hnot

theorem dropEnd_eq_self (h : ∀ c ∈ cs.getLast?, p c = false) : dropEnd p cs = cs := by
  have hreverse : cs.reverse.dropWhile p = cs.reverse := dropWhile_eq_self (by simpa using h)
  rw [dropEnd, hreverse, List.reverse_reverse]

theorem getLast?_dropEnd (p : Char → Bool) (cs : List Char) :
    ∀ c ∈ (dropEnd p cs).getLast?, p c = false := by
  rw [dropEnd, List.getLast?_reverse]
  exact head?_dropWhile p cs.reverse

theorem dropEnd_append_of_pos {after : List Char} (h : ∀ c ∈ after, p c = true) (cs : List Char) :
    dropEnd p (cs ++ after) = dropEnd p cs := by
  rw [dropEnd, List.reverse_append, List.dropWhile_append_of_pos (by simpa using h), ← dropEnd]

theorem exists_dropEnd_append (p : Char → Bool) (cs : List Char) :
    ∃ after, cs = dropEnd p cs ++ after ∧ ∀ c ∈ after, p c = true :=
  ⟨cs.rtakeWhile p, List.rdropWhile_append_rtakeWhile.symm, fun _ => List.mem_rtakeWhile_imp⟩

/-! ### White space around a text -/

/-- **A text without the white space around it.** -/
structure Stripped (cs text : List Char) : Prop where
  around : ∃ before after, cs = before ++ (text ++ after) ∧
    (∀ c ∈ before, isBlank c = true) ∧ ∀ c ∈ after, isBlank c = true
  starts : ∀ c ∈ text.head?, isBlank c = false
  ends : ∀ c ∈ text.getLast?, isBlank c = false

theorem stripped_trim (cs : List Char) : Stripped cs (trim cs) := by
  obtain ⟨after, hafter, hblank⟩ := exists_dropEnd_append isBlank (cs.dropWhile isBlank)
  refine ⟨⟨cs.takeWhile isBlank, after, ?_, fun c hc => List.mem_takeWhile_imp hc, hblank⟩, ?_, ?_⟩
  · rw [trim, trimBoth, ← hafter, List.takeWhile_append_dropWhile]
  · intro c hc
    refine head?_dropWhile isBlank cs c ?_
    rw [hafter, List.head?_append]
    simp only [Option.mem_def] at hc ⊢
    rw [show dropEnd isBlank (cs.dropWhile isBlank) = trim cs from rfl, hc, Option.some_or]
  · exact getLast?_dropEnd isBlank _

/-- There is one way to strip a text. -/
theorem Stripped.trim_eq (h : Stripped cs text) : trim cs = text := by
  obtain ⟨⟨before, after, rfl, hbefore, hafter⟩, hstarts, hends⟩ := h
  rw [trim, trimBoth, List.dropWhile_append_of_pos hbefore]
  cases text with
  | nil =>
    have hnil : after.dropWhile isBlank = [] := List.dropWhile_eq_nil_iff.mpr hafter
    rw [List.nil_append, hnil]
    rfl
  | cons c text =>
    rw [dropWhile_eq_self (by simpa using hstarts), dropEnd_append_of_pos hafter,
      dropEnd_eq_self hends]

/-! ### The final line feed -/

/-- The text without the line feed at its end, if it has one. -/
def unended (s : String) : String :=
  if s.toList.getLast? = some '\n' then String.ofList s.toList.dropLast else s

end Manuscript.Text
