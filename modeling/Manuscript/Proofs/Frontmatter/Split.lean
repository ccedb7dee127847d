import Manuscript.Frontmatter.Split
import Mathlib.Data.List.Basic

/-!
# Splitting off a metadata block

A block that is written between two lines of its delimiter is split off again, whatever follows, if
it ends in a line boundary and none of its lines closes it (`split?_written`). Its lines do not run
into the lines after them (`lines_append_of_endsLine`), and the other way round, lines next to each
other are those of the text that they make up (`lines_flatten_of_lines_eq_append`).

A `FrontBlock` is such a block whose lines end in line feeds.
-/

namespace Manuscript

namespace Text

/-! ### Lines put together -/

/-- Whether a text is empty or ends in a line boundary. -/
def endsLine (cs : List Char) : Bool := cs.getLast?.all isLineEnd

variable {c : Char} {cs : List Char}

theorem endsLine_of_cons (h : endsLine (c :: cs) = true) : endsLine cs = true := by
  cases cs with
  | nil => rfl
  | cons d cs => rwa [endsLine, List.getLast?_cons_cons] at h

theorem lines_cons_of_isLineEnd {c : Char} (h : isLineEnd c = true) {cs : List Char}
    (hpair : ∀ rest, c = '\r' → cs ≠ '\n' :: rest) : lines (c :: cs) = [c] :: lines cs :=
  (lines.eq_3 c cs hpair).trans (if_pos h)

theorem lines_cons_of_not_isLineEnd {c : Char} (h : ¬ isLineEnd c = true) (cs : List Char) :
    lines (c :: cs) = match lines cs with
      | [] => [[c]]
      | l :: ls => (c :: l) :: ls := by
  have hpair : ∀ rest, c = '\r' → cs ≠ '\n' :: rest := by
    rintro rest rfl
    exact absurd rfl h
  exact (lines.eq_3 c cs hpair).trans (if_neg h)

/-- **Lines that are ended do not run into the lines after them**, unless the end of one and the
start of the other make a pair. -/
theorem lines_append_of_endsLine {xs ys : List Char} (h : endsLine xs = true)
    (hpair : xs.getLast? = some '\r' → ys.head? ≠ some '\n') :
    lines (xs ++ ys) = lines xs ++ lines ys := by
  have tail : ∀ {c : Char} {cs : List Char}, endsLine (c :: cs) = true →
      ((c :: cs).getLast? = some '\r' → ys.head? ≠ some '\n') →
      endsLine cs = true ∧ (cs.getLast? = some '\r' → ys.head? ≠ some '\n') := by
    intro c cs hends hpair
    refine ⟨endsLine_of_cons hends, fun hlast => hpair ?_⟩
    cases cs with
    | nil => cases hlast
    | cons d cs => rwa [List.getLast?_cons_cons]
  fun_induction lines xs with
  | case1 => rfl
  | case2 rest ih =>
    obtain ⟨hfeed, hfeedPair⟩ := tail h hpair
    obtain ⟨hrest, hrestPair⟩ := tail hfeed hfeedPair
    rw [List.cons_append, List.cons_append, lines, ih hrest hrestPair, List.cons_append]
  | case3 c rest hsame hend ih =>
    obtain ⟨hrest, hrestPair⟩ := tail h hpair
    rw [List.cons_append, lines_cons_of_isLineEnd hend, ih hrest hrestPair, List.cons_append]
    rintro more rfl heq
    cases rest with
    | nil => exact hpair rfl (congrArg List.head? heq)
    | cons d rest =>
      obtain ⟨rfl, -⟩ := List.cons.inj heq
      exact hsame rest rfl rfl
  | case4 c rest hsame hend hnil ih =>
    -- there is no line that the character could belong to
    obtain rfl : rest = [] := by rw [← flatten_lines rest, hnil, List.flatten_nil]
    exact absurd h hend
  | case5 c rest hsame hend l ls hcons ih =>
    obtain ⟨hrest, hrestPair⟩ := tail h hpair
    rw [List.cons_append, lines_cons_of_not_isLineEnd hend, ih hrest hrestPair, hcons]
    rfl

/-- **Lines next to each other are the lines of the text that they make up.** -/
theorem lines_flatten_of_lines_eq_append {before after : List (List Char)}
    (h : lines cs = before ++ after) :
    lines before.flatten = before ∧ lines after.flatten = after := by
  fun_induction lines cs generalizing before after with
  | case1 =>
    obtain ⟨rfl, rfl⟩ := List.append_eq_nil_iff.mp h.symm
    exact ⟨rfl, rfl⟩
  | case2 rest ih =>
    obtain ⟨rfl, rfl⟩ | ⟨before, rfl, hrest⟩ := List.cons_eq_append_iff.mp h
    · refine ⟨rfl, ?_⟩
      rw [List.flatten_cons, flatten_lines]
      rfl
    · obtain ⟨hbefore, hafter⟩ := ih hrest
      refine ⟨?_, hafter⟩
      show lines ('\r' :: '\n' :: before.flatten) = _
      rw [lines, hbefore]
  | case3 c rest hsame hend ih =>
    obtain ⟨rfl, rfl⟩ | ⟨before, rfl, hrest⟩ := List.cons_eq_append_iff.mp h
    · refine ⟨rfl, ?_⟩
      rw [List.flatten_cons, flatten_lines]
      exact lines_cons_of_isLineEnd hend hsame
    · obtain ⟨hbefore, hafter⟩ := ih hrest
      refine ⟨?_, hafter⟩
      have hwhole : before.flatten ++ after.flatten = rest := by
        rw [← List.flatten_append, ← hrest, flatten_lines]
      show lines (c :: before.flatten) = _
      rw [lines_cons_of_isLineEnd hend, hbefore]
      -- a line feed at the start would make a pair with the carriage return
      rintro more rfl hfeed
      exact hsame (more ++ after.flatten) rfl (by rw [← hwhole, hfeed, List.cons_append])
  | case4 c rest hsame hend hnil ih =>
    obtain ⟨rfl, rfl⟩ | ⟨before, rfl, hrest⟩ := List.cons_eq_append_iff.mp h
    · refine ⟨rfl, ?_⟩
      show lines [c] = _
      rw [lines_cons_of_not_isLineEnd hend]
      rfl
    · obtain ⟨rfl, rfl⟩ := List.append_eq_nil_iff.mp hrest.symm
      refine ⟨?_, rfl⟩
      show lines [c] = _
      rw [lines_cons_of_not_isLineEnd hend]
      rfl
  | case5 c rest hsame hend l ls hcons ih =>
    obtain ⟨rfl, rfl⟩ | ⟨before, rfl, hrest⟩ := List.cons_eq_append_iff.mp h
    · have hrest : (l :: ls).flatten = rest := by rw [← hcons, flatten_lines]
      refine ⟨rfl, ?_⟩
      show lines (c :: (l :: ls).flatten) = _
      rw [hrest, lines_cons_of_not_isLineEnd hend, hcons]
    · have hlines : lines rest = (l :: before) ++ after := by rw [hcons, hrest, List.cons_append]
      obtain ⟨hbefore, hafter⟩ := ih hlines
      refine ⟨?_, hafter⟩
      show lines (c :: (l :: before).flatten) = _
      rw [lines_cons_of_not_isLineEnd hend, hbefore]

/-- A text whose last line, if it has one, is ended by a line feed. -/
def Ended (cs : List Char) : Prop := cs = [] ∨ cs.getLast? = some '\n'

instance : DecidablePred Ended := fun cs =>
  inferInstanceAs (Decidable (cs = [] ∨ cs.getLast? = some '\n'))

theorem Ended.endsLine (h : Ended cs) : Text.endsLine cs = true := by
  rcases h with rfl | h
  · rfl
  · rw [Text.endsLine, h]
    rfl

end Text

namespace Frontmatter

/-! ### Blocks between delimiters -/

theorem breakAt?_append {p : List Char → Bool} {inside after : List (List Char)} {l : List Char}
    (h : ∀ x ∈ inside, p x = false) (hl : p l = true) :
    breakAt? p (inside ++ l :: after) = some (inside, after) := by
  induction inside with
  | nil => rw [List.nil_append, breakAt?, if_pos hl]
  | cons x inside ih =>
    have hx : ¬ p x = true := by simp [h x List.mem_cons_self]
    rw [List.cons_append, breakAt?, if_neg hx, ih fun y hy => h y (List.mem_cons_of_mem _ hy)]
    rfl

theorem breakAt?_eq_some_iff {p : List Char → Bool} {ls inside after : List (List Char)} :
    breakAt? p ls = some (inside, after) ↔
      ∃ l, ls = inside ++ l :: after ∧ p l = true ∧ ∀ x ∈ inside, p x = false := by
  constructor
  · intro h
    induction ls generalizing inside with
    | nil => cases h
    | cons x ls ih =>
      rw [breakAt?] at h
      split at h
      · rename_i hx
        cases h
        exact ⟨x, rfl, hx, by simp⟩
      · rename_i hx
        obtain ⟨⟨inner, _⟩, hbreak, heq⟩ := Option.map_eq_some_iff.mp h
        cases heq
        obtain ⟨l, rfl, hl, hinner⟩ := ih hbreak
        exact ⟨l, rfl, hl, List.forall_mem_cons.mpr ⟨eq_false_of_ne_true hx, hinner⟩⟩
  · rintro ⟨l, rfl, hl, hinside⟩
    exact breakAt?_append hinside hl

theorem breakAt?_eq_none_iff {p : List Char → Bool} {ls : List (List Char)} :
    breakAt? p ls = none ↔ ∀ l ∈ ls, p l = false := by
  induction ls with
  | nil => simp [breakAt?]
  | cons l ls ih =>
    rw [breakAt?, List.forall_mem_cons]
    cases hl : p l with
    | true => simp
    | false => simp [ih]

def edgeOf (delimiter : String) : List Char := delimiter.toList ++ ['\n']

theorem toList_written (delimiter block rest : String) :
    (delimiter ++ "\n" ++ block ++ delimiter ++ "\n" ++ rest).toList =
      edgeOf delimiter ++ (block.toList ++ (edgeOf delimiter ++ rest.toList)) := by
  simp [edgeOf]

theorem edgeOf_facts {delimiter format : String} (known : (delimiter, format) ∈ delimiters) :
    Text.lines (edgeOf delimiter) = [edgeOf delimiter] ∧
      withoutBreak (edgeOf delimiter) = delimiter.toList ∧
      closes delimiter.toList (edgeOf delimiter) = true ∧
      (edgeOf delimiter).head? ≠ some '\n' ∧ delimiters.lookup delimiter = some format := by
  have hall : ∀ d ∈ delimiters, Text.lines (edgeOf d.1) = [edgeOf d.1] ∧
      withoutBreak (edgeOf d.1) = d.1.toList ∧ closes d.1.toList (edgeOf d.1) = true ∧
      (edgeOf d.1).head? ≠ some '\n' ∧ delimiters.lookup d.1 = some d.2 := by
    decide
  exact hall _ known

section Written

variable {delimiter format block : String} (known : (delimiter, format) ∈ delimiters)
  (ends : Text.endsLine block.toList = true)
include known ends

theorem lines_written (rest : String) :
    Text.lines (delimiter ++ "\n" ++ block ++ delimiter ++ "\n" ++ rest).toList =
      edgeOf delimiter ::
        (Text.lines block.toList ++ edgeOf delimiter :: Text.lines rest.toList) := by
  obtain ⟨hlines, -, -, hhead, -⟩ := edgeOf_facts known
  have hedge : ∀ ys, Text.lines (edgeOf delimiter ++ ys) = edgeOf delimiter :: Text.lines ys := by
    intro ys
    have hlast : (edgeOf delimiter).getLast? = some '\n' := List.getLast?_concat
    rw [Text.lines_append_of_endsLine, hlines]
    · rfl
    · rw [Text.endsLine, hlast]
      rfl
    · rw [hlast]
      intro hreturn
      cases hreturn
  rw [toList_written, hedge, Text.lines_append_of_endsLine ends, hedge]
  intro _
  rwa [List.head?_append_of_ne_nil _ (by simp [edgeOf])]

/-- **A block between two lines of its delimiter is split off again**, whatever follows. -/
theorem split?_written (unclosed : ∀ l ∈ Text.lines block.toList, closes delimiter.toList l = false)
    (rest : String) : split? delimiters (delimiter ++ "\n" ++ block ++ delimiter ++ "\n" ++ rest) =
      some ⟨format, block, rest⟩ := by
  obtain ⟨-, hopening, hcloses, -, hformat⟩ := edgeOf_facts known
  unfold split?
  rw [lines_written known ends]
  dsimp only
  rw [hopening, String.ofList_toList, hformat]
  dsimp only
  rw [breakAt?_append unclosed hcloses, Option.map_some, Text.flatten_lines, Text.flatten_lines,
    String.ofList_toList, String.ofList_toList]

end Written

/-- **A metadata block as it is written**: between two lines of its delimiter, lines of which none
closes it and the last is ended. -/
structure FrontBlock where
  delimiter : String
  format : String
  known : (delimiter, format) ∈ delimiters
  block : String
  ended : Text.Ended block.toList
  unclosed : ∀ l ∈ Text.lines block.toList, closes delimiter.toList l = false

namespace FrontBlock

variable (F : FrontBlock)

/-- The text of a block, its delimiters included. -/
def text : String := F.delimiter ++ "\n" ++ F.block ++ F.delimiter ++ "\n"

theorem toList_text_append (rest : String) : (F.text ++ rest).toList =
    edgeOf F.delimiter ++ (F.block.toList ++ (edgeOf F.delimiter ++ rest.toList)) :=
  toList_written F.delimiter F.block rest

/-- **A text that starts with a metadata block is split right behind it.** -/
theorem split?_frontBlock (rest : String) :
    split? delimiters (F.text ++ rest) = some ⟨F.format, F.block, rest⟩ :=
  split?_written F.known F.ended.endsLine F.unclosed rest

end FrontBlock

end Frontmatter

end Manuscript
