import Manuscript.Proofs.Latex.Nesting
import Mathlib.Data.List.Infix

/-!
# Reading tables back

The inside of a table is read from left to right as LaTeX reads it (`readTable`): two backslashes
end a row, an ampersand ends a cell, and a backslash goes with the character after it. What is
written for a row is read as the cells of that row, whatever follows (`readTable_row`), so rows with
two backslashes between them are read as these rows (`readTable_rows`). The rule in front of the
second row is read as the start of its first cell. Without it, the table holds what it was made of
(`table_decodable`).

A backslash in the content is written as it is. It must not come to stand before what is written for
another character with a meaning, or before the end of a row (`EscapesText`).
-/

namespace Manuscript

/-! ### Pieces of a text -/

namespace Text

variable {sep c : Char} {cs piece : List Char}

theorem splitAt_sep (cs : List Char) : splitAt sep (sep :: cs) = [] :: splitAt sep cs := by
  rw [splitAt, if_pos rfl]

theorem splitAt_ne_nil (sep : Char) (cs : List Char) : splitAt sep cs ≠ [] := by
  cases cs with
  | nil => simp [splitAt]
  | cons c cs =>
    rw [splitAt]
    split
    · simp
    · split <;> simp

theorem splitAt_cons (h : c ≠ sep) (cs : List Char) :
    splitAt sep (c :: cs) = (splitAt sep cs).modifyHead (c :: ·) := by
  rw [splitAt, if_neg h]
  cases hpieces : splitAt sep cs with
  | nil => exact absurd hpieces (splitAt_ne_nil sep cs)
  | cons p ps => rfl

/-- The first piece starts as the text does, unless that is with a separator. -/
theorem mem_head?_of_splitAt {pieces : List (List Char)} (h : splitAt sep cs = piece :: pieces)
    (hc : c ∈ cs.head?) (hne : c ≠ sep) : c ∈ piece.head? := by
  obtain ⟨rest, rfl⟩ := List.head?_eq_some_iff.mp hc
  rw [splitAt_cons hne] at h
  cases hpieces : splitAt sep rest with
  | nil => exact absurd hpieces (splitAt_ne_nil sep rest)
  | cons p ps =>
    rw [hpieces] at h
    obtain ⟨rfl, -⟩ := List.cons.inj h
    rfl

/-- A separator is in no piece. -/
theorem not_mem_of_mem_splitAt (h : piece ∈ splitAt sep cs) : sep ∉ piece := by
  induction cs generalizing piece with
  | nil => simp_all [splitAt]
  | cons c cs ih =>
    by_cases hc : c = sep
    · rw [hc, splitAt_sep] at h
      rcases List.mem_cons.mp h with rfl | h
      · exact List.not_mem_nil
      · exact ih h
    · rw [splitAt_cons hc] at h
      cases hpieces : splitAt sep cs with
      | nil => exact absurd hpieces (splitAt_ne_nil sep cs)
      | cons p ps =>
        rw [hpieces] at h ih
        rcases List.mem_cons.mp h with rfl | h
        · exact List.mem_cons.not.mpr (not_or.mpr ⟨Ne.symm hc, ih List.mem_cons_self⟩)
        · exact ih (List.mem_cons_of_mem _ h)

theorem splitAt_append {start : List Char} (h : sep ∉ start) (cs : List Char) :
    splitAt sep (start ++ cs) = (splitAt sep cs).modifyHead (start ++ ·) := by
  induction start with
  | nil =>
    show splitAt sep cs = (splitAt sep cs).modifyHead fun piece => piece
    cases splitAt sep cs <;> rfl
  | cons c start ih =>
    have hc : c ≠ sep := (List.ne_of_not_mem_cons h).symm
    rw [List.cons_append, splitAt_cons hc, ih (List.not_mem_of_not_mem_cons h)]
    cases splitAt sep cs <;> rfl

end Text

namespace Latex

open Text (splitAt)

/-! ### Reading a table -/

/-- Puts a character in front of the first cell. -/
def consChar (c : Char) (rows : List (List (List Char))) : List (List (List Char)) :=
  rows.modifyHead fun cells => cells.modifyHead (c :: ·)

/-- Puts an empty cell in front of the first row. -/
def consCell (rows : List (List (List Char))) : List (List (List Char)) :=
  rows.modifyHead ([] :: ·)

/-- **The inside of a table as LaTeX reads it**, as rows of cells. Two backslashes end a row, a
backslash makes an ampersand a character of the cell, and any other character after a backslash is
kept with it. An ampersand on its own ends a cell. -/
def readTable : List Char → List (List (List Char))
  | [] => [[[]]]
  | '\\' :: '\\' :: rest => [[]] :: readTable rest
  | '\\' :: '&' :: rest => consChar '&' (readTable rest)
  | '\\' :: c :: rest => consChar '\\' (consChar c (readTable rest))
  | '&' :: rest => consCell (readTable rest)
  | c :: rest => consChar c (readTable rest)

/-- The rule between the first row and the second. -/
def rule : List Char := ['\\', 'h', 'l', 'i', 'n', 'e', '\n']

/-- The rows of a table without the rule in front of the second one, if it is there. -/
def dropRule : List (List (List Char)) → List (List (List Char))
  | first :: (cell :: cells) :: rest =>
    first :: ((List.dropPrefix? cell rule).getD cell :: cells) :: rest
  | rows => rows

variable {c : Char} {rest : List Char}

theorem readTable_cons (hslash : c ≠ '\\') (hmark : c ≠ '&') (rest : List Char) :
    readTable (c :: rest) = consChar c (readTable rest) := by
  rw [readTable]
  all_goals grind

/-- A backslash stays with a character that has no meaning of its own. -/
theorem readTable_slash {cs : List Char} (h : ∃ c ∈ cs.head?, c ≠ '\\' ∧ c ≠ '&') :
    readTable ('\\' :: cs) = consChar '\\' (readTable cs) := by
  obtain ⟨c, hc, hslash, hmark⟩ := h
  obtain ⟨rest, rfl⟩ := List.head?_eq_some_iff.mp hc
  rw [readTable_cons hslash hmark, readTable]
  all_goals grind

/-! ### Rows -/

/-- **Every backslash of a text escapes a character of it** that has no meaning in a table: it is
not the last character, and the next one is no backslash, ampersand, comma or line feed. -/
def EscapesText (cs : List Char) : Prop :=
  ∀ t ∈ cs.tails, t.head? = some '\\' → ∃ d ∈ t.tail.head?, d ∉ ['\\', '&', ',', '\n']

instance : DecidablePred EscapesText := fun cs =>
  inferInstanceAs (Decidable (∀ t ∈ cs.tails, t.head? = some '\\' →
    ∃ d ∈ t.tail.head?, d ∉ ['\\', '&', ',', '\n']))

variable {cs line : List Char} {lines : List (List Char)}

theorem escapesText_nil : EscapesText [] := by decide

theorem escapesText_cons_iff : EscapesText (c :: cs) ↔
    (c = '\\' → ∃ d ∈ cs.head?, d ∉ ['\\', '&', ',', '\n']) ∧ EscapesText cs := by
  unfold EscapesText
  rw [List.tails_cons, List.forall_mem_cons, List.head?_cons, Option.some.injEq, List.tail_cons]

theorem EscapesText.of_mem_splitAt (h : EscapesText cs) (hline : line ∈ splitAt '\n' cs) :
    EscapesText line := by
  induction cs generalizing line with
  | nil =>
    obtain rfl : line = [] := by simpa [splitAt] using hline
    exact escapesText_nil
  | cons c cs ih =>
    obtain ⟨hslash, hrest⟩ := escapesText_cons_iff.mp h
    by_cases hc : c = '\n'
    · rw [hc, Text.splitAt_sep] at hline
      rcases List.mem_cons.mp hline with rfl | hline
      · exact escapesText_nil
      · exact ih hrest hline
    · rw [Text.splitAt_cons hc] at hline
      cases hlines : splitAt '\n' cs with
      | nil => exact absurd hlines (Text.splitAt_ne_nil _ _)
      | cons first others =>
        rw [hlines] at hline ih
        rcases List.mem_cons.mp hline with rfl | hline
        · -- the escaped character is no line feed, so it is in the same line
          refine escapesText_cons_iff.mpr ⟨fun heq => ?_, ih hrest List.mem_cons_self⟩
          obtain ⟨d, hd, hmeaning⟩ := hslash heq
          have hne : d ≠ '\n' := fun h => hmeaning (by simp [h])
          exact ⟨d, Text.mem_head?_of_splitAt hlines hd hne, hmeaning⟩
        · exact ih hrest (List.mem_cons_of_mem _ hline)

def place (c : Char) (rows : List (List (List Char))) : List (List (List Char)) :=
  if c = ',' then consCell rows else consChar c rows

/-- **What is written for a row is read character by character**, whatever follows. -/
theorem readTable_row (h : EscapesText line) (rest : List Char) :
    readTable (line.flatMap cellChar ++ rest) = line.foldr place (readTable rest) := by
  induction line with
  | nil => rfl
  | cons c line ih =>
    obtain ⟨hslash, hline⟩ := escapesText_cons_iff.mp h
    rw [List.flatMap_cons, List.append_assoc, List.foldr_cons, ← ih hline, place]
    by_cases hmark : c = '&'
    · subst hmark
      rfl
    · by_cases hcomma : c = ','
      · subst hcomma
        rfl
      · have hchar : cellChar c = [c] := by rw [cellChar, if_neg hmark, if_neg hcomma]
        rw [hchar, List.singleton_append, if_neg hcomma]
        by_cases hc : c = '\\'
        · obtain ⟨d, hd, hmeaning⟩ := hslash hc
          obtain ⟨more, rfl⟩ := List.head?_eq_some_iff.mp hd
          simp only [List.mem_cons, List.not_mem_nil, or_false, not_or] at hmeaning
          obtain ⟨hdslash, hdmark, hdcomma, -⟩ := hmeaning
          subst hc
          refine readTable_slash ⟨d, ?_, hdslash, hdmark⟩
          rw [List.flatMap_cons, cellChar, if_neg hdmark, if_neg hdcomma]
          rfl
        · exact readTable_cons hc hmark _

/-- Before the end of a row, its characters are put into its cells. -/
theorem foldr_place (line : List Char) (rows : List (List (List Char))) :
    line.foldr place ([[]] :: rows) = splitAt ',' line :: rows := by
  induction line with
  | nil => rfl
  | cons c line ih =>
    rw [List.foldr_cons, ih, place]
    by_cases hc : c = ','
    · rw [if_pos hc, hc, Text.splitAt_sep]
      rfl
    · rw [if_neg hc, Text.splitAt_cons hc]
      rfl

/-- **Rows with two backslashes between them are read as these rows**, each as the cells between its
commas. -/
theorem readTable_rows : ∀ {lines : List (List Char)}, lines ≠ [] → (∀ l ∈ lines, EscapesText l) →
    readTable (['\\', '\\'].intercalate (lines.map (List.flatMap cellChar))) =
      lines.map (splitAt ',')
  | [], hne, _ => absurd rfl hne
  | [line], _, h => by
    have hread := readTable_row (h line List.mem_cons_self) []
    rw [List.append_nil] at hread
    rw [List.map_singleton, List.intercalate_singleton, hread, readTable, foldr_place]
    rfl
  | line :: next :: others, _, h => by
    obtain ⟨hline, hothers⟩ := List.forall_mem_cons.mp h
    have hend : ∀ rest, readTable (['\\', '\\'] ++ rest) = [[]] :: readTable rest := fun _ => rfl
    rw [List.map_cons, List.map_cons, List.intercalate_cons_cons, List.append_assoc,
      ← List.map_cons, readTable_row hline, hend,
      readTable_rows (List.cons_ne_nil next others) hothers, foldr_place]
    rfl

/-! ### The rule -/

/-- Lines with the rule in front of the second one. -/
def ruled : List (List Char) → List (List Char)
  | first :: second :: others => first :: (rule ++ second) :: others
  | lines => lines

theorem toList_tableRow (line : List Char) : (tableRow line).toList = line.flatMap cellChar :=
  String.toList_ofList

theorem toList_tableRows (content : String) : (tableRows content).map String.toList =
    (ruled (splitAt '\n' content.toList)).map (List.flatMap cellChar) := by
  have hothers : ∀ lines : List (List Char), (lines.map tableRow).map String.toList =
      lines.map (List.flatMap cellChar) := by
    intro lines
    rw [List.map_map]
    exact List.map_congr_left fun line _ => toList_tableRow line
  unfold tableRows
  rcases splitAt '\n' content.toList with _ | ⟨first, _ | ⟨second, others⟩⟩
  · rfl
  · exact hothers [first]
  · have hrule : ("\\hline\n" ++ tableRow second).toList = (rule ++ second).flatMap cellChar := by
      have hplain : rule.flatMap cellChar = rule := by decide
      rw [String.toList_append, toList_tableRow, List.flatMap_append, hplain]
      rfl
    show (tableRow first).toList :: ("\\hline\n" ++ tableRow second).toList ::
      (others.map tableRow).map String.toList = _
    rw [toList_tableRow, hrule, hothers]
    rfl

theorem escapesText_rule_append (h : EscapesText line) : EscapesText (rule ++ line) := by
  simp [rule, escapesText_cons_iff, h]

theorem escapesText_of_mem_ruled (h : ∀ l ∈ lines, EscapesText l) :
    ∀ l ∈ ruled lines, EscapesText l := by
  rcases lines with _ | ⟨first, _ | ⟨second, others⟩⟩
  · exact h
  · exact h
  · obtain ⟨hfirst, hothers⟩ := List.forall_mem_cons.mp h
    obtain ⟨hsecond, hothers⟩ := List.forall_mem_cons.mp hothers
    exact List.forall_mem_cons.mpr
      ⟨hfirst, List.forall_mem_cons.mpr ⟨escapesText_rule_append hsecond, hothers⟩⟩

theorem ruled_ne_nil (h : lines ≠ []) : ruled lines ≠ [] := by
  rcases lines with _ | ⟨first, _ | ⟨second, others⟩⟩
  · exact h
  · exact h
  · exact List.cons_ne_nil _ _

theorem getElem?_ruled {i : Nat} (hi : i ≠ 1) : (ruled lines)[i]? = lines[i]? := by
  rcases lines with _ | ⟨first, _ | ⟨second, others⟩⟩
  · rfl
  · rfl
  · rcases i with _ | _ | i
    · rfl
    · exact absurd rfl hi
    · rfl

theorem splitAt_rule_append (line : List Char) :
    splitAt ',' (rule ++ line) = (splitAt ',' line).modifyHead (rule ++ ·) :=
  Text.splitAt_append (by decide) line

theorem dropRule_ruled (lines : List (List Char)) :
    dropRule ((ruled lines).map (splitAt ',')) = lines.map (splitAt ',') := by
  rcases lines with _ | ⟨first, _ | ⟨second, others⟩⟩
  · rfl
  · rfl
  · simp only [ruled, List.map_cons, splitAt_rule_append]
    cases hcells : splitAt ',' second with
    | nil => exact absurd hcells (Text.splitAt_ne_nil _ _)
    | cons cell cells =>
      rw [List.modifyHead_cons, dropRule, List.dropPrefix?_append_of_beq _ (beq_self_eq_true rule)]
      rfl

/-! ### Tables -/

/-- What stands before the inside of a table. -/
def tableOpening (alignment : String) : String :=
  "\\begin\x7btable\x7d\\centering\\begin\x7btabular\x7d\x7b" ++ alignment ++ "\x7d"

/-- What stands after the inside of a table. -/
def tableClosing (d : Directive) : String :=
  "\\end\x7btabular\x7d" ++ labelAndCaption d "tab" ++ "\\end\x7btable\x7d"

theorem table_eq (content alignment : String) (d : Directive) : table content alignment d =
    tableOpening alignment ++ "\\\\".intercalate (tableRows content) ++ tableClosing d := by
  have hopening : command "begin" "table" ++ "\\centering" ++ command "begin" "tabular" ++ "\x7b" =
      "\\begin\x7btable\x7d\\centering\\begin\x7btabular\x7d\x7b" := by decide
  have hinner : command "end" "tabular" = "\\end\x7btabular\x7d" := by decide
  have houter : command "end" "table" = "\\end\x7btable\x7d" := by decide
  unfold table tableOpening tableClosing
  rw [← hopening, ← hinner, ← houter]
  -- only the order of appending is left, so the texts need not be looked at
  generalize command "begin" "table" = a
  generalize command "begin" "tabular" = b
  generalize command "end" "tabular" = c
  generalize command "end" "table" = e
  simp only [String.append_assoc]

theorem codeBlock_csv {alignment : String} {d : Directive}
    (halignment : d.alignment = some alignment)
    (hne : alignment ≠ "") (content : String) :
    codeBlock (some "csv") content d = Run.pure (table content alignment d) := by
  have hempty : ¬ alignment.isEmpty = true := by simpa using hne
  simp [codeBlock, halignment, hempty]

theorem readTable_tableRows {content : String} (h : EscapesText content.toList) :
    readTable ("\\\\".intercalate (tableRows content)).toList =
      (ruled (splitAt '\n' content.toList)).map (splitAt ',') := by
  have hlines : ∀ l ∈ splitAt '\n' content.toList, EscapesText l := fun l hl => h.of_mem_splitAt hl
  rw [String.toList_intercalate, toList_tableRows]
  exact readTable_rows (ruled_ne_nil (Text.splitAt_ne_nil _ _)) (escapesText_of_mem_ruled hlines)

/-- **A table can be read back.** If every backslash of its content escapes text, the inside of a
table is read as the lines of the content, each as the cells between its commas, but for a rule in
front of the second row. No other row has one. -/
theorem table_decodable {content alignment : String} {d : Directive}
    (hcontent : EscapesText content.toList) (halignment : d.alignment = some alignment)
    (hne : alignment ≠ "") : ∃ inside : String,
      codeBlock (some "csv") content d =
        Run.pure (tableOpening alignment ++ inside ++ tableClosing d) ∧
      dropRule (readTable inside.toList) =
        (splitAt '\n' content.toList).map (splitAt ',') ∧
      ∀ i, i ≠ 1 → (readTable inside.toList)[i]? =
          ((splitAt '\n' content.toList).map (splitAt ','))[i]? ∧
        ∀ row, (readTable inside.toList)[i]? = some row → ∀ cell ∈ row, ¬ rule <:+: cell := by
  refine ⟨_, (codeBlock_csv halignment hne content).trans (congrArg _ (table_eq _ _ _)), ?_,
    fun i hi => ?_⟩
  · rw [readTable_tableRows hcontent, dropRule_ruled]
  · have hrow : (readTable ("\\\\".intercalate (tableRows content)).toList)[i]? =
        ((splitAt '\n' content.toList).map (splitAt ','))[i]? := by
      rw [readTable_tableRows hcontent, List.getElem?_map, getElem?_ruled hi, List.getElem?_map]
    refine ⟨hrow, fun row hsome cell hcell hinfix => ?_⟩
    rw [hrow, List.getElem?_map] at hsome
    obtain ⟨line, hline, rfl⟩ := Option.map_eq_some_iff.mp hsome
    have hbreak : '\n' ∈ cell := hinfix.mem (by decide)
    exact Text.not_mem_of_mem_splitAt (List.mem_of_getElem? hline) (mem_of_mem_splitAt hcell hbreak)

/-- Data with ampersands, one of them at the start of a row, and with backslashes of its own. -/
theorem table_decodable_ampersands :
    EscapesText "a\\%,b&c\n&d,\\textbf e\n,".toList ∧ ∃ inside : String,
      codeBlock (some "csv") "a\\%,b&c\n&d,\\textbf e\n," { alignment := some "ll" } =
        Run.pure (tableOpening "ll" ++ inside ++ tableClosing { alignment := some "ll" }) ∧
      dropRule (readTable inside.toList) =
        [["a\\%".toList, "b&c".toList], ["&d".toList, "\\textbf e".toList], [[], []]] := by
  have hcontent : EscapesText "a\\%,b&c\n&d,\\textbf e\n,".toList := by
    simp [escapesText_cons_iff, escapesText_nil]
  obtain ⟨inside, htable, hread, -⟩ :=
    table_decodable (d := { alignment := some "ll" }) hcontent rfl (by decide)
  exact ⟨hcontent, inside, htable, hread⟩

end Latex

end Manuscript
