import Manuscript.Proofs.Frontmatter.Split

/-!
# Which texts are split, and into what

A text is split exactly when its first line is a delimiter and a later line closes the block that it
opens (`exists_split?_iff`). The split is the one that the lines of the text show: the opening line,
the lines of the block, the first line that closes it, and the lines of the rest
(`split?_eq_some_iff`). So nothing of the text is lost, and what is written as a block is split off
as that block (`split_exact_and_lossless`).
-/

namespace Manuscript.Frontmatter

variable {formats : List (String × String)} {text : String} {s : Split}

theorem closes_iff {delimiter line : List Char} :
    closes delimiter line = true ↔ Text.trimRight line = delimiter := beq_iff_eq

theorem closes_eq_false_iff {delimiter line : List Char} :
    closes delimiter line = false ↔ Text.trimRight line ≠ delimiter := beq_eq_false_iff_ne

/-! ### What a split shows -/

/-- **A text is delimited as a split tells**: its lines are an opening line, the lines of the block,
a closing line and the lines of the rest. The opening line without its line break is a delimiter of
the format, the closing line is the same delimiter with white space after it, and no line of the
block is. -/
structure Delimits (formats : List (String × String)) (text : String) (s : Split)
    (opening closing : List Char) : Prop where
  lines_eq : Text.lines text.toList =
    opening :: (Text.lines s.block.toList ++ closing :: Text.lines s.rest.toList)
  format : formats.lookup (String.ofList (withoutBreak opening)) = some s.format
  closed : Text.trimRight closing = withoutBreak opening
  unclosed : ∀ l ∈ Text.lines s.block.toList, Text.trimRight l ≠ withoutBreak opening

/-- Nothing is lost of a delimited text. -/
theorem Delimits.eq_append {opening closing : List Char}
    (h : Delimits formats text s opening closing) :
    text = String.ofList opening ++ s.block ++ String.ofList closing ++ s.rest := by
  have hflat := congrArg List.flatten h.lines_eq
  simp only [Text.flatten_lines, List.flatten_cons, List.flatten_append] at hflat
  rw [← String.toList_inj, hflat]
  simp

/-- **A text is split as it is delimited**, and only then. -/
theorem split?_eq_some_iff :
    split? formats text = some s ↔ ∃ opening closing, Delimits formats text s opening closing := by
  unfold split?
  constructor
  · intro h
    split at h
    · cases h
    · rename_i opening others hlines
      dsimp only at h
      split at h
      · cases h
      · rename_i format hformat
        obtain ⟨⟨inside, after⟩, hbreak, rfl⟩ := Option.map_eq_some_iff.mp h
        obtain ⟨closing, rfl, hclosing, hinside⟩ := breakAt?_eq_some_iff.mp hbreak
        -- each of the two parts is cut out of the lines, so its lines are these
        have hbehind : Text.lines text.toList = (opening :: inside ++ [closing]) ++ after := by
          simpa using hlines
        have hwithin : Text.lines text.toList = [opening] ++ (inside ++ closing :: after) := hlines
        obtain ⟨-, hafter⟩ := Text.lines_flatten_of_lines_eq_append hbehind
        obtain ⟨-, hrest⟩ := Text.lines_flatten_of_lines_eq_append hwithin
        obtain ⟨hblock, -⟩ := Text.lines_flatten_of_lines_eq_append hrest
        refine ⟨opening, closing, ?_, hformat, closes_iff.mp hclosing, ?_⟩
        · rw [hlines, String.toList_ofList, String.toList_ofList, hblock, hafter]
        · rw [String.toList_ofList, hblock]
          exact fun l hl => closes_eq_false_iff.mp (hinside l hl)
  · rintro ⟨opening, closing, hlines, hformat, hclosed, hunclosed⟩
    rw [hlines]
    dsimp only
    rw [hformat]
    dsimp only
    rw [breakAt?_append (fun l hl => closes_eq_false_iff.mpr (hunclosed l hl))
      (closes_iff.mpr hclosed), Option.map_some, Text.flatten_lines, Text.flatten_lines,
      String.ofList_toList, String.ofList_toList]

/-- **Which texts are split**: those whose first line is a delimiter that comes again as a later
line, with white space after it at most. -/
theorem exists_split?_iff : (∃ s, split? formats text = some s) ↔
    ∃ opening later, Text.lines text.toList = opening :: later ∧
      (∃ format, formats.lookup (String.ofList (withoutBreak opening)) = some format) ∧
      ∃ l ∈ later, Text.trimRight l = withoutBreak opening := by
  constructor
  · rintro ⟨s, hs⟩
    obtain ⟨opening, closing, hlines, hformat, hclosed, -⟩ := split?_eq_some_iff.mp hs
    exact ⟨opening, _, hlines, ⟨_, hformat⟩, closing, by simp, hclosed⟩
  · rintro ⟨opening, later, hlines, ⟨format, hformat⟩, l, hl, hcloses⟩
    unfold split?
    rw [hlines]
    dsimp only
    rw [hformat]
    dsimp only
    cases hbreak : breakAt? (closes (withoutBreak opening)) later with
    | none => exact absurd hcloses (closes_eq_false_iff.mp (breakAt?_eq_none_iff.mp hbreak l hl))
    | some parts => exact ⟨_, rfl⟩

/-- **Splitting is exact and loses nothing.** A text is split iff its first line is a delimiter and
a later line closes the block. Then the split is delimited in the text, which is the opening line,
the block, the first line that closes it and the rest. And a block that is empty or ends in a line
boundary, none of whose lines closes it, is split off again when it is written between two lines of
its delimiter, whatever follows. -/
theorem split_exact_and_lossless :
    (∀ formats text, ((∃ s, split? formats text = some s) ↔
        ∃ opening later, Text.lines text.toList = opening :: later ∧
          (∃ format, formats.lookup (String.ofList (withoutBreak opening)) = some format) ∧
          ∃ l ∈ later, Text.trimRight l = withoutBreak opening) ∧
      ∀ s, split? formats text = some s → ∃ opening closing,
        Delimits formats text s opening closing ∧
        text = String.ofList opening ++ s.block ++ String.ofList closing ++ s.rest) ∧
    ∀ delimiter format, (delimiter, format) ∈ delimiters → ∀ block : String,
      Text.endsLine block.toList = true →
      (∀ l ∈ Text.lines block.toList, Text.trimRight l ≠ delimiter.toList) → ∀ rest,
      split? delimiters (delimiter ++ "\n" ++ block ++ delimiter ++ "\n" ++ rest) =
        some ⟨format, block, rest⟩ := by
  refine ⟨fun formats text => ⟨exists_split?_iff, fun s hs => ?_⟩, ?_⟩
  · obtain ⟨opening, closing, hdelimits⟩ := split?_eq_some_iff.mp hs
    exact ⟨opening, closing, hdelimits, hdelimits.eq_append⟩
  · intro delimiter format known block ends unclosed
    exact split?_written known ends fun l hl => closes_eq_false_iff.mpr (unclosed l hl)

/-- A block with a form feed in it that ends in a carriage return, and a rest that starts with a
line feed and could close another block. -/
theorem split_exact_and_lossless_return :
    ("---", "yaml") ∈ delimiters ∧ Text.endsLine "a\x0c --- b\r".toList = true ∧
      (∀ l ∈ Text.lines "a\x0c --- b\r".toList, Text.trimRight l ≠ "---".toList) ∧
      split? delimiters "---\na\x0c --- b\r---\n\n--- \n" =
        some ⟨"yaml", "a\x0c --- b\r", "\n--- \n"⟩ ∧
      ∃ opening closing, Delimits delimiters "---\na\x0c --- b\r---\n\n--- \n"
        ⟨"yaml", "a\x0c --- b\r", "\n--- \n"⟩ opening closing := by
  have known : ("---", "yaml") ∈ delimiters := by decide
  have ends : Text.endsLine "a\x0c --- b\r".toList = true := by decide
  have unclosed : ∀ l ∈ Text.lines "a\x0c --- b\r".toList, Text.trimRight l ≠ "---".toList := by
    decide
  have hsplit : split? delimiters "---\na\x0c --- b\r---\n\n--- \n" =
      some ⟨"yaml", "a\x0c --- b\r", "\n--- \n"⟩ :=
    split_exact_and_lossless.2 "---" "yaml" known "a\x0c --- b\r" ends unclosed "\n--- \n"
  obtain ⟨opening, closing, hdelimits, -⟩ := (split_exact_and_lossless.1 _ _).2 _ hsplit
  exact ⟨known, ends, unclosed, hsplit, opening, closing, hdelimits⟩

end Manuscript.Frontmatter
