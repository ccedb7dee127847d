import Manuscript.Proofs.Frontmatter.Delimited
import Manuscript.Proofs.Text.Ends

/-!
# A line feed at the end of a text

Another line feed at the end of a text ends its last line, or is a line of its own. In neither case
does it matter to whether a metadata block is delimited on top of the text (`split?_unended`).
-/

namespace Manuscript

namespace Text

variable {cs : List Char}

/-- **A line feed at the end** belongs to the last line or is a line. -/
theorem lines_append_feed (h : cs ≠ []) : ∃ before l, lines cs = before ++ [l] ∧
    (lines (cs ++ ['\n']) = before ++ [l ++ ['\n']] ∨
      lines (cs ++ ['\n']) = before ++ [l] ++ [['\n']]) := by
  fun_induction lines cs with
  | case1 => exact absurd rfl h
  | case2 rest ih =>
    by_cases hrest : rest = []
    · subst hrest
      exact ⟨[], ['\r', '\n'], rfl, .inr rfl⟩
    · obtain ⟨before, l, hlines, hfeed⟩ := ih hrest
      refine ⟨['\r', '\n'] :: before, l, by rw [hlines]; rfl, ?_⟩
      rw [List.cons_append, List.cons_append, lines]
      exact hfeed.imp (congrArg _) (congrArg _)
  | case3 c rest hsame hend ih =>
    by_cases hrest : rest = []
    · subst hrest
      by_cases hreturn : c = '\r'
      · subst hreturn
        exact ⟨[], ['\r'], rfl, .inl rfl⟩
      · refine ⟨[], [c], rfl, .inr ?_⟩
        exact lines_cons_of_isLineEnd hend fun _ hc => absurd hc hreturn
    · obtain ⟨before, l, hlines, hfeed⟩ := ih hrest
      have hcons : lines (c :: (rest ++ ['\n'])) = [c] :: lines (rest ++ ['\n']) := by
        refine lines_cons_of_isLineEnd hend ?_
        rintro more rfl heq
        obtain ⟨d, rest, rfl⟩ := List.exists_cons_of_ne_nil hrest
        obtain ⟨rfl, -⟩ := List.cons.inj heq
        exact hsame rest rfl rfl
      refine ⟨[c] :: before, l, by rw [hlines]; rfl, ?_⟩
      rw [List.cons_append, hcons]
      exact hfeed.imp (congrArg _) (congrArg _)
  | case4 c rest hsame hend hnil ih =>
    obtain rfl : rest = [] := by rw [← flatten_lines rest, hnil, List.flatten_nil]
    refine ⟨[], [c], rfl, .inl ?_⟩
    show lines [c, '\n'] = _
    rw [lines_cons_of_not_isLineEnd hend]
    rfl
  | case5 c rest hsame hend l ls hcons ih =>
    have hrest : rest ≠ [] := by
      rintro rfl
      cases hcons
    obtain ⟨before, last, hlines, hfeed⟩ := ih hrest
    rw [List.cons_append, lines_cons_of_not_isLineEnd hend]
    rw [hcons] at hlines
    cases before with
    | nil =>
      obtain ⟨rfl, rfl⟩ := List.cons.inj hlines
      refine ⟨[], c :: l, rfl, ?_⟩
      rcases hfeed with hfeed | hfeed
      · exact .inl (by rw [hfeed]; rfl)
      · exact .inr (by rw [hfeed]; rfl)
    | cons first before =>
      obtain ⟨rfl, rfl⟩ := List.cons.inj hlines
      refine ⟨(c :: l) :: before, last, rfl, ?_⟩
      rcases hfeed with hfeed | hfeed
      · exact .inl (by rw [hfeed]; rfl)
      · exact .inr (by rw [hfeed]; rfl)

end Text

namespace Frontmatter

variable {formats : List (String × String)} {text : String}

theorem withoutBreak_append_feed (l : List Char) : withoutBreak (l ++ ['\n']) = withoutBreak l :=
  Text.dropEnd_append_of_pos (List.all_eq_true.mp rfl) l

theorem trimRight_append_feed (l : List Char) : Text.trimRight (l ++ ['\n']) = Text.trimRight l :=
  Text.dropEnd_append_of_pos (List.all_eq_true.mp rfl) l

/-- A line feed at the end changes neither the delimiter that a text starts with nor, as no
delimiter is empty, what lines come after it. -/
theorem lines_feed_parts {cs opening : List Char} {later : List (List Char)}
    (h : Text.lines cs = opening :: later) : ∃ opening' later',
      Text.lines (cs ++ ['\n']) = opening' :: later' ∧
      withoutBreak opening' = withoutBreak opening ∧
        ∀ delimiter, delimiter ≠ [] →
          ((∃ l ∈ later', Text.trimRight l = delimiter) ↔
            ∃ l ∈ later, Text.trimRight l = delimiter) := by
  have hcs : cs ≠ [] := by
    rintro rfl
    cases h
  have hfeed : ∀ delimiter : List Char, delimiter ≠ [] → Text.trimRight ['\n'] ≠ delimiter :=
    fun _ hne heq => hne heq.symm
  obtain ⟨before, l, hlines, hmore⟩ := Text.lines_append_feed hcs
  rw [h] at hlines
  cases before with
  | nil =>
    obtain ⟨rfl, rfl⟩ := List.cons.inj hlines
    rcases hmore with hmore | hmore
    · exact ⟨_, _, hmore, withoutBreak_append_feed _, fun _ _ => Iff.rfl⟩
    · exact ⟨_, _, hmore, rfl, fun delimiter hne => by simp [hfeed delimiter hne]⟩
  | cons first before =>
    obtain ⟨rfl, rfl⟩ := List.cons.inj hlines
    rcases hmore with hmore | hmore
    · refine ⟨_, _, hmore, rfl, fun delimiter _ => ?_⟩
      simp [or_and_right, exists_or, trimRight_append_feed]
    · refine ⟨_, _, hmore, rfl, fun delimiter hne => ?_⟩
      simp [or_and_right, exists_or, hfeed delimiter hne]

theorem exists_split?_append_feed (hempty : formats.lookup "" = none) :
    (∃ s, split? formats (text ++ "\n") = some s) ↔ ∃ s, split? formats text = some s := by
  have hne {line : List Char} {format : String}
      (h : formats.lookup (String.ofList (withoutBreak line)) = some format) :
      withoutBreak line ≠ [] := by
    intro hnil
    rw [hnil, show String.ofList [] = "" from rfl, hempty] at h
    cases h
  rw [exists_split?_iff, exists_split?_iff, String.toList_append]
  cases hlines : Text.lines text.toList with
  | nil =>
    have hnil : text.toList = [] := by rw [← Text.flatten_lines text.toList, hlines]; rfl
    rw [hnil]
    refine iff_of_false ?_ nofun
    rintro ⟨opening, later, hfeed, -, l, hl, -⟩
    obtain ⟨-, rfl⟩ := List.cons.inj hfeed
    cases hl
  | cons opening later =>
    obtain ⟨opening', later', hfeed, hopening, hlater⟩ := lines_feed_parts hlines
    rw [show "\n".toList = ['\n'] from rfl, hfeed]
    constructor
    · rintro ⟨_, _, heq, ⟨format, hformat⟩, hcloses⟩
      obtain ⟨rfl, rfl⟩ := List.cons.inj heq
      have hdelimiter := (hlater _ (hne hformat)).mp hcloses
      rw [hopening] at hformat hdelimiter
      exact ⟨_, _, rfl, ⟨format, hformat⟩, hdelimiter⟩
    · rintro ⟨_, _, heq, ⟨format, hformat⟩, hcloses⟩
      obtain ⟨rfl, rfl⟩ := List.cons.inj heq
      have hdelimiter := (hlater _ (hne hformat)).mpr hcloses
      rw [← hopening] at hformat hdelimiter
      exact ⟨_, _, rfl, ⟨format, hformat⟩, hdelimiter⟩

/-- **The final line feed makes no difference** to whether a block is delimited. -/
theorem split?_unended (hempty : formats.lookup "" = none) :
    split? formats (Text.unended text) = none ↔ split? formats text = none := by
  have hsplit : (∃ s, split? formats (Text.unended text) = some s) ↔
      ∃ s, split? formats text = some s := by
    unfold Text.unended
    split
    · rename_i hlast
      obtain ⟨before, hbefore⟩ := List.getLast?_eq_some_iff.mp hlast
      have htext : text = String.ofList before ++ "\n" := by
        rw [← String.toList_inj, hbefore, String.toList_append, String.toList_ofList]
        rfl
      rw [hbefore, List.dropLast_concat, htext]
      exact (exists_split?_append_feed hempty).symm
    · exact Iff.rfl
  rw [Option.eq_none_iff_forall_ne_some, Option.eq_none_iff_forall_ne_some, ← not_exists,
    ← not_exists, hsplit]

end Frontmatter

end Manuscript
