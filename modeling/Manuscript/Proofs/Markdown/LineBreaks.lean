import Manuscript.Proofs.Conversion.Body
import Manuscript.Proofs.Frontmatter.Split
import Mathlib.Data.List.Induction

/-!
# Line feeds and pairs of a carriage return and a line feed

A text is parsed in the same way whether its lines end in line feeds or in pairs of a carriage
return and a line feed, but for the metadata block, which is kept as it is written (`parse_paired`).

The metadata block is split off before line breaks are made the same. Pairing line feeds keeps the
lines of a text apart in the same places (`Text.lines_pairBreaks`), also at the line boundaries that
are no line breaks, and what a line holds apart from white space at its end stays as it is
(`Text.dropEnd_pairBreaks`), so both texts are cut at the same line (`Frontmatter.split?_paired`).
Below the block, the tokens depend on nothing but the text with its line breaks made the same.
-/

namespace Manuscript

/-! ### Pairing line feeds -/

namespace Text

/-- Writes a carriage return before every line feed. -/
def pairBreaks (cs : List Char) : List Char :=
  cs.flatMap fun c => if c = '\n' then ['\r', '\n'] else [c]

/-- A text with a carriage return before every line feed. -/
def paired (s : String) : String := String.ofList (pairBreaks s.toList)

variable {c : Char} {cs : List Char}

theorem toList_paired (s : String) : (paired s).toList = pairBreaks s.toList := String.toList_ofList

theorem pairBreaks_break (cs : List Char) :
    pairBreaks ('\n' :: cs) = '\r' :: '\n' :: pairBreaks cs := rfl

theorem pairBreaks_cons (h : c ≠ '\n') (cs : List Char) :
    pairBreaks (c :: cs) = c :: pairBreaks cs := by
  simp [pairBreaks, h]

theorem pairBreaks_append (xs ys : List Char) :
    pairBreaks (xs ++ ys) = pairBreaks xs ++ pairBreaks ys :=
  List.flatMap_append

theorem flatten_map_pairBreaks (ls : List (List Char)) :
    (ls.map pairBreaks).flatten = pairBreaks ls.flatten := by
  induction ls with
  | nil => rfl
  | cons l ls ih =>
    rw [List.map_cons, List.flatten_cons, List.flatten_cons, pairBreaks_append, ih]

theorem pairBreaks_of_not_mem (h : '\n' ∉ cs) : pairBreaks cs = cs := by
  induction cs with
  | nil => rfl
  | cons c cs ih =>
    rw [pairBreaks_cons (List.ne_of_not_mem_cons h).symm, ih (List.not_mem_of_not_mem_cons h)]

theorem mem_pairBreaks_of_mem (h : '\n' ∈ cs) : '\n' ∈ pairBreaks cs :=
  List.mem_flatMap.mpr ⟨'\n', h, by decide⟩

/-- Pairing leads to no other text without line feeds than that text itself. -/
theorem pairBreaks_eq_iff {ds : List Char} (h : '\n' ∉ ds) : pairBreaks cs = ds ↔ cs = ds := by
  constructor
  · rintro rfl
    exact (pairBreaks_of_not_mem fun hcs => h (mem_pairBreaks_of_mem hcs)).symm
  · rintro rfl
    exact pairBreaks_of_not_mem h

/-- Making line breaks the same undoes pairing. -/
theorem normalizeBreaks_pairBreaks (h : '\r' ∉ cs) :
    normalizeBreaks (pairBreaks cs) = normalizeBreaks cs := by
  induction cs with
  | nil => rfl
  | cons c cs ih =>
    have hc : c ≠ '\r' := (List.ne_of_not_mem_cons h).symm
    have hkept : ∀ {d : Char} (ds : List Char), d ≠ '\r' →
        normalizeBreaks (d :: ds) = d :: normalizeBreaks ds := fun ds hd =>
      normalizeBreaks.eq_4 _ ds (fun _ hdr _ => hd hdr) hd
    have ih := ih (List.not_mem_of_not_mem_cons h)
    by_cases hbreak : c = '\n'
    · subst hbreak
      rw [pairBreaks_break, normalizeBreaks, hkept _ hc, ih]
    · rw [pairBreaks_cons hbreak, hkept _ hc, hkept _ hc, ih]

/-- **Pairing line feeds keeps lines apart in the same places.** -/
theorem lines_pairBreaks (h : '\r' ∉ cs) : lines (pairBreaks cs) = (lines cs).map pairBreaks := by
  induction cs with
  | nil => rfl
  | cons c cs ih =>
    have hpair : ∀ {ds : List Char} (rest : List Char), c = '\r' → ds ≠ '\n' :: rest :=
      fun _ hcr => absurd hcr.symm (List.ne_of_not_mem_cons h)
    have ih := ih (List.not_mem_of_not_mem_cons h)
    by_cases hbreak : c = '\n'
    · subst hbreak
      rw [pairBreaks_break, lines, ih, lines_cons_of_isLineEnd (by decide) hpair]
      rfl
    · have hsingle : pairBreaks [c] = [c] := pairBreaks_cons hbreak []
      rw [pairBreaks_cons hbreak]
      by_cases hend : isLineEnd c = true
      · rw [lines_cons_of_isLineEnd hend hpair, lines_cons_of_isLineEnd hend hpair, ih,
          List.map_cons, hsingle]
      · rw [lines_cons_of_not_isLineEnd hend, lines_cons_of_not_isLineEnd hend, ih]
        cases lines cs with
        | nil => rw [List.map_nil, List.map_cons, List.map_nil, hsingle]
        | cons l ls => rw [List.map_cons, List.map_cons, pairBreaks_cons hbreak]

theorem dropEnd_concat_of_pos {p : Char → Bool} (h : p c = true) (cs : List Char) :
    dropEnd p (cs ++ [c]) = dropEnd p cs := by
  unfold dropEnd
  rw [List.reverse_append, List.reverse_singleton, List.singleton_append,
    List.dropWhile_cons_of_pos h]

theorem dropEnd_concat_of_neg {p : Char → Bool} (h : ¬ p c = true) (cs : List Char) :
    dropEnd p (cs ++ [c]) = cs ++ [c] := by
  unfold dropEnd
  rw [List.reverse_append, List.reverse_singleton, List.singleton_append,
    List.dropWhile_cons_of_neg h, List.reverse_cons, List.reverse_reverse]

/-- Dropping from the end what satisfies a predicate of both characters of a pair commutes with
pairing. -/
theorem dropEnd_pairBreaks {p : Char → Bool} (hreturn : p '\r' = true) (hfeed : p '\n' = true)
    (cs : List Char) : dropEnd p (pairBreaks cs) = pairBreaks (dropEnd p cs) := by
  induction cs using List.reverseRecOn with
  | nil => rfl
  | append_singleton cs c ih =>
    rw [pairBreaks_append]
    by_cases hbreak : c = '\n'
    · subst hbreak
      show dropEnd p (pairBreaks cs ++ ['\r', '\n']) = _
      rw [List.append_cons, dropEnd_concat_of_pos hfeed, dropEnd_concat_of_pos hreturn,
        dropEnd_concat_of_pos hfeed, ih]
    · have hsingle : pairBreaks [c] = [c] := pairBreaks_cons hbreak []
      rw [hsingle]
      by_cases hdrop : p c = true
      · rw [dropEnd_concat_of_pos hdrop, dropEnd_concat_of_pos hdrop, ih]
      · rw [dropEnd_concat_of_neg hdrop, dropEnd_concat_of_neg hdrop, pairBreaks_append, hsingle]

end Text

/-! ### Splitting off the metadata block -/

namespace Frontmatter

open Text

/-- A split of a text, for the text with its line feeds paired. -/
def Split.paired (s : Split) : Split := ⟨s.format, Text.paired s.block, Text.paired s.rest⟩

/-- A line closes a block as well when its line feed is paired. -/
theorem closes_pairBreaks {delimiter : List Char} (h : '\n' ∉ delimiter) (line : List Char) :
    closes delimiter (pairBreaks line) = closes delimiter line := by
  unfold closes trimRight
  rw [dropEnd_pairBreaks (by decide) (by decide), Bool.eq_iff_iff, beq_iff_eq, beq_iff_eq,
    pairBreaks_eq_iff h]

theorem breakAt?_map {p : List Char → Bool} {f : List Char → List Char} (h : ∀ l, p (f l) = p l)
    (ls : List (List Char)) : breakAt? p (ls.map f) =
      (breakAt? p ls).map fun (inside, after) => (inside.map f, after.map f) := by
  induction ls with
  | nil => rfl
  | cons l ls ih =>
    rw [List.map_cons, breakAt?, breakAt?, h, ih]
    by_cases hl : p l = true
    · rw [if_pos hl, if_pos hl]
      rfl
    · rw [if_neg hl, if_neg hl]
      cases breakAt? p ls <;> rfl

theorem subset_of_breakAt? {p : List Char → Bool} {ls inside after : List (List Char)}
    (h : breakAt? p ls = some (inside, after)) : after ⊆ ls := by
  obtain ⟨l, rfl, -, -⟩ := breakAt?_eq_some_iff.mp h
  exact fun x hx => List.mem_append_right _ (List.mem_cons_of_mem _ hx)

/-- What is below a block comes from the text. -/
theorem subset_of_split? {formats : List (String × String)} {text : String} {s : Split}
    (h : split? formats text = some s) : s.rest.toList ⊆ text.toList := by
  unfold split? at h
  split at h
  · cases h
  · rename_i first others hlines
    dsimp only at h
    split at h
    · cases h
    · obtain ⟨⟨inside, after⟩, hbreak, rfl⟩ := Option.map_eq_some_iff.mp h
      intro c hc
      rw [String.toList_ofList] at hc
      obtain ⟨l, hl, hcl⟩ := List.mem_flatten.mp hc
      rw [← flatten_lines text.toList, hlines]
      exact List.mem_flatten.mpr ⟨l, .tail _ (subset_of_breakAt? hbreak hl), hcl⟩

/-- **A text is split in the same place when its line feeds are paired.** -/
theorem split?_paired {formats : List (String × String)} {text : String}
    (hformats : ∀ d ∈ formats, '\n' ∉ d.1.toList) (h : '\r' ∉ text.toList) :
    split? formats (Text.paired text) = (split? formats text).map Split.paired := by
  unfold split?
  rw [toList_paired, lines_pairBreaks h]
  cases lines text.toList with
  | nil => rfl
  | cons first others =>
    have hopening : withoutBreak (pairBreaks first) = pairBreaks (withoutBreak first) :=
      dropEnd_pairBreaks (by decide) (by decide) first
    have hlookup : ∀ {cs : List Char}, '\n' ∈ cs → formats.lookup (String.ofList cs) = none := by
      intro cs hcs
      refine List.lookup_eq_none_iff.mpr fun d hd => bne_iff_ne.mpr fun heq => hformats d hd ?_
      rwa [← heq, String.toList_ofList]
    rw [List.map_cons]
    dsimp only
    rw [hopening]
    by_cases hbreak : '\n' ∈ withoutBreak first
    · rw [hlookup hbreak, hlookup (mem_pairBreaks_of_mem hbreak)]
      rfl
    · rw [pairBreaks_of_not_mem hbreak]
      cases formats.lookup (String.ofList (withoutBreak first)) with
      | none => rfl
      | some format =>
        dsimp only
        rw [breakAt?_map (closes_pairBreaks hbreak), Option.map_map, Option.map_map]
        congr 1
        funext ⟨inside, after⟩
        simp only [Function.comp_apply, Split.paired, Text.paired, flatten_map_pairBreaks,
          String.toList_ofList]

end Frontmatter

/-! ### Parsing -/

namespace Markdown

open Text Frontmatter

variable {o : ParserOptions} {text : String}

theorem prepared_paired (h : '\r' ∉ text.toList) : prepared (paired text) = prepared text := by
  unfold prepared
  rw [toList_paired, normalizeBreaks_pairBreaks h]

theorem tokens_paired (h : '\r' ∉ text.toList) : tokens o (paired text) = tokens o text := by
  unfold tokens
  rw [prepared_paired h]

theorem dropMark_paired (text : String) : dropMark (paired text) = paired (dropMark text) := by
  unfold dropMark
  rw [toList_paired]
  cases text.toList with
  | nil => rfl
  | cons c rest =>
    by_cases hbreak : c = '\n'
    · subst hbreak
      rfl
    · rw [pairBreaks_cons hbreak]
      dsimp only
      split
      · rw [paired, String.toList_ofList]
      · rfl

theorem dropMark_subset (text : String) : (dropMark text).toList ⊆ text.toList := by
  unfold dropMark
  split
  · rename_i c rest htext
    rw [htext]
    split
    · rw [String.toList_ofList]
      exact List.subset_cons_self c rest
    · rw [htext]
      exact List.Subset.refl _
  · exact List.Subset.refl _

theorem frontBlock?_paired (h : '\r' ∉ text.toList) :
    frontBlock? o (paired text) = (frontBlock? o text).map Split.paired := by
  unfold frontBlock?
  split
  · exact split?_paired (by decide) h
  · rfl

/-- The tokens below the metadata block are the same. -/
theorem tokens_belowFront_paired (h : '\r' ∉ text.toList) :
    tokens o (belowFront o (paired text)) = tokens o (belowFront o text) := by
  unfold belowFront
  rw [frontBlock?_paired h]
  cases hfront : frontBlock? o text with
  | none => exact tokens_paired h
  | some s =>
    obtain ⟨-, hsplit⟩ := frontBlock?_eq_some_iff.mp hfront
    exact tokens_paired fun hs => h (subset_of_split? hsplit hs)

/-- A document with the line feeds of its metadata block paired, if it starts with one. -/
def pairedFront : Node → Node
  | .document (.frontMatter block format fields :: rest) metadata =>
    .document (.frontMatter (paired block) format fields :: rest) metadata
  | document => document

theorem pairedFront_documentOf (front : Option Split) {body : List Node}
    (h : ∀ n ∈ body, Node.Fits .block n) :
    documentOf (front.map Split.paired) body = pairedFront (documentOf front body) := by
  cases front with
  | some s => rfl
  | none =>
    cases body with
    | nil => rfl
    | cons n rest =>
      obtain ⟨place, -, -⟩ := h n List.mem_cons_self
      cases n with
      | frontMatter => cases place
      | _ => rfl

/-- **Parsing does not depend on the style of line breaks**: a text without carriage returns and the
text with its line feeds paired give the same error, or the same document but for the content of a
leading metadata block, whose line feeds are paired. -/
theorem parse_paired (o : ParserOptions) {text : String} (h : '\r' ∉ text.toList) :
    (parse o (paired text)).outcome = (parse o text).outcome.map pairedFront := by
  have hbelow : '\r' ∉ (dropMark text).toList := fun hmem => h (dropMark_subset text hmem)
  rw [parse_outcome, parse_outcome, dropMark_paired, frontBlock?_paired hbelow,
    tokens_belowFront_paired hbelow]
  have hbuilds := blocks_builds (tokens o (belowFront o (dropMark text)))
  cases hblocks : blocks (tokens o (belowFront o (dropMark text))) with
  | error e => rfl
  | ok body =>
    exact congrArg Except.ok (pairedFront_documentOf _ (hbuilds.onOk hblocks))

/-- The line that closes the block ends at a form feed, which is a line boundary but no line
break. -/
theorem parse_paired_form_feed :
    '\r' ∉ "---\na: 1\n---\x0c# b\n".toList ∧
    (parse {} "---\na: 1\n---\x0c# b\n").outcome = .ok
      (.document [.frontMatter "a: 1\n" "yaml" [], .heading 1 [.text "b" []] []] []) ∧
    (parse {} "---\r\na: 1\r\n---\x0c# b\r\n").outcome = .ok
      (.document [.frontMatter "a: 1\r\n" "yaml" [], .heading 1 [.text "b" []] []] []) := by
  have hfree : '\r' ∉ "---\na: 1\n---\x0c# b\n".toList := by decide
  have hfront : frontBlock? {} (dropMark "---\na: 1\n---\x0c# b\n") =
      some ⟨"yaml", "a: 1\n", "# b\n"⟩ := by decide +kernel
  have hblocks : blocks (tokens {} "# b\n") = .ok [.heading 1 [.text "b" []] []] := rfl
  have hparse : (parse {} "---\na: 1\n---\x0c# b\n").outcome = .ok
      (.document [.frontMatter "a: 1\n" "yaml" [], .heading 1 [.text "b" []] []] []) :=
    parse_outcome_of_stages hfront hblocks
  have hpaired : paired "---\na: 1\n---\x0c# b\n" = "---\r\na: 1\r\n---\x0c# b\r\n" := by
    decide
  refine ⟨hfree, hparse, ?_⟩
  rw [← hpaired, parse_paired {} hfree, hparse]
  rfl

end Markdown

end Manuscript
