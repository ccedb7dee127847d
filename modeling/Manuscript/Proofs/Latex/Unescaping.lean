import Manuscript.Latex.Renderer
import Mathlib.Data.List.Infix

/-!
# Escaped text can be read back

Ten characters have a meaning of their own, and each has a replacement (`replacements`). No
replacement starts another one, not even together with what follows it (`replacement_unique`), so a
reader that goes from left to right knows at every place which one it has before it. `unescape` is
this reader: what it has read of an escaped text is the text, whatever follows
(`unescape_escape_append`).

The escaped text is cut into pieces, one for each character of the text, and a special character
occurs in it only within the replacement of a special character (`special_within_replacement`).
-/

namespace Manuscript.Latex

/-! ### Replacements -/

/-- **The ten special characters** and what is written for them. -/
def replacements : List (Char × List Char) :=
  [('\\', "\\textbackslash\x7b\x7d".toList), ('\x7b', "\\\x7b".toList), ('\x7d', "\\\x7d".toList),
    ('$', "\\$".toList), ('%', "\\%".toList), ('&', "\\&".toList), ('#', "\\#".toList),
    ('_', "\\_".toList), ('~', "\\textasciitilde\x7b\x7d".toList),
    ('^', "\\textasciicircum\x7b\x7d".toList)]

/-- Whether a character is special. -/
def IsSpecial (c : Char) : Prop := c ∈ replacements.map Prod.fst

instance : DecidablePred IsSpecial := fun c =>
  inferInstanceAs (Decidable (c ∈ replacements.map Prod.fst))

variable {c : Char} {e e' : Char × List Char} {cs rest : List Char}

theorem escapeChar_of_mem (h : e ∈ replacements) : escapeChar e.1 = e.2 := by
  have hall : ∀ e ∈ replacements, escapeChar e.1 = e.2 := by decide
  exact hall e h

theorem mem_replacements_iff : (c, escapeChar c) ∈ replacements ↔ IsSpecial c := by
  constructor
  · intro h
    exact List.mem_map_of_mem h
  · intro h
    obtain ⟨e, he, rfl⟩ := List.mem_map.mp h
    rwa [escapeChar_of_mem he]

theorem escapeChar_of_not_isSpecial (h : ¬ IsSpecial c) : escapeChar c = [c] := by
  simp only [IsSpecial, replacements, List.map_cons, List.map_nil, List.mem_cons, List.not_mem_nil,
    or_false, not_or] at h
  simp [escapeChar, h]

/-- Every replacement starts with a backslash. -/
theorem head_replacement (h : e ∈ replacements) : e.2.head? = some '\\' := by
  have hall : ∀ e ∈ replacements, e.2.head? = some '\\' := by decide
  exact hall e h

/-- **A replacement tells itself from the others**: of a text that starts with one, no other is a
start. -/
theorem replacement_unique (h : e ∈ replacements) (h' : e' ∈ replacements)
    (hstart : e'.2 <+: e.2 ++ rest) : e' = e := by
  have hfree : ∀ e ∈ replacements, ∀ e' ∈ replacements, e'.2 <+: e.2 → e' = e := by decide
  rcases List.prefix_or_prefix_of_prefix hstart (List.prefix_append e.2 rest) with hle | hle
  · exact hfree e h e' h' hle
  · exact (hfree e' h' e h hle).symm

/-! ### Reading from left to right -/

/-- The special character whose replacement a text starts with, and this replacement. -/
def replacementAt? (cs : List Char) : Option (Char × List Char) :=
  replacements.find? fun e => e.2.isPrefixOf cs

/-- **Reads escaped text** from left to right: a replacement stands for its character, and any other
character for itself. -/
def unescape (cs : List Char) : List Char :=
  match cs with
  | [] => []
  | c :: rest =>
    match replacementAt? (c :: rest) with
    | some e => e.1 :: unescape (rest.drop (e.2.length - 1))
    | none => c :: unescape rest
termination_by cs.length
decreasing_by all_goals simp only [List.length_drop, List.length_cons]; omega

theorem replacementAt?_eq_some (h : replacementAt? cs = some e) :
    e ∈ replacements ∧ e.2 <+: cs := by
  unfold replacementAt? at h
  have hstart := List.find?_some h
  exact ⟨List.mem_of_find?_eq_some h, List.isPrefixOf_iff_prefix.mp hstart⟩

theorem replacementAt?_append (h : e ∈ replacements) (rest : List Char) :
    replacementAt? (e.2 ++ rest) = some e := by
  have hfound : (replacementAt? (e.2 ++ rest)).isSome = true :=
    List.find?_isSome.mpr ⟨e, h, by simp⟩
  obtain ⟨e', he'⟩ := Option.isSome_iff_exists.mp hfound
  obtain ⟨hmem, hstart⟩ := replacementAt?_eq_some he'
  rw [he', replacement_unique h hmem hstart]

theorem replacementAt?_cons_of_not_isSpecial (h : ¬ IsSpecial c) (rest : List Char) :
    replacementAt? (c :: rest) = none := by
  refine Option.eq_none_iff_forall_ne_some.mpr fun e he => h ?_
  obtain ⟨hmem, after, hafter⟩ := replacementAt?_eq_some he
  obtain ⟨tail, htail⟩ := List.head?_eq_some_iff.mp (head_replacement hmem)
  -- the text starts as the replacement does, with a backslash
  rw [htail] at hafter
  obtain ⟨rfl, -⟩ := List.cons.inj hafter
  decide

/-- What is written for a character is read as this character, whatever follows. -/
theorem unescape_escapeChar_append (c : Char) (rest : List Char) :
    unescape (escapeChar c ++ rest) = c :: unescape rest := by
  by_cases hc : IsSpecial c
  · have hmem := mem_replacements_iff.mpr hc
    obtain ⟨tail, htail⟩ := List.head?_eq_some_iff.mp (head_replacement hmem)
    have hat := replacementAt?_append hmem rest
    dsimp only at htail hat
    rw [htail, List.cons_append] at hat ⊢
    rw [unescape, hat]
    simp
  · rw [escapeChar_of_not_isSpecial hc, List.singleton_append, unescape,
      replacementAt?_cons_of_not_isSpecial hc]

/-- **Escaped text is read back**, piece by piece and whatever follows. -/
theorem unescape_escape_append (cs rest : List Char) :
    unescape (cs.flatMap escapeChar ++ rest) = cs ++ unescape rest := by
  induction cs with
  | nil => rfl
  | cons c cs ih =>
    rw [List.flatMap_cons, List.append_assoc, unescape_escapeChar_append, ih, List.cons_append]

/-- A text as it is read from its escaped form. -/
def unescaped (s : String) : String := String.ofList (unescape s.toList)

theorem unescaped_escape (s : String) : unescaped (escape s) = s := by
  have hread := unescape_escape_append s.toList []
  rw [List.append_nil, unescape, List.append_nil] at hread
  rw [unescaped, escape, String.toList_ofList, hread, String.ofList_toList]

/-! ### Where special characters occur -/

/-- **A special character occurs only within a replacement**: around it stands what is written for
one special character of the text, before this what is written for the text before, and after it
what is written for the text after. -/
theorem special_within_replacement {before after : List Char} (hc : IsSpecial c)
    (h : cs.flatMap escapeChar = before ++ c :: after) :
    ∃ left d right start rest, cs = left ++ d :: right ∧ (d, start ++ c :: rest) ∈ replacements ∧
      before = left.flatMap escapeChar ++ start ∧ after = rest ++ right.flatMap escapeChar := by
  induction cs generalizing before with
  | nil => simp at h
  | cons d cs ih =>
    have later : ∀ more, before = escapeChar d ++ more →
        cs.flatMap escapeChar = more ++ c :: after →
        ∃ left d' right start rest, d :: cs = left ++ d' :: right ∧
          (d', start ++ c :: rest) ∈ replacements ∧ before = left.flatMap escapeChar ++ start ∧
          after = rest ++ right.flatMap escapeChar := by
      intro more hbefore hcs
      obtain ⟨left, d', right, start, rest, rfl, hmem, rfl, rfl⟩ := ih hcs
      exact ⟨d :: left, d', right, start, rest, rfl, hmem, by simp [hbefore], rfl⟩
    rw [List.flatMap_cons] at h
    rcases List.append_eq_append_iff.mp h with ⟨more, hbefore, hcs⟩ | ⟨piece, hpiece, htail⟩
    · exact later more hbefore hcs
    · cases piece with
      | nil => exact later [] (by simpa using hpiece.symm) htail.symm
      | cons x piece =>
        -- the character stands in what is written for the first one
        obtain ⟨rfl, rfl⟩ := List.cons.inj htail
        have hd : IsSpecial d := by
          by_contra hd
          rw [escapeChar_of_not_isSpecial hd] at hpiece
          have hcd : c ∈ [d] := by simp [hpiece]
          exact hd (List.mem_singleton.mp hcd ▸ hc)
        refine ⟨[], d, cs, before, piece, rfl, ?_, rfl, rfl⟩
        rw [← hpiece]
        exact mem_replacements_iff.mpr hd

/-- **Escaping is uniquely decodable.** With escaping switched on, one reader that goes from left to
right gives back every text from what is written for it, and has read the text before it sees what
follows. So different texts are never written alike. A special character occurs in what is written
only within one of the ten replacements, which is written for a special character of the text. -/
theorem escape_uniquely_decodable {o : RendererOptions} (h : o.escapeSpecial.truthy = true) :
    (∀ s, unescaped (plainText o s) = s) ∧
    (∀ s rest, unescape ((plainText o s).toList ++ rest) = s.toList ++ unescape rest) ∧
    Function.Injective (plainText o) ∧
    ∀ s before c after, (plainText o s).toList = before ++ c :: after → IsSpecial c →
      ∃ left d right start rest, s.toList = left ++ d :: right ∧
        (d, start ++ c :: rest) ∈ replacements ∧
        before = (plainText o (String.ofList left)).toList ++ start ∧
        after = rest ++ (plainText o (String.ofList right)).toList := by
  have hplain : plainText o = escape := by
    funext s
    rw [plainText, if_pos h]
  have hread : Function.LeftInverse unescaped (plainText o) := hplain ▸ unescaped_escape
  refine ⟨hread, fun s rest => ?_, hread.injective, fun s before c after hs hc => ?_⟩
  · rw [hplain, escape, String.toList_ofList, unescape_escape_append]
  · rw [hplain, escape, String.toList_ofList] at hs
    obtain ⟨left, d, right, start, rest, hcs, hmem, hbefore, hafter⟩ :=
      special_within_replacement hc hs
    refine ⟨left, d, right, start, rest, hcs, hmem, ?_, ?_⟩
    · simpa [hplain, escape] using hbefore
    · simpa [hplain, escape] using hafter

/-- A backslash, and a text that spells out what is written for it: they are read back, and are not
written alike. -/
theorem escape_uniquely_decodable_spelled :
    let o : RendererOptions := { escapeSpecial := .bool true }
    o.escapeSpecial.truthy = true ∧ unescaped (plainText o "\\") = "\\" ∧
      unescaped (plainText o "\\textbackslash\x7b\x7d") = "\\textbackslash\x7b\x7d" ∧
      plainText o "\\" = "\\textbackslash\x7b\x7d" ∧
      plainText o "\\textbackslash\x7b\x7d" ≠ plainText o "\\" := by
  intro o
  obtain ⟨hread, -, hinjective, -⟩ := escape_uniquely_decodable (o := o) rfl
  exact ⟨rfl, hread _, hread _, by decide, hinjective.ne (by decide)⟩

end Manuscript.Latex
