import Manuscript.Markdown.Build
import Manuscript.Proofs.Frontmatter.Delimited
import Manuscript.Proofs.Outcome
import Manuscript.Proofs.Text.Ends
import Manuscript.Proofs.Yaml.Mapping

/-!
# What becomes of a code block

A code block is taken apart four times: its last line break is dropped, its info text is stripped
and split at the first white space, a metadata block is cut off, and the entries of this block are
sorted into the fields of a directive. What each step does is told without the functions that do it
(`Stripped`, `InfoTaken`, `CodeTaken`, `DirectiveTaken`). A code block is made exactly if there are
parts of this kind, and then it is made of these (`fence_decomposed_iff`), so nothing is lost on the
way.
-/

namespace Manuscript

namespace Markdown

open Text (isBlank trim Stripped stripped_trim unended)

/-! ### The final line break -/

theorem dropFinalBreak_eq_unended (s : String) : dropFinalBreak s = unended s := by
  unfold dropFinalBreak unended
  split
  · rename_i before hreverse
    have hs : s.toList = before.reverse ++ ['\n'] := by
      rw [← List.reverse_reverse s.toList, hreverse, List.reverse_cons]
    rw [hs, List.getLast?_concat, if_pos rfl, List.dropLast_concat]
  · rename_i hother
    rw [if_neg]
    intro hlast
    obtain ⟨before, hbefore⟩ := List.getLast?_eq_some_iff.mp hlast
    exact hother before.reverse (by rw [hbefore, List.reverse_append]; rfl)

/-! ### The info text -/

/-- **An info text is taken apart.** A blank one says nothing. Of any other one, the text without
the white space around it is kept, and it is the language, or the language, white space, and further
words that are kept as well. -/
inductive InfoTaken (info : Option String) : Option String → Entries → Prop where
  | nothing (blank : ∀ s ∈ info, Text.allBlank s = true) : InfoTaken info none []
  | language {s text : String} (given : info = some s)
      (stripped : Stripped s.toList text.toList) (nonempty : text ≠ "")
      (solid : ∀ c ∈ text.toList, isBlank c = false) :
      InfoTaken info (some text) [(.str "info_string", .str text)]
  | words {s text language gap rest : String} (given : info = some s)
      (stripped : Stripped s.toList text.toList) (parts : text = language ++ gap ++ rest)
      (nonempty : language ≠ "") (solid : ∀ c ∈ language.toList, isBlank c = false)
      (apart : gap ≠ "") (blank : Text.allBlank gap = true)
      (starts : ∃ c ∈ rest.toList.head?, isBlank c = false) :
      InfoTaken info (some language)
        [(.str "info_string", .str text), (.str "info_attrs", .str rest)]

variable {info language : Option String} {metadata : Entries} {s : String}
  {word gap rest : List Char}

/-- A text without white space around it is one word, or a word, a gap and more. -/
theorem words_cases {cs : List Char} (hends : ∀ c ∈ cs.getLast?, isBlank c = false) :
    (∀ c ∈ cs, isBlank c = false) ∨
      ∃ word gap rest, cs = word ++ (gap ++ rest) ∧ (∀ c ∈ word, isBlank c = false) ∧ gap ≠ [] ∧
        (∀ c ∈ gap, isBlank c = true) ∧ ∃ c ∈ rest.head?, isBlank c = false := by
  let solid : Char → Bool := fun c => !isBlank c
  have hsplit : cs.takeWhile solid ++ cs.dropWhile solid = cs := List.takeWhile_append_dropWhile
  have hword : ∀ c ∈ cs.takeWhile solid, isBlank c = false := by
    intro c hc
    simpa [solid] using List.mem_takeWhile_imp hc
  cases htail : cs.dropWhile solid with
  | nil =>
    left
    rwa [← hsplit, htail, List.append_nil]
  | cons c tail =>
    right
    have hc : isBlank c = true := by
      simpa [solid] using Text.head?_dropWhile solid cs c (by rw [htail, List.head?_cons]; rfl)
    have hgap : (c :: tail).takeWhile isBlank ++ (c :: tail).dropWhile isBlank = c :: tail :=
      List.takeWhile_append_dropWhile
    refine ⟨cs.takeWhile solid, (c :: tail).takeWhile isBlank, (c :: tail).dropWhile isBlank, ?_,
      hword, ?_, fun d hd => List.mem_takeWhile_imp hd, ?_⟩
    · rw [hgap, ← htail, hsplit]
    · rw [List.takeWhile_cons_of_pos hc]
      exact List.cons_ne_nil _ _
    · cases hrest : (c :: tail).dropWhile isBlank with
      | nil =>
        -- then the text would end in white space
        have hall := List.dropWhile_eq_nil_iff.mp hrest
        have hlast : cs.getLast? = some ((c :: tail).getLast (List.cons_ne_nil _ _)) := by
          rw [← hsplit, htail, List.getLast?_append_of_ne_nil _ (List.cons_ne_nil _ _),
            List.getLast?_eq_some_getLast]
        have hblank := hall _ (List.getLast_mem (List.cons_ne_nil c tail))
        rw [hends _ hlast] at hblank
        cases hblank
      | cons d more =>
        exact ⟨d, rfl, Text.head?_dropWhile isBlank (c :: tail) d (by rw [hrest]; rfl)⟩

theorem allBlank_iff : Text.allBlank s = true ↔ trim s.toList = [] := by
  constructor
  · intro h
    have hnil : s.toList.dropWhile isBlank = [] :=
      List.dropWhile_eq_nil_iff.mpr (List.all_eq_true.mp h)
    rw [trim, Text.trimBoth, hnil]
    rfl
  · intro h
    obtain ⟨before, after, hs, hbefore, hafter⟩ := (stripped_trim s.toList).around
    rw [h, List.nil_append] at hs
    rw [Text.allBlank, hs, List.all_append, List.all_eq_true.mpr hbefore,
      List.all_eq_true.mpr hafter]
    rfl

theorem ofText?_of_blank (h : Text.allBlank s = true) : FenceInfo.ofText? s = none := by
  rw [FenceInfo.ofText?, allBlank_iff.mp h]
  rfl

/-- A text is cut behind its first word and before the next one. -/
theorem ofText?_of_words (stripped : Stripped s.toList (word ++ (gap ++ rest)))
    (nonempty : word ≠ []) (solid : ∀ c ∈ word, isBlank c = false) (apart : gap = [] → rest = [])
    (blank : ∀ c ∈ gap, isBlank c = true) (starts : ∀ c ∈ rest.head?, isBlank c = false) :
    FenceInfo.ofText? s = some ⟨String.ofList (word ++ (gap ++ rest)), String.ofList word,
      if rest.isEmpty then none else some (String.ofList rest)⟩ := by
  have hnext : (gap ++ rest).takeWhile (fun c => !isBlank c) = [] := by
    cases gap with
    | nil => rw [apart rfl, List.nil_append, List.takeWhile_nil]
    | cons c gap => simp [blank c List.mem_cons_self]
  have hword : (word ++ (gap ++ rest)).takeWhile (fun c => !isBlank c) = word := by
    rw [List.takeWhile_append_of_pos (by simpa using solid), hnext, List.append_nil]
  have hrest : (gap ++ rest).dropWhile isBlank = rest := by
    rw [List.dropWhile_append_of_pos blank, Text.dropWhile_eq_self starts]
  have hfull : (word ++ (gap ++ rest)).isEmpty = false := by simp [nonempty]
  unfold FenceInfo.ofText?
  rw [stripped.trim_eq]
  dsimp only
  rw [hfull, hword, List.drop_left, hrest]
  rfl

theorem ofText?_of_word (stripped : Stripped s.toList word) (nonempty : word ≠ [])
    (solid : ∀ c ∈ word, isBlank c = false) :
    FenceInfo.ofText? s = some ⟨String.ofList word, String.ofList word, none⟩ := by
  have hwords : Stripped s.toList (word ++ ([] ++ [])) := by simpa using stripped
  simpa using ofText?_of_words hwords nonempty solid (fun _ => rfl) (by simp) (by simp)

def kept (i : Option FenceInfo) : Option String × Entries :=
  (i.map FenceInfo.language, (i.map FenceInfo.metadata).getD [])

theorem infoTaken_kept (info : Option String) :
    InfoTaken info (kept (info.bind FenceInfo.ofText?)).1
      (kept (info.bind FenceInfo.ofText?)).2 := by
  cases info with
  | none => exact .nothing (by simp)
  | some s =>
    rw [Option.bind_some]
    by_cases hblank : Text.allBlank s = true
    · rw [ofText?_of_blank hblank]
      exact .nothing (by simpa using hblank)
    have hstripped := stripped_trim s.toList
    have hfull : trim s.toList ≠ [] := fun hnil => hblank (allBlank_iff.mpr hnil)
    generalize trim s.toList = text at hstripped hfull
    rcases words_cases hstripped.ends with
      hsolid | ⟨word, gap, rest, rfl, hsolid, hgap, hblanks, hrest⟩
    · rw [ofText?_of_word hstripped hfull hsolid]
      refine .language rfl ?_ ?_ ?_
      · rwa [String.toList_ofList]
      · simpa using hfull
      · rwa [String.toList_ofList]
    · obtain ⟨c, hc, hstarts⟩ := hrest
      have hword : word ≠ [] := by
        rintro rfl
        obtain ⟨d, gap, rfl⟩ := List.exists_cons_of_ne_nil hgap
        have hd := hstripped.starts d rfl
        rw [hblanks d List.mem_cons_self] at hd
        cases hd
      obtain ⟨more, rfl⟩ := List.head?_eq_some_iff.mp hc
      rw [ofText?_of_words hstripped hword hsolid (fun h => absurd h hgap) hblanks
        (by simpa using hstarts)]
      refine @InfoTaken.words _ _ _ _ (String.ofList gap) _ rfl ?_ ?_ ?_ ?_ ?_ ?_ ⟨c, ?_, hstarts⟩
      · rwa [String.toList_ofList]
      · simp [String.ofList_append, String.append_assoc]
      · simpa using hword
      · rwa [String.toList_ofList]
      · simpa using hgap
      · simpa [Text.allBlank] using hblanks
      · simp

theorem InfoTaken.kept_eq (h : InfoTaken info language metadata) :
    kept (info.bind FenceInfo.ofText?) = (language, metadata) := by
  cases h with
  | nothing blank =>
    cases info with
    | none => rfl
    | some s =>
      rw [Option.bind_some, ofText?_of_blank (blank s rfl)]
      rfl
  | language given stripped nonempty solid =>
    rw [given, Option.bind_some, ofText?_of_word stripped (by simpa using nonempty) solid]
    simp [kept, FenceInfo.metadata]
  | @words _ _ _ _ rest given stripped parts nonempty solid apart blank starts =>
    obtain ⟨c, hc, hstarts⟩ := starts
    obtain ⟨more, hmore⟩ := List.head?_eq_some_iff.mp hc
    have hrest : rest.toList.isEmpty = false := by rw [hmore, List.isEmpty_cons]
    rw [parts, String.append_assoc, String.toList_append, String.toList_append] at stripped
    rw [given, Option.bind_some, ofText?_of_words stripped (by simpa using nonempty) solid
      (fun h => absurd h (by simpa using apart)) (List.all_eq_true.mp blank)
      (by simpa [hmore] using hstarts)]
    simp only [kept, hrest]
    simp [FenceInfo.metadata, parts, String.append_assoc]

/-! ### The entries of a metadata block -/

def fieldText : Value → Option String
  | .null => none
  | v => some v.text

/-- **What a field takes of the entries**: the text of the value under its name, and nothing if this
is null or there is none. -/
structure FieldTaken (name : String) (entries : Entries) (field : Option String) : Prop where
  absent : (∀ e ∈ entries, e.1 ≠ .str name) → field = none
  present : ∀ v, (.str name, v) ∈ entries → field = fieldText v

def fieldNames : List String := ["label", "caption", "alignment"]

/-- **Every entry goes to one place**: no key comes twice, the three names go to their fields, and
all other entries are kept in order. -/
structure DirectiveTaken (entries : Entries) (d : Directive) : Prop where
  distinct : Value.KeysDistinct entries
  label : FieldTaken "label" entries d.label
  caption : FieldTaken "caption" entries d.caption
  alignment : FieldTaken "alignment" entries d.alignment
  extra : d.extra =
    entries.filter fun e => !fieldNames.any fun name => Value.sameKey e.1 (.str name)

variable {entries : Entries} {d : Directive} {field : Option String} {name : String}

theorem textField_eq (name : String) (entries : Entries) :
    Directive.textField name entries = (Value.field? name entries).bind fieldText := by
  unfold Directive.textField
  cases Value.field? name entries with
  | none => rfl
  | some v => cases v <;> rfl

theorem fieldTaken_iff (h : Value.KeysDistinct entries) :
    FieldTaken name entries field ↔ Directive.textField name entries = field := by
  rw [textField_eq]
  constructor
  · intro htaken
    cases hfound : Value.field? name entries with
    | none => exact (htaken.absent (Value.field?_eq_none_iff.mp hfound)).symm
    | some v => exact (htaken.present v ((Value.field?_eq_some_iff h).mp hfound)).symm
  · rintro rfl
    refine ⟨fun habsent => ?_, fun v hv => ?_⟩
    · rw [Value.field?_eq_none_iff.mpr habsent, Option.bind_none]
    · rw [(Value.field?_eq_some_iff h).mpr hv, Option.bind_some]

theorem isKnown_eq (k : Value) :
    Directive.isKnown k = fieldNames.any fun name => Value.sameKey k (.str name) := by
  cases k with
  | str s => simp [Directive.isKnown, fieldNames, Value.sameKey, Bool.or_assoc]
  | _ => simp [Directive.isKnown, fieldNames, Value.sameKey, Value.sameNumber, Value.number?]

theorem directiveTaken_iff (h : Value.KeysDistinct entries) :
    DirectiveTaken entries d ↔ Directive.ofMapping entries = d := by
  have hknown : (fun e : Value × Value => !Directive.isKnown e.1) = fun e =>
      !fieldNames.any fun name => Value.sameKey e.1 (.str name) := by
    funext e
    rw [isKnown_eq]
  constructor
  · intro htaken
    rw [Directive.ofMapping, (fieldTaken_iff h).mp htaken.label,
      (fieldTaken_iff h).mp htaken.caption, (fieldTaken_iff h).mp htaken.alignment, hknown,
      ← htaken.extra]
  · rintro rfl
    exact ⟨h, (fieldTaken_iff h).mpr rfl, (fieldTaken_iff h).mpr rfl, (fieldTaken_iff h).mpr rfl,
      congrArg entries.filter hknown⟩

/-! ### The metadata block -/

/-- A block is decoded into entries; one that says nothing has none. -/
def BlockDecoded (block : String) (entries : Entries) : Prop :=
  Yaml.load block = .ok (.map entries) ∨ Yaml.load block = .ok .null ∧ entries = []

theorem BlockDecoded.keysDistinct {block : String} (h : BlockDecoded block entries) :
    Value.KeysDistinct entries := by
  rcases h with hmap | ⟨-, rfl⟩
  · exact Yaml.keysDistinct_of_load hmap
  · exact .nil

theorem fieldsWith_usual_eq_ok_iff {block : String} {language : Option String} :
    fieldsWith .usual block language = .ok entries ↔ BlockDecoded block entries := by
  unfold fieldsWith BlockDecoded
  rw [Yaml.Loader.usual_load]
  cases Yaml.load block with
  | error p => cases p <;> simp [Except.map]
  | ok v => cases v <;> simp [Except.map, Value.root, eq_comm]

/-- The delimiter of metadata blocks in code. -/
def fenceFormats : List (String × String) := [("---", "yaml")]

/-- **A code is taken** as a whole, if no metadata block is delimited on its top. Otherwise it is
the opening line, the block, the closing line and what is taken as the content, and the entries of
the block go to the directive. -/
inductive CodeTaken (code : String) : String → Directive → Prop where
  | whole (undelimited : ∀ s opening closing,
      ¬ Frontmatter.Delimits fenceFormats code s opening closing) : CodeTaken code code {}
  | below {s : Frontmatter.Split} {opening closing : List Char} {entries : Entries} {d : Directive}
      (delimits : Frontmatter.Delimits fenceFormats code s opening closing)
      (lossless : code = String.ofList opening ++ s.block ++ String.ofList closing ++ s.rest)
      (decoded : BlockDecoded s.block entries) (taken : DirectiveTaken entries d) :
      CodeTaken code s.rest d

section Code

variable {raw : String} {i : Option FenceInfo} {s : Frontmatter.Split} {n : Node}
  {α : Type} {l : Yaml.Loader α} {directive : α → Directive}

theorem codeBlockWith_of_split?_none (h : Frontmatter.split? fenceFormats (unended raw) = none) :
    codeBlockWith l directive raw i =
      .ok (.codeBlock (unended raw) (kept i).1 {} (kept i).2) := by
  unfold codeBlockWith
  rw [dropFinalBreak_eq_unended]
  dsimp only
  rw [show Frontmatter.split? [("---", "yaml")] (unended raw) = none from h]
  rfl

theorem codeBlockWith_of_split?_some
    (h : Frontmatter.split? fenceFormats (unended raw) = some s) :
    codeBlockWith l directive raw i = (fieldsWith l s.block (kept i).1).map fun fields =>
      .codeBlock s.rest (kept i).1 (directive fields) (kept i).2 := by
  unfold codeBlockWith
  rw [dropFinalBreak_eq_unended]
  dsimp only
  rw [show Frontmatter.split? [("---", "yaml")] (unended raw) = some s from h]
  rfl

/-- A code block is made exactly if its code can be taken. -/
theorem codeBlock_eq_ok_iff : codeBlock raw i = .ok n ↔ ∃ content d,
    n = .codeBlock content (kept i).1 d (kept i).2 ∧ CodeTaken (unended raw) content d := by
  cases hsplit : Frontmatter.split? fenceFormats (unended raw) with
  | none =>
    have hundelimited : ∀ s opening closing,
        ¬ Frontmatter.Delimits fenceFormats (unended raw) s opening closing := by
      intro s opening closing hdelimits
      cases hsplit.symm.trans (Frontmatter.split?_eq_some_iff.mpr ⟨_, _, hdelimits⟩)
    rw [codeBlock, codeBlockWith_of_split?_none hsplit]
    constructor
    · intro h
      obtain rfl := Except.ok.inj h
      exact ⟨_, _, rfl, .whole hundelimited⟩
    · rintro ⟨content, d, rfl, htaken⟩
      cases htaken with
      | whole => rfl
      | below hdelimits => exact absurd hdelimits (hundelimited _ _ _)
  | some s =>
    obtain ⟨opening, closing, hdelimits⟩ := Frontmatter.split?_eq_some_iff.mp hsplit
    rw [codeBlock, codeBlockWith_of_split?_some hsplit, Outcome.map_eq_ok_iff]
    constructor
    · rintro ⟨entries, hfields, rfl⟩
      have hdecoded := fieldsWith_usual_eq_ok_iff.mp hfields
      have htaken := (directiveTaken_iff hdecoded.keysDistinct).mpr rfl
      exact ⟨s.rest, _, rfl, .below hdelimits hdelimits.eq_append hdecoded htaken⟩
    · rintro ⟨content, d, rfl, htaken⟩
      cases htaken with
      | whole hundelimited => exact absurd hdelimits (hundelimited _ _ _)
      | below hdelimits' _ hdecoded htaken =>
        -- a text is split in one way
        have hsame := hsplit.symm.trans (Frontmatter.split?_eq_some_iff.mpr ⟨_, _, hdelimits'⟩)
        obtain rfl := Option.some.inj hsame
        obtain rfl := (directiveTaken_iff hdecoded.keysDistinct).mp htaken
        exact ⟨_, fieldsWith_usual_eq_ok_iff.mpr hdecoded, rfl⟩

end Code

/-! ### A code block and its parts -/

theorem infoOf_eq {h : Head}
    (hinfo : (h.attribute? "info").getD .null = (info.map Value.str).getD .null) :
    infoOf (h.attribute? "info") = .ok (info.bind FenceInfo.ofText?) := by
  cases info with
  | none =>
    cases hgiven : h.attribute? "info" with
    | none => rfl
    | some v =>
      rw [hgiven] at hinfo
      obtain rfl : v = .null := hinfo
      rfl
  | some s =>
    cases hgiven : h.attribute? "info" with
    | none =>
      rw [hgiven] at hinfo
      cases hinfo
    | some v =>
      rw [hgiven] at hinfo
      obtain rfl : v = .str s := hinfo
      rfl

/-- **A code block is decomposed without loss.** Of a raw text and an info text, if there is one, a
code block is made exactly if they can be taken apart, and of these parts. The info text is the
language, white space and further words. The raw text without its final line break is the content,
or the opening line, a metadata block, the closing line and the content, and every entry of the
block is taken by a field or kept. -/
theorem fence_decomposed_iff {h : Head} {raw : String} {info : Option String}
    (hraw : h.raw = some (.str raw))
    (hinfo : (h.attribute? "info").getD .null = (info.map Value.str).getD .null) (n : Node) :
    codeNode h = .ok n ↔ ∃ content language d metadata,
      n = .codeBlock content language d metadata ∧ InfoTaken info language metadata ∧
        CodeTaken (unended raw) content d := by
  have hcode : codeNode h = codeBlock raw (info.bind FenceInfo.ofText?) := by
    unfold codeNode Head.rawValue
    rw [hraw, infoOf_eq hinfo]
    rfl
  rw [hcode, codeBlock_eq_ok_iff]
  constructor
  · rintro ⟨content, d, rfl, htaken⟩
    exact ⟨content, _, d, _, rfl, infoTaken_kept info, htaken⟩
  · rintro ⟨content, language, d, metadata, rfl, hinfoTaken, htaken⟩
    refine ⟨content, d, ?_, htaken⟩
    rw [hinfoTaken.kept_eq]

theorem scan_labelled : Yaml.scan "label: a\nnote: b\n".toList =
    ([.blockMappingStart, .key, .scalar "label" true, .value, .scalar "a" true, .key,
      .scalar "note" true, .value, .scalar "b" true, .blockEnd, .streamEnd], none) := by
  decide +kernel

theorem load_labelled : Yaml.load "label: a\nnote: b\n" =
    .ok (.map [(.str "label", .str "a"), (.str "note", .str "b")]) := by
  let word (s : String) : Yaml.Tree := .scalar (Yaml.coreTag "str") s
  let entries := [(word "label", word "a"), (word "note", word "b")]
  have hword : ∀ s, Yaml.build (word s) = .ok (.str s) := fun s =>
    by rw [Yaml.build]; rfl
  have hcompose : Yaml.compose "label: a\nnote: b\n".toList =
      .ok (some (.mapping (Yaml.coreTag "map") entries)) := by
    unfold Yaml.compose
    rw [scan_labelled]
    rfl
  have hentries : Yaml.buildEntries entries =
      .ok [(.str "label", .str "a"), (.str "note", .str "b")] := by
    simp only [entries, Yaml.buildEntries, hword]
    rfl
  have hbuild : Yaml.build (.mapping (Yaml.coreTag "map") entries) =
      .ok (.map [(.str "label", .str "a"), (.str "note", .str "b")]) := by
    rw [Yaml.build, show Yaml.flattenEntries entries = .ok entries from rfl]
    simp only [hentries]
    rfl
  unfold Yaml.load
  rw [hcompose]
  show Yaml.construct _ = _
  rw [Yaml.construct, hbuild]

/-- A table with a label and a note, and an info text with white space around it. -/
theorem fence_decomposed_iff_csv :
    let raw := "---\nlabel: a\nnote: b\n--- \n1,2\n"
    let h : Head := { kind := .blockCode, raw := some (.str raw),
                      attributes := some [(.str "info", .str " csv  head=1 ")] }
    h.raw = some (.str raw) ∧
      (h.attribute? "info").getD .null = ((some " csv  head=1 ").map Value.str).getD .null ∧
      codeNode h = .ok (.codeBlock "1,2" (some "csv")
        { label := some "a", extra := [(.str "note", .str "b")] }
        [(.str "info_string", .str "csv  head=1"), (.str "info_attrs", .str "head=1")]) := by
  intro raw h
  have hinfo : InfoTaken (some " csv  head=1 ") (some "csv")
      [(.str "info_string", .str "csv  head=1"), (.str "info_attrs", .str "head=1")] :=
    infoTaken_kept (some " csv  head=1 ")
  have hdelimits : Frontmatter.Delimits fenceFormats (unended raw)
      ⟨"yaml", "label: a\nnote: b\n", "1,2"⟩ "---\n".toList "--- \n".toList :=
    ⟨by decide, by decide, by decide, by decide⟩
  have hdecoded : BlockDecoded "label: a\nnote: b\n" _ := .inl load_labelled
  have htaken := (directiveTaken_iff hdecoded.keysDistinct).mpr rfl
  refine ⟨rfl, rfl, ?_⟩
  exact (@fence_decomposed_iff _ _ (some " csv  head=1 ") rfl rfl _).mpr
    ⟨_, _, _, _, rfl, hinfo, .below hdelimits hdelimits.eq_append hdecoded htaken⟩

end Markdown

end Manuscript
