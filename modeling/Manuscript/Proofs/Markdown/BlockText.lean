import Manuscript.Proofs.Frontmatter.FinalBreak
import Manuscript.Proofs.Markdown.InlineText

/-!
# The text of blocks

Of well-formed tokens a tree is built whose text is what the leaves show, at every depth
(`blocks_text`). Two things can go wrong with the leaves themselves. A code block whose info is a
number, say, cannot be read, and a hard break in the alternative text of an image shows its raw
text. If neither is the case no text is lost and none comes twice, and only then
(`blocks_keep_text_iff`).
-/

namespace Manuscript.Markdown

open Node (wholeTexts headerText)

variable {slot : Slot} {t : Token} {ts : List Token} {h : Head} {l : Slot × Head}

/-! ### Code blocks -/

/-- The info of a code block is a text, or counts as none. -/
def Head.InfoFits (h : Head) : Prop :=
  h.kind = .blockCode → ∀ v, h.attribute? "info" = some v → (∃ s, v = .str s) ∨ v.truthy = false

theorem infoOf_ok_iff {given : Option Value} : (∃ i, infoOf given = .ok i) ↔
    ∀ v, given = some v → (∃ s, v = .str s) ∨ v.truthy = false := by
  unfold infoOf
  split
  · exact iff_of_true ⟨_, rfl⟩ nofun
  · rename_i s
    exact iff_of_true ⟨_, rfl⟩ fun v hv => .inl ⟨s, (Option.some.inj hv).symm⟩
  · rename_i v hother
    simp only [Option.some.injEq, forall_eq']
    cases v.truthy with
    | false => exact iff_of_true ⟨_, rfl⟩ (.inr rfl)
    | true =>
      refine iff_of_false nofun ?_
      rintro (⟨s, hs⟩ | hfalsy)
      · exact hother s hs
      · cases hfalsy

/-- A code block without a metadata block has the code for its content. -/
theorem codeNode_eq (fits : h.LeafFits) (hkind : h.kind = .blockCode) :
    codeNode h = (infoOf (h.attribute? "info")).map fun i =>
      .codeBlock h.leafText (kept i).1 {} (kept i).2 := by
  obtain ⟨raw, hraw⟩ := fits.raw (by rw [hkind]; rfl)
  have htext : h.leafText = Text.unended raw := by
    unfold Head.leafText Head.rawValue
    rw [hkind, hraw]
    rfl
  have hsplit : Frontmatter.split? fenceFormats (Text.unended raw) = none := by
    have hundelimited := fits.undelimited hkind
    unfold Head.rawValue at hundelimited
    rw [hraw] at hundelimited
    exact (Frontmatter.split?_unended rfl).mpr hundelimited
  unfold codeNode Head.rawValue
  rw [hraw, htext]
  dsimp only [Option.getD_some]
  cases infoOf (h.attribute? "info") with
  | error e => rfl
  | ok i => exact codeBlockWith_of_split?_none hsplit

theorem codeNode_text (fits : h.LeafFits) (hkind : h.kind = .blockCode) :
    Ensures (fun n => n.wholeText = h.leafText) (codeNode h) := by
  rw [codeNode_eq fits hkind]
  exact .of_forall_map fun i => rfl

/-- Leaves are well-formed where they stand. -/
theorem Token.WellFormed.of_mem_leaves (wf : t.WellFormed slot) :
    ∀ l ∈ t.leaves slot, (Token.leaf l.2).WellFormed l.1 := by
  induction wf with
  | @leaf slot h known fits =>
    intro l hl
    obtain rfl := List.mem_singleton.mp hl
    exact .leaf known fits
  | @branch slot inside h children known fits place held ih =>
    intro l hl
    rw [leavesOf_branch place, leavesOf_eq_flatMap] at hl
    obtain ⟨t, ht, hlt⟩ := List.mem_flatMap.mp hl
    exact ih t ht l hlt

/-- A leaf can be built unless it is a code block with another info. -/
theorem lateProblems_eq_nil_iff (wf : (Token.leaf l.2).WellFormed l.1) :
    lateProblems l.1 l.2 = [] ↔ l.2.InfoFits := by
  obtain ⟨slot, h⟩ := l
  cases wf with
  | leaf known fits =>
    cases hkind : h.kind with
    | blockCode =>
      obtain rfl : slot = .of .block := by
        rw [hkind] at known
        have hsite : some Site.block = some slot.site := eq_of_beq known
        cases slot with
        | alternative => cases hsite
        | of site =>
          cases hsite
          rfl
      simp only [lateProblems, hkind]
      rw [← (stops_problemsOf (codeNode h)).ok_iff, codeNode_eq fits hkind]
      simp only [Outcome.map_eq_ok_iff, exists_comm (α := Node), exists_and_left, exists_eq',
        and_true]
      exact infoOf_ok_iff.trans ⟨fun hinfo _ => hinfo, fun hinfo => hinfo hkind⟩
    | heading =>
      have hsimple := fits.simple
      rw [hkind] at hsimple
      cases hsimple
    | _ => exact iff_of_true (by simp [lateProblems, hkind]) fun hcode => by simp [hkind] at hcode

/-! ### Tables -/

theorem cell_text (wf : t.WellFormed (.of .cell)) :
    ∃ n, cell t = .ok n ∧ n.wholeText = shownTexts (.of .cell) [t] := by
  cases wf with
  | leaf known fits => exact absurd (Token.WellFormed.leaf known fits).site_of_leaf (by decide)
  | @branch _ _ h children known fits place held =>
    obtain rfl := Option.some.inj place
    obtain ⟨ns, hns, htext⟩ := inlines_text held
    refine ⟨.tableCell ns (h.optionalAttribute "align") [], ?_, ?_⟩
    · rw [cell, headOf, content, hns]
      rfl
    · rw [shownTexts_branch rfl, ← htext]
      rfl

/-- Node by node, the text is kept. -/
theorem mapM_text {f : Token → Outcome Node}
    (hf : ∀ t ∈ ts, ∃ n, f t = .ok n ∧ n.wholeText = shownTexts slot [t]) :
    ∃ ns, ts.mapM f = .ok ns ∧ wholeTexts ns = shownTexts slot ts := by
  induction ts with
  | nil => exact ⟨[], rfl, rfl⟩
  | cons t ts ih =>
    obtain ⟨⟨n, hn, hfirst⟩, hts⟩ := List.forall_mem_cons.mp hf
    obtain ⟨ns, hns, hrest⟩ := ih hts
    refine ⟨n :: ns, ?_, ?_⟩
    · rw [List.mapM_cons, hn, hns]
      rfl
    · rw [Node.wholeTexts, hfirst, hrest, ← shownTexts_cons]

theorem row_text (wf : t.WellFormed (.of .row)) :
    ∃ n, row t = .ok n ∧ n.wholeText = shownTexts (.of .row) [t] := by
  cases wf with
  | leaf known fits => exact absurd (Token.WellFormed.leaf known fits).site_of_leaf (by decide)
  | @branch _ _ h children known fits place held =>
    obtain rfl := Option.some.inj place
    obtain ⟨ns, hns, htext⟩ := mapM_text (f := cell) fun t ht => cell_text (held t ht)
    refine ⟨.tableRow ns false [], ?_, ?_⟩
    · rw [row, overChildren, hns]
      rfl
    · rw [shownTexts_branch rfl, ← htext]
      rfl

/-- A part of a table is its head or a body. -/
theorem part_cases (wf : t.WellFormed (.of .part)) :
    (∃ h children, t = .branch h children ∧ h.kind = .tableHead ∧
        AllWellFormed (.of .cell) children) ∨
      ∃ h children, t = .branch h children ∧ h.kind = .tableBody ∧
        AllWellFormed (.of .row) children := by
  cases wf with
  | leaf known fits => exact absurd (Token.WellFormed.leaf known fits).site_of_leaf (by decide)
  | @branch _ _ h children known fits place held =>
    obtain ⟨kind, raw, attributes⟩ := h
    cases kind with
    | tableHead =>
      obtain rfl := Option.some.inj place
      exact .inl ⟨_, children, rfl, rfl, held⟩
    | tableBody =>
      obtain rfl := Option.some.inj place
      exact .inr ⟨_, children, rfl, rfl, held⟩
    | _ => cases known

/-- Bodies give rows, and no header. -/
theorem bodies_text (wf : AllWellFormed (.of .part) ts)
    (headless : ∀ t ∈ ts, ∀ part, headOf t = .ok part → part.kind ≠ .tableHead) :
    ∃ rows, tableParts ts = .ok (none, rows) ∧ wholeTexts rows = shownTexts (.of .part) ts := by
  induction ts with
  | nil => exact ⟨[], rfl, rfl⟩
  | cons t ts ih =>
    obtain ⟨ht, hts⟩ := List.forall_mem_cons.mp wf
    obtain ⟨hhead, hheads⟩ := List.forall_mem_cons.mp headless
    obtain ⟨rows, hrows, hrest⟩ := ih hts hheads
    obtain ⟨h, children, rfl, hkind, _⟩ | ⟨h, children, rfl, hkind, hchildren⟩ := part_cases ht
    · exact absurd hkind (hhead h rfl)
    obtain ⟨ns, hns, hfirst⟩ := mapM_text (f := row) fun t ht => row_text (hchildren t ht)
    have hinside : (Slot.of .part).inside? h.kind = some (.of .row) := by rw [hkind]; rfl
    refine ⟨ns ++ rows, ?_, ?_⟩
    · simp only [tableParts, headOf, overChildren, hns, hrows, hkind, bind, Except.bind]
      rfl
    · rw [Node.wholeTexts_append, shownTexts_cons, shownTexts_branch hinside, hfirst, hrest]

/-- The header and the rows of a table have its text, the header before the rows. -/
theorem tableParts_text (wf : AllWellFormed (.of .part) ts)
    (headless : ∀ t ∈ ts.tail, ∀ part, headOf t = .ok part → part.kind ≠ .tableHead) :
    ∃ header rows, tableParts ts = .ok (header, rows) ∧
      headerText header ++ wholeTexts rows = shownTexts (.of .part) ts := by
  cases ts with
  | nil => exact ⟨none, [], rfl, rfl⟩
  | cons t ts =>
    obtain ⟨ht, hts⟩ := List.forall_mem_cons.mp wf
    obtain ⟨h, children, rfl, hkind, hchildren⟩ | ⟨h, children, rfl, hkind, hchildren⟩ :=
      part_cases ht
    · obtain ⟨cells, hcells, hfirst⟩ := mapM_text (f := cell) fun t ht => cell_text (hchildren t ht)
      obtain ⟨rows, hrows, hrest⟩ := bodies_text hts headless
      have hinside : (Slot.of .part).inside? h.kind = some (.of .cell) := by rw [hkind]; rfl
      refine ⟨some (.tableRow cells true []), rows, ?_, ?_⟩
      · simp only [tableParts, headOf, overChildren, hcells, hrows, hkind, bind, Except.bind]
        rfl
      · rw [shownTexts_cons, shownTexts_branch hinside, ← hfirst, ← hrest]
        rfl
    · have hheadless : ∀ t ∈ Token.branch h children :: ts, ∀ part,
          headOf t = .ok part → part.kind ≠ .tableHead := by
        refine List.forall_mem_cons.mpr ⟨fun part hpart => ?_, headless⟩
        obtain rfl := Except.ok.inj hpart
        intro hhead
        cases hkind.symm.trans hhead
      obtain ⟨rows, hrows, htext⟩ := bodies_text wf hheadless
      refine ⟨none, rows, hrows, ?_⟩
      rw [headerText, String.empty_append, htext]

/-! ### Blocks -/

/-- The nodes that are built, if they are, have the text of the tokens. -/
abbrev Keeps (slot : Slot) (ts : List Token) (r : Outcome (List Node)) : Prop :=
  Ensures (fun ns => wholeTexts ns = shownTexts slot ts) r

namespace Keeps

variable {inside : Slot} {children : List Token} {r rest : Outcome (List Node)}
  {wrap : List Node → Node}

theorem of_branch (place : slot.inside? h.kind = some inside) (hr : Keeps inside children r) :
    Keeps slot [.branch h children] r := by
  unfold Keeps
  rwa [shownTexts_branch place]

/-- A node around the nodes adds no text. -/
theorem wrapped (hwrap : ∀ ns, (wrap ns).wholeText = wholeTexts ns) (hr : Keeps slot ts r) :
    Keeps slot ts (do return [wrap (← r)]) := by
  refine hr.bind fun ns hns => .ok ?_
  rw [Node.wholeTexts_singleton, hwrap, hns]

theorem cons (place : slot.inside? h.kind = some inside)
    (hwrap : ∀ ns, (wrap ns).wholeText = wholeTexts ns) (hr : Keeps inside children r)
    (hrest : Keeps slot ts rest) : Keeps slot (.branch h children :: ts) (do
      let inner ← r
      let others ← rest
      return wrap inner :: others) := by
  unfold Keeps
  rw [shownTexts_cons, shownTexts_branch place]
  refine hr.bind fun inner hinner => hrest.bind fun others hothers => .ok ?_
  rw [Node.wholeTexts, hwrap, hinner, hothers]

end Keeps

theorem inlines_keep (wf : AllWellFormed (.of .inline) ts) :
    Keeps (.of .inline) ts (inlines ts) := by
  obtain ⟨ns, hns, htext⟩ := inlines_text wf
  rw [hns]
  exact .ok htext

theorem leafBlock_text (wf : (Token.leaf h).WellFormed (.of .block)) :
    Keeps (.of .block) [.leaf h] (leafBlock h) := by
  unfold Keeps
  rw [shownTexts_leaf]
  cases wf with
  | leaf known fits =>
    have hcode := codeNode_text fits
    obtain ⟨kind, raw, attributes⟩ := h
    cases kind with
    | blockCode =>
      refine (hcode rfl).bind fun n hn => .ok ?_
      rw [Node.wholeTexts_singleton, hn]
      rfl
    | blankLine => exact .ok rfl
    | thematicBreak | blockHtml | blockMath => exact .ok (Node.wholeTexts_singleton _)
    | heading | paragraph | blockText | blockQuote | list | table | footnotes => cases fits.simple
    | _ => cases known

theorem headingNode_text (ns : List Node) :
    Ensures (fun n => n.wholeText = wholeTexts ns) (headingNode h ns) := by
  refine .of_forall_bind fun level => ?_
  unfold Node.heading?
  split
  · exact .error _
  · exact .ok rfl

mutual

-- the induction goes along the builders; whether they get through is settled further down
theorem block_text : ∀ {t : Token}, t.WellFormed (.of .block) → Keeps (.of .block) [t] (block t)
  | .leaf h, wf => leafBlock_text wf
  | .branch h children, wf@(.branch known fits _ _) => by
    obtain ⟨kind, raw, attributes⟩ := h
    cases kind with
    | heading =>
      refine .of_branch rfl ((inlines_keep (wf.held rfl)).bind fun ns hns => ?_)
      refine (headingNode_text ns).bind fun n hn => .ok ?_
      rw [Node.wholeTexts_singleton, hn, hns]
    | paragraph | blockText =>
      exact .of_branch rfl (.wrapped (fun _ => rfl) (inlines_keep (wf.held rfl)))
    | blockQuote => exact .of_branch rfl (.wrapped (fun _ => rfl) (blocks_text (wf.held rfl)))
    | list => exact .of_branch rfl (.wrapped (fun _ => rfl) (items_text (wf.held rfl)))
    | table =>
      -- a table holds two things, its header and its rows
      obtain ⟨header, rows, hparts, htext⟩ := tableParts_text (wf.held rfl) (fits.parts rfl)
      refine .of_branch rfl ?_
      rw [block, hparts]
      refine .ok ?_
      rw [Node.wholeTexts_singleton, ← htext]
      rfl
    | footnotes => exact .of_branch rfl (footnotes_text (wf.held rfl))
    | blankLine | blockCode | thematicBreak | blockHtml | blockMath => cases fits.container
    | _ => cases known

/-- **Whatever blocks are built of well-formed tokens**, they have the text that the leaves show. -/
theorem blocks_text : ∀ {ts : List Token}, AllWellFormed (.of .block) ts →
    Keeps (.of .block) ts (blocks ts)
  | [], _ => .ok rfl
  | t :: ts, wf => by
    obtain ⟨ht, hts⟩ := List.forall_mem_cons.mp wf
    unfold Keeps
    rw [shownTexts_cons, blocks]
    refine (block_text ht).bind fun first hfirst => (blocks_text hts).bind fun rest hrest => .ok ?_
    rw [Node.wholeTexts_append, hfirst, hrest]

theorem items_text : ∀ {ts : List Token}, AllWellFormed (.of .item) ts →
    Keeps (.of .item) ts (items ts)
  | [], _ => .ok rfl
  | .leaf _ :: _, wf => absurd (wf _ List.mem_cons_self).site_of_leaf (by decide)
  | .misfit _ _ :: _, wf | .stray _ :: _, wf => nomatch wf _ List.mem_cons_self
  | .branch h children :: ts, wf => by
    obtain ⟨ht, hts⟩ := List.forall_mem_cons.mp wf
    exact .of_forall_bind fun _ =>
      Keeps.cons rfl (fun _ => rfl) (blocks_text (ht.held rfl)) (items_text hts)

theorem footnotes_text : ∀ {ts : List Token}, AllWellFormed (.of .note) ts →
    Keeps (.of .note) ts (footnotes ts)
  | [], _ => .ok rfl
  | .leaf _ :: _, wf => absurd (wf _ List.mem_cons_self).site_of_leaf (by decide)
  | .misfit _ _ :: _, wf | .stray _ :: _, wf => nomatch wf _ List.mem_cons_self
  | .branch h children :: ts, wf => by
    obtain ⟨ht, hts⟩ := List.forall_mem_cons.mp wf
    exact .cons rfl (fun _ => rfl) (blocks_text (ht.held rfl)) (footnotes_text hts)

end

/-! ### When no text is lost -/

/-- **Well-formed blocks can be built** unless the info of a code block is no text. -/
theorem blocks_ok_iff (wf : AllWellFormed (.of .block) ts) :
    (∃ ns, blocks ts = .ok ns) ↔ ∀ l ∈ leavesOf (.of .block) ts, l.2.InfoFits := by
  rw [(blocks_stops ts).ok_iff, problemsIn_eq_late wf, List.flatMap_eq_nil_iff]
  refine forall₂_congr fun l hl => lateProblems_eq_nil_iff ?_
  rw [leavesOf_eq_flatMap] at hl
  obtain ⟨t, ht, hlt⟩ := List.mem_flatMap.mp hl
  exact (wf t ht).of_mem_leaves l hlt

/-- **No text is lost, and none comes twice.** Of well-formed blocks a tree is built whose text is
that of their leaves, exactly if the info of every code block is a text or counts as none, and no
hard break in the alternative text of an image has a raw text. -/
theorem blocks_keep_text_iff (wf : AllWellFormed (.of .block) ts) :
    (∃ ns, blocks ts = .ok ns ∧ wholeTexts ns = leafTexts (.of .block) ts) ↔
      ∀ l ∈ leavesOf (.of .block) ts, l.2.InfoFits ∧ (l.1 = .alternative → l.2.Bare) := by
  have hkept : ∀ ns, blocks ts = .ok ns → wholeTexts ns = shownTexts (.of .block) ts :=
    blocks_text wf
  rw [forall₂_and, ← blocks_ok_iff wf, ← shownTexts_eq_iff]
  constructor
  · rintro ⟨ns, hns, htext⟩
    exact ⟨⟨ns, hns⟩, (hkept ns hns).symm.trans htext⟩
  · rintro ⟨⟨ns, hns⟩, hshown⟩
    exact ⟨ns, hns, (hkept ns hns).trans hshown⟩

/-- An image within an image, code in a task, and a table. -/
theorem blocks_keep_text_nested :
    let outer : List Token := [textual .text "b".toList,
      .branch { kind := .image } [textual .codeSpan "c".toList]]
    let line : List Token := [textual .text "a".toList, .leaf { kind := .lineBreak },
      .branch { kind := .image } outer]
    let code : Token := .leaf { kind := .blockCode, raw := some (.str "d\n"),
                                attributes := some [(.str "info", .str "py")] }
    let parts : List Token := [
      .branch { kind := .tableHead } [.branch { kind := .tableCell } [textual .text "e".toList]],
      .branch { kind := .tableBody } [.branch { kind := .tableRow }
        [.branch { kind := .tableCell } [textual .inlineMath "f".toList]]]]
    let ts : List Token := [.branch { kind := .paragraph } line,
      .branch { kind := .list } [.branch { kind := .taskListItem } [code]],
      .leaf { kind := .thematicBreak }, .branch { kind := .table } parts]
    AllWellFormed (.of .block) ts ∧ leafTexts (.of .block) ts = "abcdef" ∧
      ∃ ns, blocks ts = .ok ns ∧ wholeTexts ns = leafTexts (.of .block) ts := by
  intro outer line code parts ts
  have hword {slot : Slot} {kind : TokenKind} {cs : List Char} (known : slot.knows kind = true)
      (simple : kind.isContainer = false) (hcode : kind ≠ .blockCode) :
      AllWellFormed slot [textual kind cs] := .cons (.textual known simple hcode) .nil
  have hcell {kind : TokenKind} {cs : List Char} (known : (Slot.of .inline).knows kind = true)
      (simple : kind.isContainer = false) (hcode : kind ≠ .blockCode) :
      AllWellFormed (.of .cell) [.branch { kind := .tableCell } [textual kind cs]] :=
    .cons (.branch rfl ⟨rfl, nofun, nofun⟩ rfl (hword known simple hcode)) .nil
  have houter : AllWellFormed .alternative outer :=
    .cons (.textual rfl rfl nofun) <|
      .cons (.branch rfl ⟨rfl, nofun, nofun⟩ rfl (hword rfl rfl nofun)) .nil
  have hline : AllWellFormed (.of .inline) line :=
    .cons (.textual rfl rfl nofun) <| .cons (.ofBreak rfl rfl) <|
      .cons (.branch rfl ⟨rfl, nofun, nofun⟩ rfl houter) .nil
  have hcode : AllWellFormed (.of .block) [code] :=
    .cons (.leaf rfl ⟨rfl, fun _ => ⟨_, rfl⟩, fun _ => rfl⟩) .nil
  have hitem : AllWellFormed (.of .item) [.branch { kind := .taskListItem } [code]] :=
    .cons (.branch rfl ⟨rfl, nofun, nofun⟩ rfl hcode) .nil
  have hrow : AllWellFormed (.of .row) [.branch { kind := .tableRow }
      [.branch { kind := .tableCell } [textual .inlineMath "f".toList]]] :=
    .cons (.branch rfl ⟨rfl, nofun, nofun⟩ rfl (hcell rfl rfl nofun)) .nil
  have hparts : AllWellFormed (.of .part) parts :=
    .cons (.branch rfl ⟨rfl, nofun, nofun⟩ rfl (hcell rfl rfl nofun)) <|
      .cons (.branch rfl ⟨rfl, nofun, nofun⟩ rfl hrow) .nil
  have hheadless : ∀ t ∈ parts.tail, ∀ part, headOf t = .ok part → part.kind ≠ .tableHead := by
    intro t ht part hpart
    obtain rfl := List.mem_singleton.mp ht
    obtain rfl := Except.ok.inj hpart
    nofun
  have wf : AllWellFormed (.of .block) ts :=
    .cons (.branch rfl ⟨rfl, nofun, nofun⟩ rfl hline) <|
    .cons (.branch rfl ⟨rfl, nofun, nofun⟩ rfl hitem) <| .cons (.ofBreak rfl rfl) <|
    .cons (.branch rfl ⟨rfl, nofun, fun _ => hheadless⟩ rfl hparts) .nil
  have hleaves : ∀ l ∈ leavesOf (.of .block) ts,
      l.2.InfoFits ∧ (l.1 = .alternative → l.2.Bare) := by
    have hinfo : ∀ v, (Value.str "info").lookup? [(Value.str "info", Value.str "py")] = some v →
        (∃ s, v = .str s) ∨ v.truthy = false :=
      fun v hv => .inl ⟨"py", (Option.some.inj hv).symm⟩
    simpa [ts, line, outer, code, parts, leavesOf, Token.leaves, textual, Slot.inside?,
      Head.InfoFits, Head.Bare, Head.attribute?, Value.field?] using hinfo
  exact ⟨wf, rfl, (blocks_keep_text_iff wf).mpr hleaves⟩

/-- A hard break with a raw text in the alternative text of an image adds this text, and a code
block with a number for its info cannot be read. -/
theorem blocks_text_exceptions :
    let line : List Token := [.branch { kind := .paragraph }
      [.branch { kind := .image } [textual .lineBreak "x".toList]]]
    let code : List Token := [.leaf { kind := .blockCode, raw := some (.str "x"),
                                      attributes := some [(.str "info", .int 5)] }]
    (AllWellFormed (.of .block) line ∧
      ¬ ∃ ns, blocks line = .ok ns ∧ wholeTexts ns = leafTexts (.of .block) line) ∧
    AllWellFormed (.of .block) code ∧
      ¬ ∃ ns, blocks code = .ok ns ∧ wholeTexts ns = leafTexts (.of .block) code := by
  intro line code
  have hbreak : AllWellFormed .alternative [textual .lineBreak "x".toList] :=
    .cons (.textual rfl rfl nofun) .nil
  have himage : AllWellFormed (.of .inline)
      [.branch { kind := .image } [textual .lineBreak "x".toList]] :=
    .cons (.branch rfl ⟨rfl, nofun, nofun⟩ rfl hbreak) .nil
  refine ⟨⟨.cons (.branch rfl ⟨rfl, nofun, nofun⟩ rfl himage) .nil, ?_⟩,
    .cons (.leaf rfl ⟨rfl, fun _ => ⟨_, rfl⟩, fun _ => rfl⟩) .nil, ?_⟩
  · rintro ⟨ns, hns, htext⟩
    obtain rfl : [.paragraph [.image "" "x" none []] []] = ns := Except.ok.inj hns
    exact absurd htext (by decide)
  · rintro ⟨ns, hns, -⟩
    cases hns

end Manuscript.Markdown
