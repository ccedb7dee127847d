import Manuscript.Proofs.Conversion.Body
import Manuscript.Proofs.Markdown.Emission

/-!
# Extensions that are switched off

A node of a kind that belongs to an extension stands in a parsed document only if the options switch
the extension on, at every depth and whatever the other switches are (`parse_enabled`).

Every kind of nodes arises from tokens of its own: the invariant of the builders is that tokens of
which every one is enabled (`Token.Enabled`) give nodes that are enabled throughout
(`Node.EnabledThroughout`). Rows and cells of tables and definitions of footnotes are built of
whatever tokens stand where they are expected; these are switched on with the table and the section
of footnotes around them. It remains that the tokens of a text are enabled, which is part of the
grammar they are emitted by.
-/

namespace Manuscript

/-! ### Nodes and tokens of extensions -/

namespace Node

/-- The options switch on what a node belongs to. -/
def Enabled (o : ParserOptions) : Node → Prop
  | frontMatter .. => o.frontmatter.truthy = true
  | mathInline .. | mathBlock .. => o.math.truthy = true
  | table .. | tableRow .. | tableCell .. => o.tables.truthy = true
  | footnoteReference .. | footnoteDefinition .. => o.footnotes.truthy = true
  | strikethrough .. => o.strikethrough.truthy = true
  | listItem _ task _ => task.isSome = true → o.taskLists.truthy = true
  | _ => True

/-- The options switch on what a node and all that it contains belongs to. -/
def EnabledThroughout (o : ParserOptions) (n : Node) : Prop := ∀ m, n.Contains m → m.Enabled o

namespace EnabledThroughout

variable {o : ParserOptions} {n : Node}

theorem mk (own : n.Enabled o) (children : ∀ c ∈ n.children, EnabledThroughout o c) :
    EnabledThroughout o n := by
  intro m hm
  cases hm with
  | self => exact own
  | child hc hm => exact children _ hc m hm

theorem leaf (own : n.Enabled o) (h : n.children = []) : EnabledThroughout o n :=
  mk own (by simp [h])

end EnabledThroughout

end Node

namespace Markdown

open Node

variable {o : ParserOptions}

/-- The options switch on what a token and all that it holds belongs to. -/
inductive Token.Enabled (o : ParserOptions) : Token → Prop where
  | leaf {h : Head} (kind : h.kind.Enabled o) : Enabled o (.leaf h)
  | branch {h : Head} {children : List Token} (kind : h.kind.Enabled o)
      (inside : ∀ t ∈ children, Enabled o t) : Enabled o (.branch h children)
  | misfit {h : Head} {v : Value} (kind : h.kind.Enabled o) : Enabled o (.misfit h v)
  | stray {v : Value} : Enabled o (.stray v)

abbrev AllEnabled (o : ParserOptions) (ts : List Token) : Prop := ∀ t ∈ ts, t.Enabled o

theorem Token.Emitted.enabled {site : Site} {t : Token} (h : t.Emitted o site) : t.Enabled o := by
  induction h with
  | leaf _ enabled => exact .leaf enabled
  | branch _ enabled _ _ ih => exact .branch enabled ih

/-- What a builder of nodes ensures of enabled tokens. -/
abbrev BuildsEnabled (o : ParserOptions) (r : Outcome Node) : Prop :=
  Ensures (EnabledThroughout o) r

abbrev BuildsAllEnabled (o : ParserOptions) (r : Outcome (List Node)) : Prop :=
  Ensures (∀ n ∈ ·, EnabledThroughout o n) r

theorem emptyList_enabled (v : Value) : BuildsAllEnabled o (emptyList v) := by
  unfold emptyList
  refine Ensures.of_forall_bind fun vs => ?_
  split
  · exact .ok (by simp)
  · exact .error _

/-! ### Inline elements -/

theorem inlineNode_enabled {h : Head} (hk : h.kind.Enabled o) {content : List Node}
    (hc : ∀ n ∈ content, EnabledThroughout o n) : BuildsEnabled o (inlineNode h content) := by
  unfold inlineNode
  split
  case h_6 heq | h_7 heq =>
    rw [heq] at hk
    exact .ok (.leaf hk rfl)
  case h_8 | h_9 | h_10 => exact .ok (.mk trivial hc)
  case h_11 heq =>
    rw [heq] at hk
    exact .ok (.mk hk hc)
  case h_12 =>
    split
    · exact .error _
    · exact .error _
  all_goals exact .ok (.leaf trivial rfl)

theorem imageNode_enabled (h : Head) (alt : String) : EnabledThroughout o (imageNode h alt) :=
  .leaf trivial rfl

mutual

theorem inline_enabled : ∀ {t : Token}, t.Enabled o → BuildsEnabled o (inline t)
  | .leaf h, .leaf hk => by
    rw [inline]
    split
    · exact .ok (imageNode_enabled h "")
    · exact inlineNode_enabled hk (by simp)
  | .branch h children, .branch hk hchildren => by
    rw [inline]
    split
    · exact .of_forall_map (imageNode_enabled h)
    case h_6 => exact inlineNode_enabled hk (by simp)
    all_goals exact (inlines_enabled hchildren).bind fun _ hc => inlineNode_enabled hk hc
  | .misfit h v, .misfit hk => by
    rw [inline]
    split
    · exact .of_forall_map fun _ => imageNode_enabled h ""
    · exact inlineNode_enabled hk (by simp)
  | .stray _, _ => .error _

theorem inlines_enabled : ∀ {ts : List Token}, AllEnabled o ts → BuildsAllEnabled o (inlines ts)
  | [], _ => .ok (by simp)
  | t :: ts, h => by
    obtain ⟨ht, hts⟩ := List.forall_mem_cons.mp h
    rw [inlines]
    refine (inline_enabled ht).bind fun n hn => (inlines_enabled hts).bind fun ns hns => .ok ?_
    exact List.forall_mem_cons.mpr ⟨hn, hns⟩

end

theorem content_enabled {t : Token} (h : t.Enabled o) : BuildsAllEnabled o (content t) := by
  cases h with
  | leaf | misfit => exact .ok (by simp)
  | branch _ hchildren => exact inlines_enabled hchildren
  | stray => exact .error _

/-! ### Tables -/

theorem overChildren_enabled {step : List Token → Outcome (List Node)}
    (hstep : ∀ {ts}, AllEnabled o ts → BuildsAllEnabled o (step ts)) {t : Token}
    (h : t.Enabled o) : BuildsAllEnabled o (overChildren step t) := by
  cases h with
  | leaf => exact .ok (by simp)
  | branch _ hchildren => exact hstep hchildren
  | misfit => exact emptyList_enabled _
  | stray => exact .error _

section Tables

variable (ho : o.tables.truthy = true)
include ho

theorem cell_enabled {t : Token} (h : t.Enabled o) : BuildsEnabled o (cell t) := by
  unfold cell
  refine Ensures.of_forall_bind fun head => ?_
  exact (content_enabled h).bind fun ns hns => .ok (.mk ho hns)

theorem cells_enabled {ts : List Token} (h : AllEnabled o ts) :
    BuildsAllEnabled o (ts.mapM cell) :=
  .mapM fun t ht => cell_enabled ho (h t ht)

theorem row_enabled {t : Token} (h : t.Enabled o) : BuildsEnabled o (row t) := by
  unfold row
  exact (overChildren_enabled (cells_enabled ho) h).bind fun cs hcs => .ok (.mk ho hcs)

theorem rows_enabled {ts : List Token} (h : AllEnabled o ts) : BuildsAllEnabled o (ts.mapM row) :=
  .mapM fun t ht => row_enabled ho (h t ht)

theorem tableParts_enabled : ∀ {ts : List Token}, AllEnabled o ts →
    Ensures (fun parts => ∀ n ∈ parts.1.toList ++ parts.2, EnabledThroughout o n) (tableParts ts)
  | [], _ => .ok (by simp)
  | t :: ts, h => by
    obtain ⟨ht, hts⟩ := List.forall_mem_cons.mp h
    rw [tableParts]
    refine Ensures.of_forall_bind fun head => ?_
    split
    · refine (overChildren_enabled (cells_enabled ho) ht).bind fun cells hcells => ?_
      refine (tableParts_enabled hts).bind fun parts hrest => .ok ?_
      obtain ⟨header, rows⟩ := parts
      -- a later header takes the place of this one
      cases header with
      | none => exact List.forall_mem_cons.mpr ⟨.mk ho hcells, hrest⟩
      | some n => exact hrest
    · refine (overChildren_enabled (rows_enabled ho) ht).bind fun first hfirst => ?_
      refine (tableParts_enabled hts).bind fun parts hrest => .ok fun n hn => ?_
      simp only [List.mem_append] at hn hrest
      rcases hn with hn | hn | hn
      · exact hrest n (.inl hn)
      · exact hfirst n hn
      · exact hrest n (.inr hn)
    · exact tableParts_enabled hts

end Tables

/-! ### Blocks -/

theorem headingNode_enabled (h : Head) {content : List Node}
    (hc : ∀ n ∈ content, EnabledThroughout o n) : BuildsEnabled o (headingNode h content) := by
  unfold headingNode
  refine Ensures.of_forall_bind fun level => ?_
  unfold heading?
  split
  · exact .error _
  · exact .ok (.mk trivial hc)

theorem codeBlock_enabled (raw : String) (info : Option FenceInfo) :
    BuildsEnabled o (codeBlock raw info) := by
  unfold codeBlock codeBlockWith
  dsimp only
  split
  · exact .of_forall_bind fun _ => .ok (.leaf trivial rfl)
  · exact .ok (.leaf trivial rfl)

theorem codeNode_enabled (h : Head) : BuildsEnabled o (codeNode h) := by
  unfold codeNode
  split
  · exact .of_forall_bind (codeBlock_enabled _)
  · exact .error _

theorem itemNode_enabled {h : Head} (hk : h.kind.Enabled o) {children : List Node}
    (hc : ∀ n ∈ children, EnabledThroughout o n) :
    EnabledThroughout o (itemNode h children) := by
  refine .mk ?_ hc
  -- only an item of a task list has a state
  show Option.isSome _ = true → _
  split
  case h_1 heq _ =>
    rw [heq] at hk
    exact fun _ => hk
  case h_2 => simp

/-- A builder of one node, used where a list is asked for. -/
theorem BuildsEnabled.single {r : Outcome Node} (h : BuildsEnabled o r) :
    BuildsAllEnabled o (do return [← r]) :=
  h.bind fun _ hn => .ok (by simpa using hn)

theorem leafBlock_enabled {h : Head} (hk : h.kind.Enabled o) :
    BuildsAllEnabled o (leafBlock h) := by
  have hsingle : ∀ n, EnabledThroughout o n → BuildsAllEnabled o (.ok [n]) := by
    intro n hn
    exact .ok (by simpa using hn)
  unfold leafBlock
  split
  · exact .ok (by simp)
  · exact .ok (by simp)
  · exact (headingNode_enabled h (by simp)).single
  case h_6 => exact (codeNode_enabled h).single
  case h_9 heq | h_12 heq =>
    rw [heq] at hk
    exact hsingle _ (.leaf hk rfl)
  case h_13 => exact .error _
  all_goals exact hsingle _ (.leaf trivial rfl)

theorem misfitBlock_enabled {h : Head} (hk : h.kind.Enabled o) (v : Value) :
    BuildsAllEnabled o (misfitBlock h v) := by
  unfold misfitBlock
  split
  case h_5 => exact leafBlock_enabled hk
  all_goals exact .of_forall_bind fun _ => leafBlock_enabled hk

mutual

theorem block_enabled : ∀ {t : Token}, t.Enabled o → BuildsAllEnabled o (block t)
  | .leaf h, .leaf hk => leafBlock_enabled hk
  | .branch h children, .branch hk hchildren => by
    rw [block]
    split
    · exact (inlines_enabled hchildren).bind fun _ hc => (headingNode_enabled h hc).single
    · exact (inlines_enabled hchildren).bind fun _ hc => .ok (by simpa using .mk trivial hc)
    · exact (inlines_enabled hchildren).bind fun _ hc => .ok (by simpa using .mk trivial hc)
    · exact (blocks_enabled hchildren).bind fun _ hc => .ok (by simpa using .mk trivial hc)
    · exact (items_enabled hchildren).bind fun _ hc => .ok (by simpa using .mk trivial hc)
    case h_6 heq =>
      rw [heq] at hk
      exact (tableParts_enabled hk hchildren).bind fun _ hc => .ok (by simpa using .mk hk hc)
    case h_7 heq =>
      rw [heq] at hk
      exact footnotes_enabled hk hchildren
    · exact leafBlock_enabled hk
  | .misfit h v, .misfit hk => misfitBlock_enabled hk v
  | .stray _, _ => .error _

theorem blocks_enabled : ∀ {ts : List Token}, AllEnabled o ts → BuildsAllEnabled o (blocks ts)
  | [], _ => .ok (by simp)
  | t :: ts, h => by
    obtain ⟨ht, hts⟩ := List.forall_mem_cons.mp h
    rw [blocks]
    refine (block_enabled ht).bind fun first hfirst =>
      (blocks_enabled hts).bind fun rest hrest => .ok ?_
    exact List.forall_mem_append.mpr ⟨hfirst, hrest⟩

theorem items_enabled : ∀ {ts : List Token}, AllEnabled o ts → BuildsAllEnabled o (items ts)
  | [], _ => .ok (by simp)
  | .leaf h :: ts, hall => by
    obtain ⟨ht, hts⟩ := List.forall_mem_cons.mp hall
    cases ht with
    | leaf hk =>
      rw [items]
      refine Ensures.of_forall_bind fun _ => (items_enabled hts).bind fun rest hrest => .ok ?_
      exact List.forall_mem_cons.mpr ⟨itemNode_enabled hk (by simp), hrest⟩
  | .branch h children :: ts, hall => by
    obtain ⟨ht, hts⟩ := List.forall_mem_cons.mp hall
    cases ht with
    | branch hk hchildren =>
      rw [items]
      refine Ensures.of_forall_bind fun _ => (blocks_enabled hchildren).bind fun inner hinner =>
        (items_enabled hts).bind fun rest hrest => .ok ?_
      exact List.forall_mem_cons.mpr ⟨itemNode_enabled hk hinner, hrest⟩
  | .misfit h v :: ts, hall => by
    obtain ⟨ht, hts⟩ := List.forall_mem_cons.mp hall
    cases ht with
    | misfit hk =>
      rw [items]
      refine Ensures.of_forall_bind fun _ => (emptyList_enabled (o := o) v).bind fun inner hinner =>
        (items_enabled hts).bind fun rest hrest => .ok ?_
      exact List.forall_mem_cons.mpr ⟨itemNode_enabled hk hinner, hrest⟩
  | .stray _ :: ts, hall => by
    rw [items]
    exact items_enabled (List.forall_mem_cons.mp hall).2

theorem footnotes_enabled (ho : o.footnotes.truthy = true) : ∀ {ts : List Token},
    AllEnabled o ts → BuildsAllEnabled o (footnotes ts)
  | [], _ => .ok (by simp)
  | .leaf h :: ts, hall => by
    obtain ⟨-, hts⟩ := List.forall_mem_cons.mp hall
    rw [footnotes]
    refine (footnotes_enabled ho hts).bind fun rest hrest => .ok ?_
    exact List.forall_mem_cons.mpr ⟨.leaf ho rfl, hrest⟩
  | .branch h children :: ts, hall => by
    obtain ⟨ht, hts⟩ := List.forall_mem_cons.mp hall
    cases ht with
    | branch _ hchildren =>
      rw [footnotes]
      refine (blocks_enabled hchildren).bind fun inner hinner =>
        (footnotes_enabled ho hts).bind fun rest hrest => .ok ?_
      exact List.forall_mem_cons.mpr ⟨.mk ho hinner, hrest⟩
  | .misfit h v :: ts, hall => by
    obtain ⟨-, hts⟩ := List.forall_mem_cons.mp hall
    rw [footnotes]
    refine (emptyList_enabled (o := o) v).bind fun inner hinner =>
      (footnotes_enabled ho hts).bind fun rest hrest => .ok ?_
    exact List.forall_mem_cons.mpr ⟨.mk ho hinner, hrest⟩
  | .stray _ :: _, _ => .error _

end

/-! ### Parsed documents -/

/-- **What is switched off does not come up**: whatever the other switches are, a parsed document
contains at no depth a node that belongs to an extension that is switched off. -/
theorem parse_enabled {o : ParserOptions} {text : String} {document : Node}
    (h : (parse o text).outcome = .ok document) : ∀ m, document.Contains m → m.Enabled o := by
  have htokens : ∀ below, AllEnabled o (tokens o below) := fun below t ht =>
    (tokens_emitted o below t ht).enabled
  rw [parse_outcome] at h
  obtain ⟨body, hbody, rfl⟩ := Outcome.map_eq_ok_iff.mp h
  have hblocks := blocks_enabled (htokens _) body hbody
  refine EnabledThroughout.mk trivial fun c hc => ?_
  rcases List.mem_append.mp hc with hc | hc
  · obtain ⟨s, hs, rfl⟩ := List.mem_map.mp hc
    exact .leaf (frontBlock?_eq_some_iff.mp (Option.mem_toList.mp hs)).1 rfl
  · exact hblocks c hc

/-- Neither strikethrough nor task lists are wanted, but formulas are. -/
def formulasOnly : ParserOptions := { strikethrough := .bool false, taskLists := .bool false }

/-- A list whose only item looks like a task, with a formula in it. -/
def formulaList : Node :=
  .list false [.listItem [.paragraph [.text "[x] ~~a~~ " [], .mathInline "b" []] []] none []] 1
    true []

/-- Whether that list is all that was built. -/
def isFormulaList : Outcome (List Node) → Bool
  | .ok [.list false [.listItem [.paragraph [.text "[x] ~~a~~ " [], .mathInline "b" []] []] none
      []] 1 true []] => true
  | _ => false

/-- The marks of what is switched off stay in the text. -/
theorem parse_enabled_formula_in_item :
    (parse formulasOnly "- [x] ~~a~~ $b$\n").outcome = .ok (.document [formulaList] []) ∧
      ∀ m, (Node.document [formulaList] []).Contains m → m.Enabled formulasOnly := by
  have hfront : frontBlock? formulasOnly (dropMark "- [x] ~~a~~ $b$\n") = none := by decide +kernel
  have hblocks : blocks (tokens formulasOnly "- [x] ~~a~~ $b$\n") = .ok [formulaList] := by
    have hbuilt : isFormulaList (blocks (tokens formulasOnly "- [x] ~~a~~ $b$\n")) = true := by
      decide +kernel
    unfold isFormulaList at hbuilt
    split at hbuilt
    next h => exact h
    next => cases hbuilt
  have hparse : (parse formulasOnly "- [x] ~~a~~ $b$\n").outcome =
      .ok (.document [formulaList] []) := parse_outcome_of_stages hfront hblocks
  exact ⟨hparse, parse_enabled hparse⟩

end Markdown

end Manuscript
