import Manuscript.Markdown.Build
import Manuscript.Proofs.Outcome
import Manuscript.Proofs.Tree.Grammar

/-!
# Built trees are grammatical

Whatever the tokens, the nodes that are built of them fit the grammar of document trees at every
depth, and a builder that fails with a fault fails with one of parsing. Each builder has one lemma
of this form; `block_yields` and its companions put them together by induction over the tokens.
-/

namespace Manuscript.Markdown

open Node

/-- What a builder of nodes for a sort of places yields. -/
abbrev Builds (p : Place) (r : Outcome Node) : Prop := Yields [.parsing] (Fits p) r

abbrev BuildsAll (p : Place) (r : Outcome (List Node)) : Prop :=
  Yields [.parsing] (∀ n ∈ ·, Fits p n) r

/-! ### Values and texts -/

theorem elementsOf_yields {kinds : List FaultKind} (v : Value) :
    Yields kinds (fun _ => True) (elementsOf v) := by
  unfold elementsOf
  split
  · exact .ok trivial
  · exact .ok trivial
  · exact .ok trivial
  · exact .ok trivial
  · exact .ok trivial
  · exact .ok trivial
  · exact .breakdown _

theorem emptyList_builds (p : Place) (v : Value) : BuildsAll p (emptyList v) := by
  unfold emptyList
  refine (elementsOf_yields v).bind fun vs _ => ?_
  split
  · exact .ok (by simp)
  · exact .breakdown _

mutual

theorem plainTextOf_yields {kinds : List FaultKind} : ∀ t : Token,
    Yields kinds (fun _ => True) (plainTextOf t)
  | .leaf _ => .ok trivial
  | .branch h children => by
    rw [plainTextOf]
    split
    · exact .ok trivial
    · exact plainText_yields children
  | .misfit h v => by
    rw [plainTextOf]
    split
    · exact .ok trivial
    · exact (elementsOf_yields v).map fun _ _ => trivial
  | .stray _ => .ok trivial

theorem plainText_yields {kinds : List FaultKind} : ∀ ts : List Token,
    Yields kinds (fun _ => True) (plainText ts)
  | [] => .ok trivial
  | t :: ts => by
    rw [plainText]
    exact (plainTextOf_yields t).bind fun _ _ => (plainText_yields ts).bind fun _ _ => .ok trivial

end

/-! ### Inline elements -/

theorem inlineNode_builds (h : Head) {content : List Node} (hc : ∀ n ∈ content, Fits .inline n) :
    Builds .inline (inlineNode h content) := by
  unfold inlineNode
  split
  case h_8 | h_9 | h_10 | h_11 => exact .ok (.mk rfl trivial hc)
  case h_12 =>
    split
    · exact .fault (by simp [Fault.kind])
    · exact .breakdown _
  all_goals exact .ok (.leaf rfl trivial rfl)

theorem imageNode_fits (h : Head) (alt : String) : Fits .inline (imageNode h alt) :=
  .leaf rfl trivial rfl

mutual

theorem inline_builds : ∀ t : Token, Builds .inline (inline t)
  | .leaf h => by
    rw [inline]
    split
    · exact .ok (imageNode_fits h "")
    · exact inlineNode_builds h (by simp)
  | .branch h children => by
    rw [inline]
    split
    · exact (plainText_yields children).map fun alt _ => imageNode_fits h alt
    case h_6 => exact inlineNode_builds h (by simp)
    all_goals exact (inlines_builds children).bind fun _ hc => inlineNode_builds h hc
  | .misfit h v => by
    rw [inline]
    split
    · exact (elementsOf_yields v).map fun _ _ => imageNode_fits h ""
    · exact inlineNode_builds h (by simp)
  | .stray _ => .breakdown _

theorem inlines_builds : ∀ ts : List Token, BuildsAll .inline (inlines ts)
  | [] => .ok (by simp)
  | t :: ts => by
    rw [inlines]
    refine (inline_builds t).bind fun n hn => (inlines_builds ts).bind fun ns hns => .ok ?_
    exact List.forall_mem_cons.mpr ⟨hn, hns⟩

end

theorem content_builds : ∀ t : Token, BuildsAll .inline (content t)
  | .leaf _ | .misfit _ _ => .ok (by simp)
  | .branch _ children => inlines_builds children
  | .stray _ => .breakdown _

/-! ### Tables -/

theorem overChildren_builds {p : Place} {step : List Token → Outcome (List Node)}
    (h : ∀ ts, BuildsAll p (step ts)) : ∀ t : Token, BuildsAll p (overChildren step t)
  | .leaf _ => .ok (by simp)
  | .branch _ children => h children
  | .misfit _ v => emptyList_builds p v
  | .stray _ => .breakdown _

theorem headOf_yields {kinds : List FaultKind} : ∀ t : Token,
    Yields kinds (fun _ => True) (headOf t)
  | .leaf _ | .branch _ _ | .misfit _ _ => .ok trivial
  | .stray _ => .breakdown _

theorem cell_builds (t : Token) : Builds .cell (cell t) := by
  unfold cell
  exact (headOf_yields t).bind fun h _ => (content_builds t).bind fun ns hns =>
    .ok (.mk rfl trivial hns)

theorem cells_builds (ts : List Token) : BuildsAll .cell (ts.mapM cell) :=
  .mapM fun t _ => cell_builds t

theorem row_builds (t : Token) : Builds .row (row t) := by
  unfold row
  exact (overChildren_builds cells_builds t).bind fun cs hcs => .ok (.mk rfl trivial hcs)

theorem rows_builds (ts : List Token) : BuildsAll .row (ts.mapM row) :=
  .mapM fun t _ => row_builds t

/-- The parts of a table are rows: the header, if there is one, and those of the bodies. -/
theorem tableParts_yields : ∀ ts : List Token, Yields [.parsing]
    (fun parts => ∀ n ∈ parts.1.toList ++ parts.2, Fits .row n) (tableParts ts)
  | [] => .ok (by simp)
  | t :: ts => by
    rw [tableParts]
    refine (headOf_yields t).bind fun h _ => ?_
    split
    · refine (overChildren_builds cells_builds t).bind fun cells hcells => ?_
      refine (tableParts_yields ts).bind fun ⟨header, rows⟩ hrest => .ok ?_
      -- a later header takes the place of this one
      cases header with
      | none => exact List.forall_mem_cons.mpr ⟨.mk rfl trivial hcells, hrest⟩
      | some n => exact hrest
    · refine (overChildren_builds rows_builds t).bind fun first hfirst => ?_
      refine (tableParts_yields ts).bind fun ⟨header, rows⟩ hrest => .ok fun n hn => ?_
      simp only [List.mem_append] at hn hrest
      rcases hn with hn | hn | hn
      · exact hrest n (.inl hn)
      · exact hfirst n hn
      · exact hrest n (.inr hn)
    · exact tableParts_yields ts

/-! ### Blocks -/

theorem headingLevel_yields {kinds : List FaultKind} (h : Head) :
    Yields kinds (fun _ => True) (headingLevel h) := by
  unfold headingLevel
  split
  · exact .ok trivial
  · exact .ok trivial
  · exact .ok trivial
  · exact .rejection _
  · split
    · exact .ok trivial
    · exact .rejection _
  · exact .breakdown _

theorem headingNode_builds (h : Head) {content : List Node} (hc : ∀ n ∈ content, Fits .inline n) :
    Builds .block (headingNode h content) := by
  unfold headingNode
  refine (headingLevel_yields h).bind fun level _ => ?_
  unfold heading?
  split
  · exact .rejection _
  · have hlevel : 1 ≤ level.toNat := by omega
    exact .ok (.mk rfl hlevel hc)

theorem fieldsWith_yields (l : Yaml.Loader α) (block : String) (language : Option String) :
    Yields [.parsing] (fun _ => True) (fieldsWith l block language) := by
  unfold fieldsWith
  split
  · exact .ok trivial
  · exact .ok trivial
  · exact .fault (by simp [Fault.kind])
  · exact .fault (by simp [Fault.kind])
  · exact .breakdown _

theorem codeBlock_builds (raw : String) (info : Option FenceInfo) :
    Builds .block (codeBlock raw info) := by
  unfold codeBlock codeBlockWith
  dsimp only
  split
  · exact (fieldsWith_yields _ _ _).bind fun _ _ => .ok (.leaf rfl trivial rfl)
  · exact .ok (.leaf rfl trivial rfl)

theorem infoOf_yields {kinds : List FaultKind} (given : Option Value) :
    Yields kinds (fun _ => True) (infoOf given) := by
  unfold infoOf
  split
  · exact .ok trivial
  · exact .ok trivial
  · split
    · exact .breakdown _
    · exact .ok trivial

theorem codeNode_builds (h : Head) : Builds .block (codeNode h) := by
  unfold codeNode
  split
  · exact (infoOf_yields _).bind fun info _ => codeBlock_builds _ info
  · exact .breakdown _

theorem listNode_fits (h : Head) {items : List Node} (hi : ∀ n ∈ items, Fits .item n) :
    Fits .block (listNode h items) :=
  .mk rfl trivial hi

theorem itemNode_fits (h : Head) {children : List Node} (hc : ∀ n ∈ children, Fits .block n) :
    Fits .item (itemNode h children) :=
  .mk rfl trivial hc

theorem footnoteNode_fits (h : Head) {content : List Node} (hc : ∀ n ∈ content, Fits .block n) :
    Fits .block (footnoteNode h content) :=
  .mk rfl trivial hc

theorem checkItem_yields (h : Head) : Yields [.parsing] (fun _ => True) (checkItem h) := by
  unfold checkItem
  split
  · exact .ok trivial
  · exact .fault (by simp [Fault.kind])

/-- A builder of one node, used where a list is asked for. -/
theorem Builds.single {p : Place} {r : Outcome Node} (h : Builds p r) :
    BuildsAll p (do return [← r]) :=
  h.bind fun _ hn => .ok (by simpa using hn)

theorem leafBlock_builds (h : Head) : BuildsAll .block (leafBlock h) := by
  have hsingle : ∀ n, Fits .block n → BuildsAll .block (.ok [n]) := by
    intro n hn
    exact .ok (by simpa using hn)
  unfold leafBlock
  split
  · exact .ok (by simp)
  · exact .ok (by simp)
  · exact (headingNode_builds h (by simp)).single
  case h_6 => exact (codeNode_builds h).single
  case h_13 => exact .fault (by simp [Fault.kind])
  all_goals exact hsingle _ (.leaf rfl trivial rfl)

theorem misfitBlock_builds (h : Head) (v : Value) : BuildsAll .block (misfitBlock h v) := by
  unfold misfitBlock
  split
  case h_4 => exact (elementsOf_yields v).bind fun _ _ => leafBlock_builds h
  case h_5 => exact leafBlock_builds h
  all_goals exact (emptyList_builds .block v).bind fun _ _ => leafBlock_builds h

mutual

theorem block_builds : ∀ t : Token, BuildsAll .block (block t)
  | .leaf h => leafBlock_builds h
  | .branch h children => by
    rw [block]
    split
    · exact (inlines_builds children).bind fun _ hc => (headingNode_builds h hc).single
    · exact (inlines_builds children).bind fun _ hc => .ok (by simpa using .mk rfl trivial hc)
    · exact (inlines_builds children).bind fun _ hc => .ok (by simpa using .mk rfl trivial hc)
    · exact (blocks_builds children).bind fun _ hc => .ok (by simpa using .mk rfl trivial hc)
    · exact (items_builds children).bind fun _ hc => .ok (by simpa using listNode_fits h hc)
    · exact (tableParts_yields children).bind fun _ hc => .ok (by simpa using .mk rfl trivial hc)
    · exact footnotes_builds children
    · exact leafBlock_builds h
  | .misfit h v => misfitBlock_builds h v
  | .stray _ => .breakdown _

theorem blocks_builds : ∀ ts : List Token, BuildsAll .block (blocks ts)
  | [] => .ok (by simp)
  | t :: ts => by
    rw [blocks]
    refine (block_builds t).bind fun first hfirst =>
      (blocks_builds ts).bind fun rest hrest => .ok ?_
    exact List.forall_mem_append.mpr ⟨hfirst, hrest⟩

theorem items_builds : ∀ ts : List Token, BuildsAll .item (items ts)
  | [] => .ok (by simp)
  | .leaf h :: ts => by
    rw [items]
    refine (checkItem_yields h).bind fun _ _ => (items_builds ts).bind fun rest hrest => .ok ?_
    exact List.forall_mem_cons.mpr ⟨itemNode_fits h (by simp), hrest⟩
  | .branch h children :: ts => by
    rw [items]
    refine (checkItem_yields h).bind fun _ _ => (blocks_builds children).bind fun inner hinner =>
      (items_builds ts).bind fun rest hrest => .ok ?_
    exact List.forall_mem_cons.mpr ⟨itemNode_fits h hinner, hrest⟩
  | .misfit h v :: ts => by
    rw [items]
    refine (checkItem_yields h).bind fun _ _ => (emptyList_builds .block v).bind fun inner hinner =>
      (items_builds ts).bind fun rest hrest => .ok ?_
    exact List.forall_mem_cons.mpr ⟨itemNode_fits h hinner, hrest⟩
  | .stray _ :: ts => by
    rw [items]
    exact items_builds ts

theorem footnotes_builds : ∀ ts : List Token, BuildsAll .block (footnotes ts)
  | [] => .ok (by simp)
  | .leaf h :: ts => by
    rw [footnotes]
    refine (footnotes_builds ts).bind fun rest hrest => .ok ?_
    exact List.forall_mem_cons.mpr ⟨footnoteNode_fits h (by simp), hrest⟩
  | .branch h children :: ts => by
    rw [footnotes]
    refine (blocks_builds children).bind fun inner hinner =>
      (footnotes_builds ts).bind fun rest hrest => .ok ?_
    exact List.forall_mem_cons.mpr ⟨footnoteNode_fits h hinner, hrest⟩
  | .misfit h v :: ts => by
    rw [footnotes]
    refine (emptyList_builds .block v).bind fun inner hinner =>
      (footnotes_builds ts).bind fun rest hrest => .ok ?_
    exact List.forall_mem_cons.mpr ⟨footnoteNode_fits h hinner, hrest⟩
  | .stray _ :: _ => .breakdown _

end

end Manuscript.Markdown
