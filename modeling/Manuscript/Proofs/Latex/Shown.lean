import Manuscript.Proofs.Latex.Agreement
import Mathlib.Tactic.SplitIfs

/-!
# What LaTeX shows of a tree

Not all that a tree says is carried into its LaTeX. `Node.shown` puts everything else back to one
fixed value, at every depth: metadata, titles, the states of tasks, the starts of lists, how deep a
subsection is, and what a kind without a rule holds. Two trees that only differ in such things have
the same shown tree, and they come to the same text or to the same failure
(`render_outcome_of_shown_eq`), because each agrees with its shown tree (`visit_shown`).
-/

namespace Manuscript

namespace Node

/-! ### The shown tree -/

/-- A code block with what is shown of it. A block without a language leaves no trace of its
content, a figure has no alignment, and entries without a meaning are never looked at. -/
def shownCode (content : String) (language : Option String) (d : Directive) : Node :=
  if language.getD "" = "" then codeBlock "" language {} []
  else if language = some "figure" then
    codeBlock content language { d with alignment := none, extra := [] } []
  else codeBlock content language { d with extra := [] } []

mutual

/-- **A tree with what is shown of it**: all else has one and the same value in every shown tree. A
kind without a rule is shown by its name alone. -/
def shown : Node → Node
  | document children _ => document (shownAll children) []
  | heading level content _ => heading (min level 2) (shownAll content) []
  | paragraph content _ => paragraph (shownAll content) []
  | codeBlock content language d _ => shownCode content language d
  | list ordered items _ _ _ => list ordered (shownAll items) 1 true []
  | listItem children _ _ => listItem (shownAll children) none []
  | mathBlock content _ => mathBlock content []
  | htmlBlock _ _ => htmlBlock "" []
  | text content _ => text content []
  | link url content _ _ => link url (shownAll content) none []
  | image url altText _ _ => image url altText none []
  | code content _ => code content []
  | mathInline content _ => mathInline content []
  | htmlInline _ _ => htmlInline "" []
  | frontMatter .. => frontMatter "" "" []
  | blockQuote .. => blockQuote [] []
  | thematicBreak _ => thematicBreak []
  | table .. => table [] none []
  | tableRow .. => tableRow [] false []
  | tableCell .. => tableCell [] none []
  | footnoteDefinition .. => footnoteDefinition "" [] []
  | emphasis .. => emphasis [] []
  | strong .. => strong [] []
  | strikethrough .. => strikethrough [] []
  | lineBreak _ => lineBreak []
  | footnoteReference .. => footnoteReference "" []
  | foreign v => foreign v

def shownAll : List Node → List Node
  | [] => []
  | n :: ns => shown n :: shownAll ns

end

theorem shownAll_eq_map (ns : List Node) : shownAll ns = ns.map shown := by
  induction ns with
  | nil => rfl
  | cons n ns ih => rw [shownAll, ih, List.map_cons]

theorem isNode_shownCode (content : String) (language : Option String) (d : Directive) :
    (shownCode content language d).isNode = true := by
  unfold shownCode
  split_ifs <;> rfl

/-- What is shown of a node is a node, and a value in the place of a node is shown as it is. -/
theorem isNode_shown (n : Node) : n.isNode = true ∧ n.shown.isNode = true ∨ n = n.shown := by
  cases n with
  | foreign v => exact .inr (by rw [shown])
  | codeBlock content language d m =>
    refine .inl ⟨rfl, ?_⟩
    rw [shown]
    exact isNode_shownCode content language d
  | _ => exact .inl ⟨rfl, by rw [shown]; rfl⟩

end Node

namespace Latex

open Writing Node

variable {o : RendererOptions}

/-! ### A tree agrees with its shown tree -/

/-- A code block comes to what is shown of it. -/
theorem visit_shownCode (content : String) (language : Option String) (d : Directive)
    (m : Entries) :
    Agree (visit o (.codeBlock content language d m)) (visit o (shownCode content language d)) := by
  rw [shownCode, visit]
  by_cases hplain : language.getD "" = ""
  · rw [if_pos hplain, visit]
    exact Agree.written (by simp [codeBlock, hplain])
  by_cases hfigure : language = some "figure"
  · rw [if_neg hplain, if_pos hfigure, visit]
    exact Agree.written (by simp [codeBlock, hfigure, figure, labelAndCaption])
  · rw [if_neg hplain, if_neg hfigure, visit]
    exact Agree.written (by simp [codeBlock, figure, table, labelAndCaption])

theorem visitBlocks_shown {cs : List Node}
    (h : ∀ c ∈ cs, Agree (visitChild o c) (visitChild o c.shown)) :
    Agree (visitBlocks o true cs) (visitBlocks o true (cs.map shown)) := by
  -- after the first block, a separator stands before each one
  have later : ∀ {ds : List Node}, (∀ d ∈ ds, Agree (visitChild o d) (visitChild o d.shown)) →
      Agree (visitBlocks o false ds) (visitBlocks o false (ds.map shown)) := fun hds =>
    Agree.each (fun d => separate o >>= fun _ => visitChild o d) shown (by rw [visitBlocks])
      visitBlocks_later fun d hd => Local.separator.agree.seq fun _ => hds d hd
  cases cs with
  | nil => exact (visitBlocks_isLocal (by simp)).agree
  | cons c cs =>
    rw [List.map_cons, visitBlocks_first, visitBlocks_first]
    exact (h c List.mem_cons_self).seq fun _ => later fun d hd => h d (List.mem_cons_of_mem _ hd)

theorem visitInline_shown {cs : List Node} (h : ∀ c ∈ cs, Agree (visit o c) (visit o c.shown)) :
    Agree (visitInline o cs) (visitInline o (cs.map shown)) :=
  Agree.each _ shown (by rw [visitInline]) (fun _ _ => by rw [visitInline]) h

theorem visitItems_shown {cs : List Node} (h : ∀ c ∈ cs, Agree (visit o c) (visit o c.shown)) :
    Agree (visitItems o cs) (visitItems o (cs.map shown)) := by
  refine Agree.each
    (fun c => do let s ← capture (visit o c); emitText (command "item" s ++ "\n")) shown
    (by rw [visitItems]) (fun c ns => ?_) fun c hc =>
      (h c hc).captured.seq fun _ => (Local.piece _).agree
  rw [visitItems, bind_assoc]

/-- **A tree agrees with its shown tree**, whatever the options. -/
theorem visit_shown (o : RendererOptions) (n : Node) : Agree (visit o n) (visit o n.shown) := by
  induction n using parts_induction with
  | step n ih =>
    have checked : ∀ c ∈ n.parts, Agree (visitChild o c) (visitChild o c.shown) := fun c hc =>
      visitChild_agree (isNode_shown c) (ih c hc)
    cases n with
    | document cs m =>
      rw [shown, shownAll_eq_map, visit, visit]
      exact visitBlocks_shown checked
    | paragraph cs m | listItem cs t m =>
      rw [shown, shownAll_eq_map, visit, visit]
      exact Agree.each _ shown (by rw [visitChildren]) (fun _ _ => by rw [visitChildren]) checked
    | heading level cs m =>
      rw [shown, shownAll_eq_map, visit, visit]
      have hlevel : min level 2 = 1 ↔ level = 1 := by omega
      simp only [hlevel]
      exact (visitInline_shown ih).captured.seq fun _ => (Local.piece _).agree
    | link url cs t m =>
      rw [shown, shownAll_eq_map, visit, visit]
      exact (visitInline_shown ih).captured.seq fun _ => (Local.piece _).agree
    | list ordered items s t m =>
      rw [shown, shownAll_eq_map, visit, visit]
      exact (Local.piece _).agree.seq fun _ =>
        (visitItems_shown ih).seq fun _ => (Local.piece _).agree
    | codeBlock content language d m =>
      rw [shown]
      exact visit_shownCode content language d m
    | htmlBlock content m =>
      rw [shown, visit, visit]
      exact Agree.run rfl
    -- of the other kinds only fields without effect are put back
    | _ => exact visit_agree_of_eq (by simp only [shown, visit, reject, typeName])

/-- **Rendering depends on what is shown alone**: two trees of one shape and with the same kinds of
nodes, that differ at any nodes in nothing but what LaTeX does not show, come to the same text or to
the same failure. -/
theorem render_outcome_of_shown_eq (o : RendererOptions) {n m : Node} (h : n.shown = m.shown) :
    (render o n).outcome = (render o m).outcome := by
  have agree : ∀ k : Node, (render o k).outcome = (render o k.shown).outcome := fun k =>
    (visitChild_agree (isNode_shown k) (visit_shown o k)).outcome_eq
  rw [agree n, agree m, h]

/-- Two documents that differ in all that is not shown: levels below a section, the start of a list
and the state of a task in it, a title, the alignment of a figure, the content of a code block
without a language, raw markup, and all that a quotation holds. -/
theorem render_outcome_of_shown_eq_quotation :
    let n : Node := .document [.heading 2 [.text "A" []] [],
      .list true [.listItem [.link "u" [.code "c" []] none []] (some .checked) []] 1 true [],
      .codeBlock "x" (some "figure") { label := some "l" } [], .codeBlock "y" none {} [],
      .htmlBlock "<p>" [], .blockQuote [] []] []
    let m : Node := .document [.heading 6 [.text "A" []] [(.str "k", .null)],
      .list true [.listItem [.link "u" [.code "c" []] (some "t") []] none []] 7 false [],
      .codeBlock "x" (some "figure") { label := some "l", alignment := some "ll" } [],
      .codeBlock "" none { caption := some "c" } [], .htmlBlock "" [],
      .blockQuote [.paragraph [.text "q" []] []] []] []
    n.shown = m.shown ∧ (render {} n).outcome = (render {} m).outcome := by
  intro n m
  have h : n.shown = m.shown := by
    simp [n, m, shown, shownAll, shownCode]
  exact ⟨h, render_outcome_of_shown_eq {} h⟩

end Latex

end Manuscript
