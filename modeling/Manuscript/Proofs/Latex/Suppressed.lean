import Manuscript.Proofs.Latex.Agreement
import Manuscript.Proofs.Tree.Grammar

/-!
# Nodes that leave no trace

Raw markup, code blocks without a language, attachments and skipped images come to nothing. With
nothing between blocks they can be left out, at any depth, without a change to what the document
comes to (`render_outcome_of_leavesOut`). `LeavesOut` tells which trees come out of a tree that way;
by induction on it, the loops over the children agree before and after (`LoopsAgree`).
-/

namespace Manuscript

namespace Node

/-! ### Leaving nodes out -/

/-- A node with other children. A table with a header takes the first of them for it. -/
def withChildren : Node → List Node → Node
  | document _ m, cs => document cs m
  | heading level _ m, cs => heading level cs m
  | paragraph _ m, cs => paragraph cs m
  | list ordered _ start tight m, cs => list ordered cs start tight m
  | listItem _ task m, cs => listItem cs task m
  | blockQuote _ m, cs => blockQuote cs m
  | table _ none m, cs => table cs none m
  | table _ (some _) m, header :: rows => table rows (some header) m
  | tableRow _ isHeader m, cs => tableRow cs isHeader m
  | tableCell _ alignment m, cs => tableCell cs alignment m
  | footnoteDefinition identifier _ m, cs => footnoteDefinition identifier cs m
  | link url _ title m, cs => link url cs title m
  | emphasis _ m, cs => emphasis cs m
  | strong _ m, cs => strong cs m
  | strikethrough _ m, cs => strikethrough cs m
  | n, _ => n

/-- A node with its own children is the node. -/
theorem withChildren_children (n : Node) : n.withChildren n.children = n := by
  cases n with
  | table rows header m => cases header <;> rfl
  | _ => rfl

/-- Whether nodes can be left out of the children of a node, because they are written one after the
other with nothing around each of them. -/
def isLoose : Node → Bool
  | document .. | paragraph .. | listItem .. | heading .. | link .. => true
  | _ => false

end Node

namespace Latex

open Writing Node

variable {o : RendererOptions}

/-- **A node that leaves no trace.** -/
def Suppressed (o : RendererOptions) : Node → Prop
  | .htmlBlock .. | .htmlInline .. => True
  | .codeBlock _ language _ _ => language = none ∨ language = some ""
  | .image url _ _ _ => imageExtension url ∈ ["bib", "csv"] ∨
      o.imageMode = .skip ∧ imageExtension url ∉ ["png", "jpg", "jpeg"]
  | _ => False

/-- **Suppressed nodes are left out**: the second list is the first one without some suppressed
nodes of its own, which it must be `loose` for, and without some below the nodes that stay, at any
depth. -/
inductive LeavesOut (o : RendererOptions) : Bool → List Node → List Node → Prop where
  | done (loose : Bool) : LeavesOut o loose [] []
  | drop {c : Node} {cs ds : List Node} (hc : Suppressed o c) (rest : LeavesOut o true cs ds) :
      LeavesOut o true (c :: cs) ds
  | keep {loose : Bool} {c : Node} {inner cs ds : List Node}
      (below : LeavesOut o c.isLoose c.children inner) (rest : LeavesOut o loose cs ds) :
      LeavesOut o loose (c :: cs) (c.withChildren inner :: ds)

/-- A node may stay as it is, with its own children. -/
theorem LeavesOut.stay {loose : Bool} {c : Node} {cs ds : List Node}
    (below : LeavesOut o c.isLoose c.children c.children) (rest : LeavesOut o loose cs ds) :
    LeavesOut o loose (c :: cs) (c :: ds) := by
  have h := LeavesOut.keep below rest
  rwa [withChildren_children] at h

/-! ### What leaves no trace -/

theorem codeBlock_plain {language : Option String} (h : language = none ∨ language = some "")
    (content : String) (d : Directive) : (codeBlock language content d).outcome = .ok "" := by
  rcases h with rfl | rfl <;> rfl

theorem image_suppressed {url : String} (h : imageExtension url ∈ ["bib", "csv"] ∨
    o.imageMode = .skip ∧ imageExtension url ∉ ["png", "jpg", "jpeg"]) (altText : String) :
    (image o url altText).outcome = .ok "" := by
  by_cases hattached : isAttachment (imageExtension url) = true
  · simp [image, hattached, Run.pure]
  · obtain ⟨hmode, hpicture⟩ := h.resolve_left fun h => hattached (by simpa [isAttachment] using h)
    have hpicture : isPicture (imageExtension url) = false := by
      simpa [isPicture, and_assoc] using hpicture
    simp [image, hattached, hpicture, hmode]

/-- A suppressed node is rendered by a step that does nothing but log. -/
theorem Suppressed.agree {n : Node} (h : Suppressed o n) : Agree (visit o n) (pure ()) := by
  cases n with
  | htmlBlock content m =>
    rw [visit]
    exact Agree.logged rfl
  | htmlInline content m =>
    rw [visit]
    exact (Local.done ()).agree
  | codeBlock content language d m =>
    rw [visit]
    exact Agree.blank (codeBlock_plain h content d)
  | image url altText title m =>
    rw [visit]
    exact Agree.blank (image_suppressed h altText)
  | _ => exact h.elim

theorem Suppressed.isNode {n : Node} (h : Suppressed o n) : n.isNode = true := by
  cases n with
  | foreign v => exact h.elim
  | _ => rfl

theorem Suppressed.child_agree {n : Node} (h : Suppressed o n) :
    Agree (visitChild o n) (pure ()) := by
  rw [visitChild_of_isNode h.isNode]
  exact h.agree

/-! ### Loops over the children -/

/-- With nothing between blocks they are rendered as any other children. -/
theorem visitBlocks_of_blank (hs : o.blockSeparator.truthy = false) (first : Bool)
    (cs : List Node) : visitBlocks o first cs = visitChildren o cs := by
  induction cs generalizing first with
  | nil => rw [visitBlocks, visitChildren]
  | cons c cs ih =>
    rw [visitBlocks, visitChildren, hs, Bool.and_false, if_neg Bool.false_ne_true, ih]

/-- **The invariant of leaving out**: two lists of children are rendered alike by the loops over
them. An item of a list is never left out, since each one has a command of its own. -/
structure LoopsAgree (o : RendererOptions) (loose : Bool) (cs ds : List Node) : Prop where
  children : Agree (visitChildren o cs) (visitChildren o ds)
  inline : Agree (visitInline o cs) (visitInline o ds)
  items : loose = false → Agree (visitItems o cs) (visitItems o ds)

namespace LoopsAgree

variable {loose : Bool} {c d : Node} {cs ds : List Node}

theorem done (loose : Bool) : LoopsAgree o loose [] [] where
  children := by rw [visitChildren]; exact (Local.done ()).agree
  inline := by rw [visitInline]; exact (Local.done ()).agree
  items _ := by rw [visitItems]; exact (Local.done ()).agree

theorem drop (hc : Suppressed o c) (rest : LoopsAgree o true cs ds) :
    LoopsAgree o true (c :: cs) ds where
  children := by
    rw [visitChildren, ← pure_bind () fun _ => visitChildren o ds]
    exact hc.child_agree.seq fun _ => rest.children
  inline := by
    rw [visitInline, ← pure_bind () fun _ => visitInline o ds]
    exact hc.agree.seq fun _ => rest.inline
  items h := by cases h

theorem keep (hkind : c.isNode = true ∧ d.isNode = true ∨ c = d)
    (hc : Agree (visit o c) (visit o d)) (rest : LoopsAgree o loose cs ds) :
    LoopsAgree o loose (c :: cs) (d :: ds) where
  children := by
    rw [visitChildren, visitChildren]
    exact (visitChild_agree hkind hc).seq fun _ => rest.children
  inline := by
    rw [visitInline, visitInline]
    exact hc.seq fun _ => rest.inline
  items h := by
    rw [visitItems, visitItems]
    exact hc.captured.seq fun _ => (Local.piece _).agree.seq fun _ => rest.items h

end LoopsAgree

theorem isNode_withChildren (c : Node) (inner : List Node) :
    c.isNode = true ∧ (c.withChildren inner).isNode = true ∨ c = c.withChildren inner := by
  cases c with
  | foreign v => exact .inr rfl
  | table rows header m => cases header <;> cases inner <;> exact .inl ⟨rfl, rfl⟩
  | _ => exact .inl ⟨rfl, rfl⟩

/-- A node agrees with the same node with other children if the loops over them do. -/
theorem visit_withChildren (hs : o.blockSeparator.truthy = false) {c : Node} {inner : List Node}
    (h : LoopsAgree o c.isLoose c.children inner) :
    Agree (visit o c) (visit o (c.withChildren inner)) := by
  cases c with
  | document cs m =>
    rw [withChildren, visit, visit, visitBlocks_of_blank hs, visitBlocks_of_blank hs]
    exact h.children
  | paragraph cs m | listItem cs t m =>
    rw [withChildren, visit, visit]
    exact h.children
  | heading level cs m | link url cs t m =>
    rw [withChildren, visit, visit]
    exact h.inline.captured.seq fun _ => (Local.piece _).agree
  | list ordered items s t m =>
    rw [withChildren, visit, visit]
    exact (Local.piece _).agree.seq fun _ => (h.items rfl).seq fun _ => (Local.piece _).agree
  -- a kind without a rule is refused by its name, whatever its children are
  | table rows header m =>
    refine visit_agree_of_eq ?_
    cases header <;> cases inner <;> simp only [withChildren, visit, reject, typeName]
  | _ => exact visit_agree_of_eq (by simp only [withChildren, visit, reject, typeName])

/-- The loops over two lists agree if the second comes from the first by leaving out. -/
theorem LeavesOut.loopsAgree (hs : o.blockSeparator.truthy = false) {loose : Bool}
    {cs ds : List Node} (h : LeavesOut o loose cs ds) : LoopsAgree o loose cs ds := by
  induction h with
  | done loose => exact .done loose
  | drop hc _ ih => exact .drop hc ih
  | keep _ _ ihBelow ihRest =>
    exact .keep (isNode_withChildren _ _) (visit_withChildren hs ihBelow) ihRest

/-- **Suppressed nodes are invisible**: with nothing between blocks, a tree comes to the same text
or to the same failure without any of its suppressed nodes among the children of documents,
paragraphs, items, headings and links, at any depth. -/
theorem render_outcome_of_leavesOut (hs : o.blockSeparator.truthy = false) {n m : Node}
    (h : LeavesOut o false [n] [m]) : (render o n).outcome = (render o m).outcome := by
  have hloops := (h.loopsAgree hs).children
  simp only [visitChildren, bind_pure_unit] at hloops
  exact hloops.outcome_eq

/-- Raw markup before a paragraph and in it, an attachment at its end, and a skipped image and a
code block without a language in an item of a list. -/
theorem render_outcome_of_leavesOut_item :
    let o : RendererOptions := { imageMode := .skip }
    let n : Node := .document [.htmlBlock "<p>" [],
      .paragraph [.text "a" [], .htmlInline "<br>" [], .image "data.csv" "" none []] [],
      .list false [.listItem [.codeBlock "x" none {} [],
        .paragraph [.image "a.tiff" "" none [], .text "b" []] []] none []] 1 true []] []
    let m : Node := .document [.paragraph [.text "a" []] [],
      .list false [.listItem [.paragraph [.text "b" []] []] none []] 1 true []] []
    o.blockSeparator.truthy = false ∧ LeavesOut o false [n] [m] ∧
      (render o n).outcome = (render o m).outcome := by
  intro o n m
  have hblank : o.blockSeparator.truthy = false := rfl
  have hcsv : imageExtension "data.csv" = "csv" := by decide +kernel
  have htiff : imageExtension "a.tiff" = "tiff" := by decide +kernel
  have hattached : Suppressed o (.image "data.csv" "" none []) := .inl (by simp [hcsv])
  have hskipped : Suppressed o (.image "a.tiff" "" none []) := .inr ⟨rfl, by simp [htiff]⟩
  have hparagraph : LeavesOut o true
      [.text "a" [], .htmlInline "<br>" [], .image "data.csv" "" none []] [.text "a" []] :=
    .stay (.done _) (.drop trivial (.drop hattached (.done _)))
  have hitem : LeavesOut o true [.codeBlock "x" none {} [],
      .paragraph [.image "a.tiff" "" none [], .text "b" []] []] [.paragraph [.text "b" []] []] :=
    .drop (.inl rfl) (.keep (.drop hskipped (.stay (.done _) (.done _))) (.done _))
  have h : LeavesOut o false [n] [m] := .keep (.drop trivial
    (.keep hparagraph (.keep (.keep hitem (.done _)) (.done _)))) (.done _)
  exact ⟨hblank, h, render_outcome_of_leavesOut hblank h⟩

end Latex

end Manuscript
