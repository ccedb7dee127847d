import Manuscript.Proofs.Latex.Compositional

/-!
Which trees can be rendered. A node by itself is `Renderable` when its kind has a rule and the rule
applies to its fields; a tree is rendered iff all nodes reached in it are (`render_succeeds_iff`). A
tree that is not ends in a rendering fault, so nothing without a rule is dropped on the way.
-/

namespace Manuscript

/-- Whether a kind of faults belongs to a family. -/
def FaultKind.Within (family kind : FaultKind) : Prop := family ∈ kind :: kind.ancestors

namespace Latex

variable {o : RendererOptions} {sep : String}

/-- **What a node by itself needs to be rendered.** -/
def Renderable (o : RendererOptions) : Node → Prop
  | .frontMatter .. | .blockQuote .. | .thematicBreak .. | .table .. | .tableRow ..
  | .tableCell .. | .footnoteDefinition .. | .footnoteReference .. | .emphasis .. | .strong ..
  | .strikethrough .. | .lineBreak .. | .foreign _ => False
  | .code content _ => ∃ c ∈ "|!+@#=/:;~".toList, c ∉ content.toList
  | .codeBlock _ language d _ => language = none ∨ language = some "" ∨ language = some "figure" ∨
      language = some "csv" ∧ ∃ a, d.alignment = some a ∧ a ≠ ""
  | .image url _ _ _ =>
      imageExtension url ∈ ["png", "jpg", "jpeg", "bib", "csv"] ∨ o.imageMode = .skip
  | _ => True

/-- A failure within the family of rendering faults. -/
def IsRenderingFault (e : Failure) : Prop :=
  ∃ f : Fault, e = .fault f ∧ FaultKind.Within .rendering f.kind

/-- An outcome that is a text iff `p` holds, and a rendering fault otherwise. -/
def TextIff (p : Prop) (r : Outcome String) : Prop :=
  ((∃ s, r = .ok s) ↔ p) ∧ ∀ e, r = .error e → IsRenderingFault e

theorem textIff_ok {p : Prop} (h : p) (s : String) : TextIff p (.ok s) :=
  ⟨by simp [h], by simp⟩

theorem textIff_fault {p : Prop} (h : ¬ p) {f : Fault} (hf : FaultKind.Within .rendering f.kind) :
    TextIff p (.error (.fault f)) := by
  refine ⟨by simp [h], fun e he => ?_⟩
  obtain rfl := Except.error.inj he
  exact ⟨f, rfl, hf⟩

theorem within_rendering {kind : FaultKind} (h : kind = .rendering ∨ kind = .unknownNodeType ∨
    kind = .directive ∨ kind = .unsupportedImage ∨ kind = .unknownDirective) :
    FaultKind.Within .rendering kind := by
  rcases h with rfl | rfl | rfl | rfl | rfl <;>
    simp [FaultKind.Within, FaultKind.ancestors, FaultKind.parent?]

/-! ### The leaves with rules of their own -/

theorem verb_textIff (content : String) :
    TextIff (∃ c ∈ "|!+@#=/:;~".toList, c ∉ content.toList) (verb content) := by
  have hchars : verbDelimiters = "|!+@#=/:;~".toList := by decide
  unfold verb verbDelimiter?
  rw [hchars]
  cases h : "|!+@#=/:;~".toList.find? fun c => !content.toList.contains c with
  | some c =>
    have hc := List.find?_some h
    exact textIff_ok ⟨c, List.mem_of_find?_eq_some h, by simpa using hc⟩ _
  | none =>
    have hall := List.find?_eq_none.mp h
    refine textIff_fault ?_ (within_rendering (.inl rfl))
    rintro ⟨c, hc, hn⟩
    exact hall c hc (by simpa using hn)

theorem codeBlock_textIff (language : Option String) (content : String) (d : Directive) :
    TextIff (language = none ∨ language = some "" ∨ language = some "figure" ∨
      language = some "csv" ∧ ∃ a, d.alignment = some a ∧ a ≠ "")
      (codeBlock language content d).outcome := by
  have htag : language.getD "" = "" ↔ language = none ∨ language = some "" := by
    cases language <;> simp
  have hsome : ∀ {t : String}, t ≠ "" → (language.getD "" = t ↔ language = some t) := by
    intro t ht
    cases language <;> simp [ht.symm]
  unfold codeBlock
  by_cases hfigure : language.getD "" = "figure"
  · simp only [hfigure, if_true]
    exact textIff_ok (.inr (.inr (.inl ((hsome (by decide)).mp hfigure)))) _
  by_cases hcsv : language.getD "" = "csv"
  · have hl := (hsome (by decide)).mp hcsv
    simp only [hcsv, if_true]
    by_cases ha : (d.alignment.getD "").isEmpty = true
    · simp only [ha, if_true]
      refine textIff_fault ?_ (within_rendering (.inr (.inr (.inl rfl))))
      simp only [hl]
      rintro (h | h | h | ⟨-, a, hd, hne⟩)
      · cases h
      · exact absurd (Option.some.inj h) (by decide)
      · exact absurd (Option.some.inj h) (by decide)
      · rw [hd] at ha
        exact hne (by simpa using ha)
    · simp only [ha]
      refine textIff_ok (.inr (.inr (.inr ⟨hl, ?_⟩))) _
      cases hd : d.alignment with
      | none => simp [hd] at ha
      | some a => exact ⟨a, rfl, by simpa [hd] using ha⟩
  simp only [hfigure, hcsv, if_false]
  by_cases hplain : language.getD "" = ""
  · simp only [hplain, if_true]
    refine textIff_ok ?_ _
    rcases htag.mp hplain with h | h
    · exact .inl h
    · exact .inr (.inl h)
  · simp only [hplain, if_false]
    refine textIff_fault ?_ (within_rendering (.inr (.inr (.inr (.inr rfl)))))
    rintro (h | h | h | ⟨h, -⟩)
    · exact hplain (htag.mpr (.inl h))
    · exact hplain (htag.mpr (.inr h))
    · exact hfigure ((hsome (by decide)).mpr h)
    · exact hcsv ((hsome (by decide)).mpr h)

theorem image_textIff (o : RendererOptions) (url altText : String) :
    TextIff (imageExtension url ∈ ["png", "jpg", "jpeg", "bib", "csv"] ∨ o.imageMode = .skip)
      (image o url altText).outcome := by
  unfold image
  by_cases hattached : isAttachment (imageExtension url) = true
  · simp only [hattached, if_true]
    refine textIff_ok (.inl ?_) _
    simp only [isAttachment, Bool.or_eq_true, beq_iff_eq] at hattached
    rcases hattached with h | h <;> simp [h]
  by_cases hpicture : isPicture (imageExtension url) = true
  · simp only [hattached, hpicture, if_true]
    refine textIff_ok (.inl ?_) _
    simp only [isPicture, Bool.or_eq_true, beq_iff_eq] at hpicture
    rcases hpicture with (h | h) | h <;> simp [h]
  simp only [hattached, hpicture]
  cases hmode : o.imageMode with
  | skip => exact textIff_ok (.inr rfl) _
  | error =>
    refine textIff_fault ?_ (within_rendering (.inr (.inr (.inr (.inl rfl)))))
    rintro (h | h)
    · simp only [isAttachment, isPicture, Bool.or_eq_true, beq_iff_eq, not_or] at hattached hpicture
      simp only [List.mem_cons, List.not_mem_nil, or_false] at h
      rcases h with h | h | h | h | h
      · exact hpicture.1.1 h
      · exact hpicture.1.2 h
      · exact hpicture.2 h
      · exact hattached.1 h
      · exact hattached.2 h
    · cases h

theorem leafText_textIff {n : Node} (hl : assemble? sep n = none) :
    TextIff (Renderable o n) (leafText o n).outcome := by
  cases n with
  | document | paragraph | heading | list | listItem | link => simp [assemble?] at hl
  | codeBlock content language d m => exact codeBlock_textIff language content d
  | image url altText t m => exact image_textIff o url altText
  | code content m => exact verb_textIff content
  | text | mathBlock | mathInline | htmlBlock | htmlInline => exact textIff_ok trivial _
  | _ => exact textIff_fault id (within_rendering (.inr (.inl rfl)))

/-! ### Trees -/

theorem renderable_of_assemble? {n : Node} {put : List String → String}
    (hp : assemble? sep n = some put) : Renderable o n := by
  cases n with
  | document | paragraph | heading | list | listItem | link => trivial
  | _ => cases hp

theorem mapM_textIff {p : Node → Prop} {put : List String → String} {cs : List Node}
    (h : ∀ c ∈ cs, TextIff (p c) (render o c).outcome) :
    TextIff (∀ c ∈ cs, p c) (put <$> cs.mapM (render o)).outcome := by
  have hok : (∃ s, (put <$> cs.mapM (render o)).outcome = .ok s) ↔
      ∃ texts, (cs.mapM (render o)).outcome = .ok texts := by
    rw [Run.outcome_map]
    cases (cs.mapM (render o)).outcome <;> simp [Except.map]
  constructor
  · rw [hok, Run.mapM_succeeds_iff]
    exact forall₂_congr fun c hc => (h c hc).1
  · intro e he
    have he' : (cs.mapM (render o)).outcome = .error e := by
      rw [Run.outcome_map] at he
      cases hr : (cs.mapM (render o)).outcome with
      | ok texts => simp [hr, Except.map] at he
      | error e' => simpa [hr, Except.map] using he
    obtain ⟨before, c, after, rfl, -, hc⟩ := Run.mapM_error_iff.mp he'
    exact (h c (by simp)).2 e hc

/-- **A tree of nodes is rendered iff every node reached in it is renderable; otherwise rendering
ends in a rendering fault.** -/
theorem render_succeeds_iff (hs : o.blockSeparator = .str sep) {n : Node} (hn : n.AllNodes) :
    ((∃ s, (render o n).outcome = .ok s) ↔ ∀ m, n.Reaches m → Renderable o m) ∧
    ∀ e, (render o n).outcome = .error e → IsRenderingFault e := by
  show TextIff (∀ m, n.Reaches m → Renderable o m) (render o n).outcome
  induction n using Node.parts_induction with
  | step n ih =>
    have hparts := (Node.allNodes_iff.mp hn).2
    rw [Node.forall_reaches_iff]
    cases hp : assemble? sep n with
    | none =>
      have hnone : n.parts = [] := by cases n <;> first | rfl | simp [assemble?] at hp
      rw [render_leaf hp, hnone]
      simpa using leafText_textIff hp
    | some put =>
      have hnodes : ∀ c ∈ n.parts, c.isNode = true := fun c hc =>
        (Node.allNodes_iff.mp (hparts c hc)).1
      rw [render_assembled hs hp hnodes]
      simp only [renderable_of_assemble? hp, true_and]
      exact mapM_textIff fun c hc => ih c hc (hparts c hc)

/-- A strong element inside a link inside an item of a list: the document is not rendered. -/
theorem not_render_strong_in_item :
    let strong : Node := .strong [.text "b" []] []
    let item : Node := .listItem [.paragraph [.link "u" [strong] none []] []] none []
    let n : Node := .document [.paragraph [] [], .list false [item] 1 true []] []
    n.AllNodes ∧ (∃ e, (render {} n).outcome = .error e) ∧
      ∀ e, (render {} n).outcome = .error e → IsRenderingFault e := by
  intro strong item n
  have hn : n.AllNodes := (Node.allNodes?_iff n).mp (by cbv)
  have h := @render_succeeds_iff {} "" rfl n hn
  refine ⟨hn, ?_, h.2⟩
  have hstrong : n.Reaches strong :=
    .part (c := .list false [item] 1 true []) (by simp [n, Node.parts]) <|
      .part (c := item) (by simp [Node.parts]) <|
      .part (c := .paragraph [.link "u" [strong] none []] []) (by simp [item, Node.parts]) <|
      .part (c := .link "u" [strong] none []) (by simp [Node.parts]) <|
      .part (c := strong) (by simp [Node.parts]) (.self strong)
  cases hr : (render {} n).outcome with
  | ok s => exact absurd (h.1.mp ⟨s, hr⟩ strong hstrong) id
  | error e => exact ⟨e, rfl⟩

end Latex

end Manuscript
