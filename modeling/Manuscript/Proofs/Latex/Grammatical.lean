import Manuscript.Proofs.Latex.Foreign
import Manuscript.Proofs.Tree.Grammar

/-!
# Rendering grammatical trees

In a tree that fits the grammar rendering comes to blocks, inline elements and items of lists
only, because a table is refused as a whole.

* `renderedAs_of_reaches`: this is so at every depth;
* `render_error_of_fits`: so the rendering of grammatical blocks never meets a value that is no
  node, and an unknown kind that it fails with is one of `refusedKinds`.
-/

namespace Manuscript

namespace Node

/-- The sorts of places that rendering goes to. -/
def Place.IsRendered : Place → Prop
  | block | inline | item => True
  | row | cell => False

/-- A node in a place that it is made for and that rendering goes to. -/
def RenderedAs (n : Node) : Prop := ∃ p : Place, p.IsRendered ∧ Fits p n

/-- Rendering goes on to blocks, inline elements and items. -/
theorem inside_isRendered {n c : Node} (h : c ∈ n.parts) : n.inside.IsRendered := by
  cases n with
  | document | heading | paragraph | list | listItem | link => trivial
  | _ => cases h

theorem Fits.part {p : Place} {n c : Node} (h : Fits p n) (hc : c ∈ n.parts) :
    c.RenderedAs := by
  obtain ⟨-, -, hchildren⟩ := h
  exact ⟨n.inside, inside_isRendered hc, hchildren c (mem_children_of_mem_parts hc)⟩

theorem renderedAs_of_reaches {n m : Node} (h : n.RenderedAs) (hm : n.Reaches m) :
    m.RenderedAs := by
  induction hm with
  | self n => exact h
  | part hc _ ih =>
    obtain ⟨p, -, hfits⟩ := h
    exact ih (hfits.part hc)

theorem RenderedAs.isNode {n : Node} (h : n.RenderedAs) : n.isNode = true := by
  obtain ⟨p, -, hfits⟩ := h
  exact hfits.allNodes n (.self n)

end Node

namespace Latex

open Node

variable {o : RendererOptions}

/-- The kinds of blocks, inline elements and items that have no rule. -/
def refusedKinds : List String :=
  ["BlockQuote", "ThematicBreak", "Table", "FootnoteDefinition", "Emphasis", "Strong",
    "Strikethrough", "LineBreak", "FootnoteReference"]

theorem typeName_mem_refusedKinds {n : Node} (h : n.RenderedAs) (hlacks : lacksRule n = true) :
    n.typeName ∈ refusedKinds := by
  obtain ⟨p, hp, place, -, -⟩ := h
  cases n with
  | frontMatter => cases place
  | tableRow | tableCell =>
    obtain rfl := Option.some.inj place
    exact hp.elim
  | blockQuote | thematicBreak | table | footnoteDefinition | emphasis | strong | strikethrough
  | lineBreak | footnoteReference => simp [refusedKinds, typeName]
  | _ => cases hlacks

section Body

variable {blocks : List Node} {metadata : Entries}

/-- What rendering reaches in a body is the body itself or a node in a place of its own. -/
theorem reached_in_body (h : ∀ n ∈ blocks, Fits .block n) {m : Node}
    (hm : (document blocks metadata).Reaches m) :
    m = document blocks metadata ∨ m.RenderedAs := by
  cases hm with
  | self => exact .inl rfl
  | part hc hm => exact .inr (renderedAs_of_reaches ⟨.block, trivial, h _ hc⟩ hm)

theorem allNodes_body (h : ∀ n ∈ blocks, Fits .block n) :
    (document blocks metadata).AllNodes := by
  intro m hm
  rcases reached_in_body h hm with rfl | hm
  · rfl
  · exact hm.isNode

/-- **How the rendering of grammatical blocks fails**: with a rendering fault, which is not about an
unknown kind beyond the refused ones, or for a separator that is no text. -/
theorem render_error_of_fits (h : ∀ n ∈ blocks, Fits .block n) {e : Failure}
    (he : (render o (.document blocks metadata)).outcome = .error e) :
    (IsRenderingFault e ∨ e = .breakdown .wrongType ∧ ¬ TextSeparator o) ∧
    ∀ name, e = .fault (.unknownNodeType name) → name ∈ refusedKinds := by
  rcases (render_reports _).2 e he with hfirst | hwrong
  · obtain ⟨s, hs, hailment⟩ := List.exists_of_findSome?_eq_some hfirst
    have hreached : (document blocks metadata).Reaches s.node :=
      reaches_of_mem_walk hs
    refine ⟨.inl (ailment?_isRenderingFault (allNodes_body h _ hreached) hailment), ?_⟩
    rintro name rfl
    obtain ⟨rfl, hkind⟩ := unknownNodeType_of_ailment? hailment
    rcases reached_in_body h hreached with hroot | hplace
    · rw [hroot] at hkind
      rcases hkind with hkind | hkind <;> cases hkind
    rcases hkind with hlacks | hforeign
    · exact typeName_mem_refusedKinds hplace hlacks
    · cases hforeign.symm.trans hplace.isNode
  · refine ⟨.inr hwrong, ?_⟩
    rintro name rfl
    cases hwrong.1

end Body

end Latex

end Manuscript
