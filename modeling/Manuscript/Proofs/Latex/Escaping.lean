import Manuscript.Latex.Renderer
import Manuscript.Proofs.Tree.Grammar

/-!
# Escaping while rendering, and before

To render with escaping switched on is to render, with escaping switched off, the tree whose texts
have been escaped before (`render_escaped`). The tree is walked by `Node.mapText`, which replaces
the content of every text node at every depth (`contains_mapText_iff`) and nothing else
(`untexted_mapText`).

The step behind it is about any two options of which one writes for a text what the other writes for
its image (`Retexts`): they render a tree and its image in the same way, record for record and piece
for piece (`visit_mapText`).
-/

namespace Manuscript

namespace Node

variable (f g : String → String)

mutual

/-- A tree with the content of every text node replaced, at every depth. Nothing else changes, be it
an address, code, a formula, a label or an alternative text. -/
def mapText : Node → Node
  | document children m => document (mapTexts children) m
  | heading level content m => heading level (mapTexts content) m
  | paragraph content m => paragraph (mapTexts content) m
  | list ordered items start tight m => list ordered (mapTexts items) start tight m
  | listItem children task m => listItem (mapTexts children) task m
  | blockQuote children m => blockQuote (mapTexts children) m
  | table rows header m => table (mapTexts rows) (mapHeader header) m
  | tableRow cells isHeader m => tableRow (mapTexts cells) isHeader m
  | tableCell content alignment m => tableCell (mapTexts content) alignment m
  | footnoteDefinition identifier content m => footnoteDefinition identifier (mapTexts content) m
  | text content m => text (f content) m
  | link url content title m => link url (mapTexts content) title m
  | emphasis content m => emphasis (mapTexts content) m
  | strong content m => strong (mapTexts content) m
  | strikethrough content m => strikethrough (mapTexts content) m
  | n => n

def mapTexts : List Node → List Node
  | [] => []
  | n :: ns => mapText n :: mapTexts ns

/-- Replaces the texts of the header of a table. -/
def mapHeader : Option Node → Option Node
  | none => none
  | some n => some (mapText n)

end

theorem mapTexts_eq_map : ∀ ns : List Node, mapTexts f ns = ns.map (mapText f)
  | [] => rfl
  | n :: ns => by rw [mapTexts, mapTexts_eq_map ns, List.map_cons]

theorem children_mapText (n : Node) : (n.mapText f).children = n.children.map (mapText f) := by
  cases n with
  | table rows header m =>
    cases header <;> simp only [mapText, mapHeader, children, mapTexts_eq_map, Option.toList,
      List.map_append, List.map_cons, List.map_nil]
  | _ => simp only [mapText, children, mapTexts_eq_map, List.map_nil]

/-- **Texts are replaced at every depth**: the image of a tree contains the images of what the tree
contains, and nothing else. -/
theorem contains_mapText_iff {n m : Node} :
    (n.mapText f).Contains m ↔ ∃ k, n.Contains k ∧ m = k.mapText f := by
  constructor
  · intro h
    generalize himage : n.mapText f = image at h
    induction h generalizing n with
    | self _ => exact ⟨n, .self n, himage.symm⟩
    | child hc _ ih =>
      subst himage
      rw [children_mapText] at hc
      obtain ⟨c, hpart, rfl⟩ := List.mem_map.mp hc
      obtain ⟨k, hk, rfl⟩ := ih rfl
      exact ⟨k, .child hpart hk, rfl⟩
  · rintro ⟨k, hk, rfl⟩
    induction hk with
    | self n => exact .self _
    | child hc _ ih =>
      refine .child ?_ ih
      rw [children_mapText]
      exact List.mem_map_of_mem hc

/-- A tree without the contents of its texts. -/
def untexted (n : Node) : Node := n.mapText fun _ => ""

mutual

/-- Replacing texts twice is replacing them once. -/
theorem mapText_mapText : ∀ n : Node, (n.mapText f).mapText g = n.mapText (g ∘ f)
  | document children _ | paragraph children _ | heading _ children _ | listItem children _ _
  | list _ children _ _ _ | blockQuote children _ | tableRow children _ _ | tableCell children _ _
  | footnoteDefinition _ children _ | link _ children _ _ | emphasis children _ | strong children _
  | strikethrough children _ => by
    simp only [mapText, mapTexts_mapTexts children]
  | table rows header _ => by
    simp only [mapText, mapTexts_mapTexts rows, mapHeader_mapHeader header]
  | text _ _ => by simp only [mapText, Function.comp]
  | frontMatter .. | codeBlock .. | mathBlock .. | htmlBlock .. | thematicBreak _ | image ..
  | code .. | mathInline .. | htmlInline .. | lineBreak _ | footnoteReference .. | foreign _ => by
    simp only [mapText]

theorem mapTexts_mapTexts : ∀ ns : List Node, mapTexts g (mapTexts f ns) = mapTexts (g ∘ f) ns
  | [] => rfl
  | n :: ns => by
    simp only [mapTexts, mapText_mapText n, mapTexts_mapTexts ns]

theorem mapHeader_mapHeader : ∀ header : Option Node,
    mapHeader g (mapHeader f header) = mapHeader (g ∘ f) header
  | none => rfl
  | some n => by
    simp only [mapHeader, mapText_mapText n]

end

/-- **Nothing but texts is replaced.** -/
theorem untexted_mapText (n : Node) : (n.mapText f).untexted = n.untexted :=
  mapText_mapText f (fun _ => "") n

end Node

namespace Latex

open Writing Node

variable {f : String → String} {o p : RendererOptions}

/-- **Options that differ in texts alone**: for a text the first write what the second write for its
image, and they agree on all that is no text. -/
structure Retexts (f : String → String) (o p : RendererOptions) : Prop where
  text : ∀ s, plainText o s = plainText p (f s)
  width : o.imageWidth = p.imageWidth
  mode : o.imageMode = p.imageMode
  separator : o.blockSeparator = p.blockSeparator

theorem Retexts.image_eq (h : Retexts f o p) (url altText : String) :
    image o url altText = image p url altText := by
  unfold image
  rw [h.width, h.mode]

/-- Whether a child is a node does not depend on texts. -/
theorem visitChild_mapText {n : Node} (h : visit o n = visit p (n.mapText f)) :
    visitChild o n = visitChild p (n.mapText f) := by
  cases n with
  | foreign v => simp only [mapText, visitChild]
  | _ => simpa only [mapText, visitChild] using h

mutual

/-- **A tree and its image are rendered alike** under options that differ in texts alone. -/
theorem visit_mapText (h : Retexts f o p) : ∀ n : Node, visit o n = visit p (n.mapText f)
  | .document children _ => by
    rw [mapText, visit, visit, visitBlocks_mapTexts h true children]
  | .paragraph content _ => by
    rw [mapText, visit, visit, visitChildren_mapTexts h content]
  | .listItem children _ _ => by
    rw [mapText, visit, visit, visitChildren_mapTexts h children]
  | .heading _ content _ => by
    rw [mapText, visit, visit, visitInline_mapTexts h content]
  | .link _ content _ _ => by
    rw [mapText, visit, visit, visitInline_mapTexts h content]
  | .list _ items _ _ _ => by
    rw [mapText, visit, visit, visitItems_mapTexts h items]
  | .text content _ => by
    rw [mapText, visit, visit, h.text]
  | .image url altText _ _ => by
    simp only [mapText, visit, h.image_eq]
  | .codeBlock .. | .mathBlock .. | .htmlBlock .. | .code .. | .mathInline .. | .htmlInline ..
  | .foreign _ => by
    simp only [mapText, visit]
  -- kinds without a rule are refused by their names
  | .frontMatter .. | .blockQuote .. | .thematicBreak _ | .table .. | .tableRow .. | .tableCell ..
  | .footnoteDefinition .. | .emphasis .. | .strong .. | .strikethrough .. | .lineBreak _
  | .footnoteReference .. => by
    simp only [mapText, visit, reject, typeName]

theorem visitBlocks_mapTexts (h : Retexts f o p) (first : Bool) : ∀ ns : List Node,
    visitBlocks o first ns = visitBlocks p first (mapTexts f ns)
  | [] => by rw [mapTexts, visitBlocks, visitBlocks]
  | n :: ns => by
    rw [mapTexts, visitBlocks, visitBlocks, visitChild_mapText (visit_mapText h n),
      visitBlocks_mapTexts h false ns, h.separator]

theorem visitChildren_mapTexts (h : Retexts f o p) : ∀ ns : List Node,
    visitChildren o ns = visitChildren p (mapTexts f ns)
  | [] => by rw [mapTexts, visitChildren, visitChildren]
  | n :: ns => by
    rw [mapTexts, visitChildren, visitChildren, visitChild_mapText (visit_mapText h n),
      visitChildren_mapTexts h ns]

theorem visitInline_mapTexts (h : Retexts f o p) : ∀ ns : List Node,
    visitInline o ns = visitInline p (mapTexts f ns)
  | [] => by rw [mapTexts, visitInline, visitInline]
  | n :: ns => by
    rw [mapTexts, visitInline, visitInline, visit_mapText h n, visitInline_mapTexts h ns]

theorem visitItems_mapTexts (h : Retexts f o p) : ∀ ns : List Node,
    visitItems o ns = visitItems p (mapTexts f ns)
  | [] => by rw [mapTexts, visitItems, visitItems]
  | n :: ns => by
    rw [mapTexts, visitItems, visitItems, visit_mapText h n, visitItems_mapTexts h ns]

end

/-- A tree and its image come to the same under options that differ in texts alone. -/
theorem render_mapText (h : Retexts f o p) (n : Node) : render o n = render p (n.mapText f) := by
  unfold render Renderer.render
  dsimp only
  rw [visitChild_mapText (visit_mapText h n)]
  split <;> rfl

/-- Options with escaping switched on write for a text what they write, with escaping switched off,
for the escaped text. -/
theorem retexts_escape (o : RendererOptions) :
    Retexts escape { o with escapeSpecial := .bool true }
      { o with escapeSpecial := .bool false } where
  text _ := rfl
  width := rfl
  mode := rfl
  separator := rfl

/-- **Escaping while rendering is escaping before**: with escaping switched on, a tree comes to the
text, or the error, that the tree with all its texts escaped comes to with escaping switched off.
The texts are escaped at every depth, and the two trees differ in nothing else. -/
theorem render_escaped (o : RendererOptions) (n : Node) :
    render { o with escapeSpecial := .bool true } n =
        render { o with escapeSpecial := .bool false } (n.mapText escape) ∧
      (∀ m, (n.mapText escape).Contains m ↔ ∃ k, n.Contains k ∧ m = k.mapText escape) ∧
      (n.mapText escape).untexted = n.untexted :=
  ⟨render_mapText (retexts_escape o) n, fun _ => contains_mapText_iff escape,
    untexted_mapText escape n⟩

end Latex

end Manuscript
