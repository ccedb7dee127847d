import Manuscript.Proofs.Tree.Parts

/-!
# The grammar of document trees

A tree built by hand may hold anything anywhere. In a tree that `Fits`, every node stands in a
place that its kind is made for (`place?`), and what it holds stands in places of one sort
(`inside`): blocks hold inline elements or blocks, lists hold items, tables hold rows and rows
hold cells. A document, a metadata block and a value that is no node are made for no place inside
a tree (`Fits.kind_inside`).
-/

namespace Manuscript.Node

/-! ### What a node holds -/

/-- All that a node holds, whether rendering goes on to it or not. -/
def children : Node → List Node
  | document children _ => children
  | heading _ content _ => content
  | paragraph content _ => content
  | list _ items _ _ _ => items
  | listItem children _ _ => children
  | blockQuote children _ => children
  | table rows header _ => header.toList ++ rows
  | tableRow cells _ _ => cells
  | tableCell content _ _ => content
  | footnoteDefinition _ content _ => content
  | link _ content _ _ => content
  | emphasis content _ => content
  | strong content _ => content
  | strikethrough content _ => content
  | _ => []

theorem mem_children_of_mem_parts {n c : Node} (h : c ∈ n.parts) : c ∈ n.children := by
  cases n with
  | document | heading | paragraph | list | listItem | link => exact h
  | _ => cases h

/-- A node contains itself and what is contained in what it holds. -/
inductive Contains : Node → Node → Prop where
  | self (n : Node) : Contains n n
  | child {n c m : Node} (hc : c ∈ n.children) (hm : Contains c m) : Contains n m

theorem Reaches.contains {n m : Node} (h : n.Reaches m) : n.Contains m := by
  induction h with
  | self n => exact .self n
  | part hc _ ih => exact .child (mem_children_of_mem_parts hc) ih

/-! ### Places -/

/-- The sorts of places in a document tree. -/
inductive Place where
  | block
  | inline
  | item
  | row
  | cell
  deriving DecidableEq

/-- The sort of place that a kind of nodes is made for; some kinds are made for none. -/
def place? : Node → Option Place
  | heading .. | paragraph .. | codeBlock .. | blockQuote .. | list .. | table ..
  | thematicBreak .. | htmlBlock .. | mathBlock .. | footnoteDefinition .. => some .block
  | text .. | lineBreak .. | code .. | link .. | image .. | htmlInline .. | mathInline ..
  | emphasis .. | strong .. | strikethrough .. | footnoteReference .. => some .inline
  | listItem .. => some .item
  | tableRow .. => some .row
  | tableCell .. => some .cell
  | document .. | frontMatter .. | foreign _ => none

/-- The sort of the places inside a node. -/
def inside : Node → Place
  | document .. | blockQuote .. | listItem .. | footnoteDefinition .. => .block
  | list .. => .item
  | table .. => .row
  | tableRow .. => .cell
  | _ => .inline

/-- The levels of headings count from 1. -/
def LevelFits : Node → Prop
  | heading level _ _ => 1 ≤ level
  | _ => True

/-- **A tree fits a place** when its root is made for it and all that the root holds fits the places
inside the root. -/
inductive Fits : Place → Node → Prop where
  | mk {p : Place} {n : Node} (place : n.place? = some p) (level : n.LevelFits)
      (children : ∀ c ∈ n.children, Fits n.inside c) : Fits p n

namespace Fits

variable {p : Place} {n m : Node}

theorem leaf (place : n.place? = some p) (level : n.LevelFits) (h : n.children = []) : Fits p n :=
  .mk place level (by simp [h])

theorem of_contains (h : Fits p n) (hm : n.Contains m) : ∃ q, Fits q m := by
  induction hm generalizing p with
  | self n => exact ⟨p, h⟩
  | child hc _ ih =>
    obtain ⟨-, -, hchildren⟩ := h
    exact ih (hchildren _ hc)

/-- What a fitting tree contains is neither a document nor a metadata block, and is a node. -/
theorem kind_inside (h : Fits p n) (hm : n.Contains m) :
    (∀ children metadata, m ≠ .document children metadata) ∧
    (∀ content format metadata, m ≠ .frontMatter content format metadata) ∧
    ∀ v, m ≠ .foreign v := by
  obtain ⟨q, place, -, -⟩ := h.of_contains hm
  refine ⟨?_, ?_, ?_⟩
  · rintro children metadata rfl
    cases place
  · rintro content format metadata rfl
    cases place
  · rintro v rfl
    cases place

theorem allNodes (h : Fits p n) : n.AllNodes := by
  intro m hm
  have hforeign := (h.kind_inside hm.contains).2.2
  cases m with
  | foreign v => exact absurd rfl (hforeign v)
  | _ => rfl

end Fits

end Manuscript.Node
