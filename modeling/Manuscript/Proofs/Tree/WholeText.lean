import Manuscript.Proofs.Tree.Grammar

/-!
# The text of a tree

The text of a node is what it carries itself or, if it holds other nodes, their texts in the order
of the document. A table tells its header before its rows.
-/

namespace Manuscript.Node

/-- The text that a node carries itself: its content, the identifier that refers to a footnote, or
the alternative text of an image. -/
def ownText : Node → String
  | text content _ | code content _ | mathInline content _ | htmlInline content _
  | codeBlock content _ _ _ | mathBlock content _ | htmlBlock content _ => content
  | footnoteReference identifier _ => identifier
  | image _ altText _ _ => altText
  | _ => ""

mutual

/-- **The text of a node**, at every depth. -/
def wholeText : Node → String
  | document children _ | heading _ children _ | paragraph children _ | list _ children _ _ _
  | listItem children _ _ | blockQuote children _ | tableRow children _ _ | tableCell children _ _
  | footnoteDefinition _ children _ | link _ children _ _ | emphasis children _ | strong children _
  | strikethrough children _ => wholeTexts children
  | table rows header _ => headerText header ++ wholeTexts rows
  | n => n.ownText

def wholeTexts : List Node → String
  | [] => ""
  | n :: ns => wholeText n ++ wholeTexts ns

def headerText : Option Node → String
  | none => ""
  | some n => wholeText n

end

theorem wholeTexts_append (ns ms : List Node) :
    wholeTexts (ns ++ ms) = wholeTexts ns ++ wholeTexts ms := by
  induction ns with
  | nil => rw [List.nil_append, wholeTexts, String.empty_append]
  | cons n ns ih => rw [List.cons_append, wholeTexts, wholeTexts, ih, String.append_assoc]

theorem wholeTexts_singleton (n : Node) : wholeTexts [n] = n.wholeText := by
  rw [wholeTexts, wholeTexts, String.append_empty]

end Manuscript.Node
