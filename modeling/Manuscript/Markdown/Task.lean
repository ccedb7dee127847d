import Manuscript.Markdown.Block

/-!
Task lists: an item whose text starts with a box, empty or ticked, is a task.
-/

namespace Manuscript.Markdown

/-- Whether the box at the start of a text is ticked, and the text after the box. -/
def box? (text : List Char) : Option (Bool × List Char) :=
  match text with
  | '[' :: c :: ']' :: b :: rest =>
    if (c == ' ' || c == 'x' || c == 'X') && Text.isBlank b then
      some (c != ' ', rest.dropWhile Text.isBlank)
    else none
  | _ => none

/-- Takes the box off the first block of an item. -/
def takeBox? (children : List Block) : Option (Bool × List Block) :=
  match children with
  | .paragraph text :: rest => (box? text).map fun (t, after) => (t, .paragraph after :: rest)
  | .heading level text :: rest =>
    (box? text).map fun (t, after) => (t, .heading level after :: rest)
  | _ => none

mutual

/-- Marks the tasks in a block. -/
def Block.markTasks : Block → Block
  | .quote children => .quote (markAllTasks children)
  | .list start items => .list start (markAllTasks items)
  | .item task children =>
    let inner := markAllTasks children
    match takeBox? inner with
    | some (ticked, rest) => .item (some ticked) rest
    | none => .item task inner
  | b => b

def markAllTasks : List Block → List Block
  | [] => []
  | b :: bs => b.markTasks :: markAllTasks bs

end

end Manuscript.Markdown
