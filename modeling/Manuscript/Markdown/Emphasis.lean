import Manuscript.Markdown.Token
import Manuscript.Text.Blank
import Manuscript.Text.Punctuation

/-!
Emphasis: runs of stars and low lines that open and close it. A run that closes is paired with the
nearest run before it that opens; what stands between becomes the content, strong if both runs have
two marks to give. What is left of a run stays as text.
-/

namespace Manuscript.Markdown

/-- A token without children that carries a text. -/
def textual (kind : TokenKind) (text : List Char) : Token :=
  .leaf { kind := kind, raw := some (.str (String.ofList text)) }

def textToken (text : List Char) : Token := textual .text text

/-- A run of stars or low lines. -/
structure MarkRun where
  mark : Char
  length : Nat
  /-- the marks that have not been used -/
  left : Nat
  opens : Bool
  closes : Bool

namespace MarkRun

/-- The run between two characters. A run opens if text follows it and closes if text precedes it;
next to punctuation the other side decides. Low lines inside a word do neither. -/
def between (before after : Option Char) (mark : Char) (length : Nat) : MarkRun :=
  let blankAfter := after.all Text.isBlank
  let blankBefore := before.all Text.isBlank
  let markAfter := after.any Text.isPunctuation
  let markBefore := before.any Text.isPunctuation
  let left := !blankAfter && (!markAfter || blankBefore || markBefore)
  let right := !blankBefore && (!markBefore || blankAfter || markAfter)
  if mark = '_' then
    ⟨mark, length, length, left && (!right || markBefore), right && (!left || markAfter)⟩
  else ⟨mark, length, length, left, right⟩

/-- Whether an opening run and a closing one make a pair. Where one of them could do both, their
lengths must not add up to a multiple of three, unless both are one. -/
def pairs (opener closer : MarkRun) : Bool :=
  opener.mark == closer.mark && opener.opens && opener.left != 0 &&
    (!(opener.closes || closer.opens) || (opener.length + closer.length) % 3 != 0 ||
      (opener.length % 3 == 0 && closer.length % 3 == 0))

def token (r : MarkRun) : Token := textToken (List.replicate r.left r.mark)

end MarkRun

/-- A part of a line of text: a token, or a run that may still be paired. -/
inductive Part where
  | token (t : Token)
  | run (r : MarkRun)

/-- What a part is if it is not paired any more. -/
def Part.settled : Part → Token
  | .token t => t
  | .run r => r.token

/-- The parts after the nearest run that a run pairs with, that run, and the parts before it; the
latest part comes first. -/
def opener? (closer : MarkRun) : List Part → Option (List Part × MarkRun × List Part)
  | [] => none
  | .run r :: before =>
    if r.pairs closer then some ([], r, before)
    else (opener? closer before).map fun (inside, o, rest) => (.run r :: inside, o, rest)
  | p :: before => (opener? closer before).map fun (inside, o, rest) => (p :: inside, o, rest)

/-- Pairs a closing run with the runs before it, as long as it has marks. -/
def closeRun : Nat → MarkRun → List Part → List Part
  | 0, closer, before => .run closer :: before
  | fuel + 1, closer, before =>
    match opener? closer before with
    | none => .run closer :: before
    | some (inside, opener, rest) =>
      let used := if 2 ≤ opener.left && 2 ≤ closer.left then 2 else 1
      let kind : TokenKind := if used = 2 then .strong else .emphasis
      let content := inside.reverse.map Part.settled
      let opener := { opener with left := opener.left - used }
      let closer := { closer with left := closer.left - used }
      let parts := .token (.branch { kind := kind } content) :: .run opener :: rest
      if closer.left = 0 then .run closer :: parts else closeRun fuel closer parts

/-- Adds a part to those before it, the latest first. -/
def pairStep (before : List Part) (p : Part) : List Part :=
  match p with
  | .run r => if r.closes then closeRun r.length r before else p :: before
  | .token _ => p :: before

def textOf? : Token → Option String
  | .leaf h => match h.kind, h.raw with
    | .text, some (.str s) => some s
    | _, _ => none
  | _ => none

/-- Joins text tokens that stand side by side, and drops empty ones. -/
def joinTexts : List Token → List Token
  | [] => []
  | t :: ts =>
    let rest := joinTexts ts
    match textOf? t with
    | none => t :: rest
    | some s =>
      match rest with
      | next :: others =>
        match textOf? next with
        | some s' => textToken (s ++ s').toList :: others
        | none => if s.isEmpty then rest else t :: rest
      | [] => if s.isEmpty then [] else [t]

def Part.isRun : Part → Bool
  | .run _ => true
  | .token _ => false

/-- The tokens of parts. Where there are runs, the texts at the outermost level are joined. -/
def resolve (parts : List Part) : List Token :=
  if parts.any Part.isRun then joinTexts ((parts.foldl pairStep []).reverse.map Part.settled)
  else parts.map Part.settled

end Manuscript.Markdown
