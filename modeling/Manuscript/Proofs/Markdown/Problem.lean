import Manuscript.Markdown.Build
import Manuscript.Proofs.Markdown.TokenGrammar
import Manuscript.Proofs.Outcome

/-!
# What keeps tokens from being built

Tokens can be of any kind, wherever they stand. `problems` lists what keeps a token from being
built, in the order of the text: a kind that its slot does not know, a value where a token or a list
of tokens should be, a heading without a level, a code block that cannot be read. The manners of
the slots are told by four tables:

* `knows`: the kinds that belong there;
* `checks`: whether a token of another kind is refused there;
* `inside?`: where the children of a token stand, if they are looked at;
* `lenient`: whether what is no token is passed over.

Every builder stops at the first problem of its tokens, and builds them if there are none
(`blocks_stops`).
-/

namespace Manuscript

/-- Where a kind of tokens belongs. -/
def TokenKind.home? : TokenKind → Option Markdown.Site
  | blankLine | heading | paragraph | blockText | blockCode | blockQuote | list | table
  | thematicBreak | blockHtml | blockMath | footnotes => some .block
  | listItem | taskListItem => some .item
  | tableHead | tableBody => some .part
  | tableRow => some .row
  | tableCell => some .cell
  | footnoteItem => some .note
  | text | softBreak | lineBreak | codeSpan | link | image | inlineHtml | inlineMath | emphasis
  | strong | strikethrough | footnoteReference => some .inline
  | other _ => none

namespace Markdown

/-! ### Slots -/

/-- The slots for tokens: the sorts of places, and the alternative text of an image. -/
inductive Slot where
  | of (site : Site)
  | alternative
  deriving DecidableEq

namespace Slot

/-- The sort of places that a slot is of. -/
def site : Slot → Site
  | of site => site
  | alternative => .inline

def knows (slot : Slot) (kind : TokenKind) : Bool := kind.home? == some slot.site

/-- Whether kinds that do not belong are refused. The parts of a table are passed over if they are
of another kind; in the remaining slots the kind makes no difference. -/
def checks : Slot → Bool
  | of .block | of .item | of .inline => true
  | _ => false

/-- Where the children of a token stand that are gone through. -/
def inside? (slot : Slot) (kind : TokenKind) : Option Slot :=
  match slot, kind with
  | of .block, .heading | of .block, .paragraph | of .block, .blockText => some (of .inline)
  | of .block, .blockQuote => some (of .block)
  | of .block, .list => some (of .item)
  | of .block, .table => some (of .part)
  | of .block, .footnotes => some (of .note)
  | of .item, _ | of .note, _ => some (of .block)
  | of .part, .tableHead | of .row, _ => some (of .cell)
  | of .part, .tableBody => some (of .row)
  | of .cell, _ => some (of .inline)
  | of .inline, .link | of .inline, .emphasis | of .inline, .strong | of .inline, .strikethrough =>
    some (of .inline)
  | of .inline, .image => some alternative
  | alternative, .softBreak => none
  | alternative, _ => some alternative
  | _, _ => none

/-- Whether what is no token is passed over. -/
def lenient : Slot → Bool
  | of .item | alternative => true
  | _ => false

/-- What a token of an unknown kind is refused with. -/
def refusal (slot : Slot) (name : Value) : Failure :=
  match slot with
  | of .item => .fault (.parsing (.unexpectedListChild name))
  | of .inline | alternative =>
    if name.isKey then .fault (.parsing (.unsupportedInline name)) else .breakdown .wrongType
  | _ => .fault (.parsing (.unsupportedBlock name))

end Slot

/-! ### Problems -/

/-- Something that the building of a tree stops at. -/
inductive Problem where
  /-- a token of a kind that does not belong in its slot -/
  | unrecognised (slot : Slot) (kind : TokenKind)
  /-- something else, and what building fails with -/
  | malformed (failure : Failure)

/-- What building fails with when it comes to a problem. -/
def Problem.failure : Problem → Failure
  | unrecognised slot kind => slot.refusal kind.name
  | malformed e => e

variable {α : Type}

def problemsOf (r : Outcome α) : List Problem :=
  match r with
  | .ok _ => []
  | .error e => [.malformed e]

/-- The problem with the kind of a token. -/
def kindProblems (slot : Slot) (kind : TokenKind) : List Problem :=
  if slot.checks && !slot.knows kind then [.unrecognised slot kind] else []

/-- The problem with children that are no list. Where running text should be they count as none. -/
def misfitProblems (inside : Option Slot) (v : Value) : List Problem :=
  match inside with
  | none | some (.of .inline) => []
  | some slot =>
    if slot.lenient then problemsOf (elementsOf v)
    else problemsOf (emptyList v : Outcome (List Node))

/-- The problem with a token that shows when its children have been built. -/
def lateProblems (slot : Slot) (h : Head) : List Problem :=
  match slot, h.kind with
  | .of .block, .heading => problemsOf (headingNode h [])
  | .of .block, .blockCode => problemsOf (codeNode h)
  | _, _ => []

mutual

/-- What keeps a token from being built. -/
def problems (slot : Slot) : Token → List Problem
  | .leaf h => kindProblems slot h.kind ++ lateProblems slot h
  | .branch h children =>
    kindProblems slot h.kind ++
      (match slot.inside? h.kind with
        | some inside => problemsIn inside children
        | none => []) ++ lateProblems slot h
  | .misfit h v =>
    kindProblems slot h.kind ++ misfitProblems (slot.inside? h.kind) v ++ lateProblems slot h
  | .stray _ => if slot.lenient then [] else [.malformed (.breakdown .missingAttribute)]

def problemsIn (slot : Slot) : List Token → List Problem
  | [] => []
  | t :: ts => problems slot t ++ problemsIn slot ts

end

theorem problemsIn_eq_flatMap (slot : Slot) (ts : List Token) :
    problemsIn slot ts = ts.flatMap (problems slot) := by
  induction ts with
  | nil => rfl
  | cons t ts ih => rw [problemsIn, List.flatMap_cons, ih]

theorem problemsIn_eq_nil {slot : Slot} {ts : List Token} (h : ∀ t ∈ ts, problems slot t = []) :
    problemsIn slot ts = [] := by
  rw [problemsIn_eq_flatMap]
  exact List.flatMap_eq_nil_iff.mpr h

/-- **A builder stops at problems** when it fails with the first of them, and succeeds if there are
none. -/
abbrev Stops (ps : List Problem) (r : Outcome α) : Prop := StopsAt Problem.failure ps r

theorem stops_problemsOf (r : Outcome α) : Stops (problemsOf r) r := by
  cases r with
  | ok a => exact .ok a
  | error e => rfl

theorem mapM_stops {slot : Slot} {f : Token → Outcome α} (h : ∀ t, Stops (problems slot t) (f t))
    (ts : List Token) : Stops (problemsIn slot ts) (ts.mapM f) := by
  rw [problemsIn_eq_flatMap]
  exact .mapM fun t _ => h t

/-! ### Inline tokens -/

mutual

theorem plainTextOf_stops : ∀ t : Token, Stops (problems .alternative t) (plainTextOf t)
  | .leaf h => .ok _
  | .branch ⟨kind, raw, attributes⟩ children => by
    cases kind with
    | softBreak => exact .ok _
    | _ => exact (plainText_stops children).append_nil
  | .misfit ⟨kind, raw, attributes⟩ v => by
    cases kind with
    | softBreak => exact .ok _
    | _ => exact (stops_problemsOf (elementsOf v)).map.append_nil
  | .stray _ => .ok _

theorem plainText_stops : ∀ ts : List Token, Stops (problemsIn .alternative ts) (plainText ts)
  | [] => .ok _
  | t :: ts => by
    rw [problemsIn, plainText]
    exact (plainTextOf_stops t).bind fun _ => (plainText_stops ts).andThen fun _ => .ok _

end

/-- An inline node is made of every kind that is known, its children being built. -/
theorem inlineNode_stops {h : Head} (hkind : h.kind ≠ .image) (content : List Node) :
    Stops (kindProblems (.of .inline) h.kind) (inlineNode h content) := by
  obtain ⟨kind, raw, attributes⟩ := h
  cases kind with
  | image => exact absurd rfl hkind
  | text | softBreak | lineBreak | codeSpan | inlineHtml | inlineMath | footnoteReference
  | link | emphasis | strong | strikethrough => exact .ok _
  | other name => exact (apply_ite Except.error _ _ _).symm
  | _ => rfl

mutual

theorem inline_stops : ∀ t : Token, Stops (problems (.of .inline) t) (inline t)
  | .leaf ⟨kind, raw, attributes⟩ => by
    cases kind with
    | image => exact .ok _
    | _ => exact (inlineNode_stops (by nofun) []).append_nil
  | .branch ⟨kind, raw, attributes⟩ children => by
    cases kind with
    | image => exact (plainText_stops children).map.append_nil
    | link | emphasis | strong | strikethrough =>
      exact ((inlines_stops children).andThen fun _ => .ok _).append_nil
    | _ => exact (inlineNode_stops (by nofun) []).append_nil.append_nil
  | .misfit ⟨kind, raw, attributes⟩ v => by
    cases kind with
    | image => exact (stops_problemsOf (elementsOf v)).map.append_nil
    | _ => exact (inlineNode_stops (by nofun) []).append_nil.append_nil
  | .stray _ => rfl

theorem inlines_stops : ∀ ts : List Token, Stops (problemsIn (.of .inline) ts) (inlines ts)
  | [] => .ok _
  | t :: ts => by
    rw [problemsIn, inlines]
    exact (inline_stops t).bind fun _ => (inlines_stops ts).andThen fun _ => .ok _

end

/-! ### Tables -/

theorem cell_stops (t : Token) : Stops (problems (.of .cell) t) (cell t) := by
  cases t with
  | leaf h | misfit h v => exact .ok _
  | branch h children => exact ((inlines_stops children).andThen fun _ => .ok _).append_nil
  | stray v => rfl

theorem row_stops (t : Token) : Stops (problems (.of .row) t) (row t) := by
  cases t with
  | leaf h => exact .ok _
  | branch h children =>
    exact ((mapM_stops cell_stops children).andThen fun _ => .ok _).append_nil
  | misfit h v => exact ((stops_problemsOf (emptyList v)).andThen fun _ => .ok _).append_nil
  | stray v => rfl

theorem tableParts_stops : ∀ ts : List Token, Stops (problemsIn (.of .part) ts) (tableParts ts)
  | [] => .ok _
  | .leaf ⟨kind, raw, attributes⟩ :: ts => by
    rw [problemsIn, tableParts]
    cases kind with
    | tableHead | tableBody => exact (tableParts_stops ts).andThen fun _ => .ok _
    | _ => exact tableParts_stops ts
  | .branch ⟨kind, raw, attributes⟩ children :: ts => by
    rw [problemsIn, tableParts]
    have hrest := tableParts_stops ts
    cases kind with
    | tableHead =>
      exact (mapM_stops cell_stops children).append_nil.bind fun _ => hrest.andThen fun _ => .ok _
    | tableBody =>
      exact (mapM_stops row_stops children).append_nil.bind fun _ => hrest.andThen fun _ => .ok _
    | _ => exact hrest
  | .misfit ⟨kind, raw, attributes⟩ v :: ts => by
    rw [problemsIn, tableParts]
    have hrest := tableParts_stops ts
    cases kind with
    | tableHead | tableBody =>
      exact (stops_problemsOf (emptyList v)).append_nil.bind fun _ => hrest.andThen fun _ => .ok _
    | _ => exact hrest
  | .stray _ :: ts => rfl

/-! ### Blocks -/

/-- What is wrong with a heading does not depend on its content. -/
theorem headingNode_stops (h : Head) (content : List Node) :
    Stops (problemsOf (headingNode h [])) (headingNode h content) := by
  unfold headingNode
  cases headingLevel h with
  | error e => rfl
  | ok level =>
    show Stops (problemsOf (Node.heading? level [] [])) (Node.heading? level content [])
    unfold Node.heading?
    split
    · rfl
    · exact .ok _

/-- A heading is built on every level from the first one. -/
theorem headingNode_of_level {h : Head} {n : Int} (hlevel : headingLevel h = .ok n) (hn : 1 ≤ n)
    (content : List Node) : headingNode h content = .ok (.heading n.toNat content []) := by
  have hnot : ¬ n < 1 := by omega
  unfold headingNode
  rw [hlevel]
  exact if_neg hnot

/-- A block without children is built of every kind that is known. -/
theorem leafBlock_stops (h : Head) :
    Stops (kindProblems (.of .block) h.kind ++ lateProblems (.of .block) h) (leafBlock h) := by
  obtain ⟨kind, raw, attributes⟩ := h
  cases kind with
  | heading => exact (headingNode_stops _ []).andThen fun _ => .ok _
  | blockCode => exact (stops_problemsOf _).andThen fun _ => .ok _
  | blankLine | footnotes | paragraph | blockText | blockQuote | list | table | thematicBreak
  | blockHtml | blockMath => exact .ok _
  | _ => rfl

theorem misfitBlock_stops (h : Head) (v : Value) :
    Stops (problems (.of .block) (.misfit h v)) (misfitBlock h v) := by
  have hleaf := leafBlock_stops h
  obtain ⟨kind, raw, attributes⟩ := h
  cases kind with
  | blockQuote | table | footnotes =>
    exact (stops_problemsOf (emptyList v)).append_nil.andThen fun _ => .ok _
  | list => exact (stops_problemsOf (elementsOf v)).append_nil.andThen fun _ => .ok _
  | _ => rwa [← List.append_nil (kindProblems _ _)] at hleaf

/-- An item is refused if it is of another kind. -/
theorem checkItem_stops (h : Head) : Stops (kindProblems (.of .item) h.kind) (checkItem h) := by
  obtain ⟨kind, raw, attributes⟩ := h
  cases kind with
  | listItem | taskListItem => exact .ok _
  | _ => rfl

mutual

/-- Block by block, along the recursion of the builders. A kind that is not gone into is built as
without children. -/
theorem block_stops : ∀ t : Token, Stops (problems (.of .block) t) (block t)
  | .leaf h => leafBlock_stops h
  | .branch h children => by
    have hleaf := leafBlock_stops h
    obtain ⟨kind, raw, attributes⟩ := h
    cases kind with
    | heading =>
      -- the level is looked at after the content
      exact (inlines_stops children).bind fun content =>
        (headingNode_stops _ content).andThen fun _ => .ok _
    | paragraph | blockText => exact ((inlines_stops children).andThen fun _ => .ok _).append_nil
    | blockQuote => exact ((blocks_stops children).andThen fun _ => .ok _).append_nil
    | list => exact ((items_stops children).andThen fun _ => .ok _).append_nil
    | table => exact ((tableParts_stops children).andThen fun _ => .ok _).append_nil
    | footnotes => exact (footnotes_stops children).append_nil
    | _ => rwa [← List.append_nil (kindProblems _ _)] at hleaf
  | .misfit h v => misfitBlock_stops h v
  | .stray _ => rfl

/-- **Blocks are built unless something is wrong with them**, and otherwise building them fails with
the first thing that is. -/
theorem blocks_stops : ∀ ts : List Token, Stops (problemsIn (.of .block) ts) (blocks ts)
  | [] => .ok _
  | t :: ts => by
    rw [problemsIn, blocks]
    exact (block_stops t).bind fun _ => (blocks_stops ts).andThen fun _ => .ok _

theorem items_stops : ∀ ts : List Token, Stops (problemsIn (.of .item) ts) (items ts)
  | [] => .ok _
  | .leaf h :: ts => by
    rw [problemsIn, items]
    exact (checkItem_stops h).append_nil.bind fun _ => (items_stops ts).andThen fun _ => .ok _
  | .branch h children :: ts => by
    rw [problemsIn, items, problems, List.append_assoc, List.append_assoc]
    exact (checkItem_stops h).bind fun _ => (blocks_stops children).bind fun _ =>
      (items_stops ts).andThen fun _ => .ok _
  | .misfit h v :: ts => by
    rw [problemsIn, items, problems, List.append_assoc, List.append_assoc]
    exact (checkItem_stops h).bind fun _ => (stops_problemsOf (emptyList v)).bind fun _ =>
      (items_stops ts).andThen fun _ => .ok _
  | .stray _ :: ts => items_stops ts

theorem footnotes_stops : ∀ ts : List Token, Stops (problemsIn (.of .note) ts) (footnotes ts)
  | [] => .ok _
  | .leaf _ :: ts => by
    rw [problemsIn, footnotes]
    exact (footnotes_stops ts).andThen fun _ => .ok _
  | .branch _ children :: ts => by
    rw [problemsIn, footnotes]
    exact (blocks_stops children).append_nil.bind fun _ =>
      (footnotes_stops ts).andThen fun _ => .ok _
  | .misfit _ v :: ts => by
    rw [problemsIn, footnotes]
    exact (stops_problemsOf (emptyList v)).append_nil.bind fun _ =>
      (footnotes_stops ts).andThen fun _ => .ok _
  | .stray _ :: _ => rfl

end

end Markdown

end Manuscript
