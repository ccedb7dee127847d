import Manuscript.Proofs.Markdown.Fence
import Manuscript.Proofs.Markdown.Problem

/-!
# The leaves of tokens

All text stands in the leaves. `leavesOf` lists them in order, each with the slot that it stands in,
and `leafText` says what text a leaf is for. In the alternative text of an image a hard break shows
what its raw text is, although it is for none (`shownText`).

Well-formed tokens (`Token.WellFormed`) are of the kinds that their slots know. Nothing but a leaf
can keep a tree from being built of them (`problemsIn_eq_late`).
-/

namespace Manuscript

namespace TokenKind

/-- Whether tokens of a kind hold others. -/
def isContainer : TokenKind → Bool
  | heading | paragraph | blockText | blockQuote | list | listItem | taskListItem | table
  | tableHead | tableBody | tableRow | tableCell | footnotes | footnoteItem | link | image
  | emphasis | strong | strikethrough => true
  | _ => false

/-- Whether tokens of a kind mean the same whatever their raw text is. -/
def isBreak : TokenKind → Bool
  | softBreak | lineBreak | thematicBreak | blankLine => true
  | _ => false

end TokenKind

namespace Markdown

variable {α : Type} {slot inside : Slot} {t : Token} {ts children : List Token} {h : Head}

/-! ### Leaves and their texts -/

mutual

/-- The leaves of a token in order, and where each of them stands. -/
def Token.leaves (slot : Slot) : Token → List (Slot × Head)
  | .leaf h => [(slot, h)]
  | .branch h children => leavesOf ((slot.inside? h.kind).getD slot) children
  | .misfit _ _ | .stray _ => []

def leavesOf (slot : Slot) : List Token → List (Slot × Head)
  | [] => []
  | t :: ts => Token.leaves slot t ++ leavesOf slot ts

end

/-- The text that a leaf is for. -/
def Head.leafText (h : Head) : String :=
  match h.kind with
  | .softBreak => "\n"
  | .lineBreak | .thematicBreak | .blankLine => ""
  | .blockCode => Text.unended h.rawValue.text
  | _ => h.rawValue.text

/-- The text that a leaf shows where it stands. -/
def shownText (l : Slot × Head) : String :=
  match l.1, l.2.kind with
  | .alternative, .lineBreak => l.2.rawValue.text
  | _, _ => l.2.leafText

def leafTexts (slot : Slot) (ts : List Token) : String :=
  String.join ((leavesOf slot ts).map fun l => l.2.leafText)

def shownTexts (slot : Slot) (ts : List Token) : String :=
  String.join ((leavesOf slot ts).map shownText)

theorem leavesOf_eq_flatMap (slot : Slot) (ts : List Token) :
    leavesOf slot ts = ts.flatMap (Token.leaves slot) := by
  induction ts with
  | nil => rfl
  | cons t ts ih => rw [leavesOf, List.flatMap_cons, ih]

theorem leavesOf_branch (hinside : slot.inside? h.kind = some inside) (children : List Token) :
    (Token.branch h children).leaves slot = leavesOf inside children := by
  rw [Token.leaves, hinside, Option.getD_some]

mutual

theorem map_snd_leaves (slot slot' : Slot) : ∀ t : Token,
    (t.leaves slot).map Prod.snd = (t.leaves slot').map Prod.snd
  | .leaf _ | .misfit _ _ | .stray _ => rfl
  | .branch _ children => map_snd_leavesOf _ _ children

/-- The leaves are the same wherever the tokens stand. -/
theorem map_snd_leavesOf (slot slot' : Slot) : ∀ ts : List Token,
    (leavesOf slot ts).map Prod.snd = (leavesOf slot' ts).map Prod.snd
  | [] => rfl
  | t :: ts => by
    simp only [leavesOf, List.map_append]
    rw [map_snd_leaves slot slot' t, map_snd_leavesOf slot slot' ts]

end

theorem forall_leavesOf_iff (slot slot' : Slot) {p : Head → Prop} :
    (∀ l ∈ leavesOf slot ts, p l.2) ↔ ∀ l ∈ leavesOf slot' ts, p l.2 := by
  have h (slot : Slot) :
      (∀ l ∈ leavesOf slot ts, p l.2) ↔ ∀ h ∈ (leavesOf slot ts).map Prod.snd, p h :=
    List.forall_mem_map.symm
  rw [h, h, map_snd_leavesOf slot slot']

theorem leafTexts_eq (slot slot' : Slot) (ts : List Token) :
    leafTexts slot ts = leafTexts slot' ts := by
  have h := congrArg (List.map Head.leafText) (map_snd_leavesOf slot slot' ts)
  rw [List.map_map, List.map_map] at h
  exact congrArg String.join h

theorem shownTexts_cons (slot : Slot) (t : Token) (ts : List Token) :
    shownTexts slot (t :: ts) = shownTexts slot [t] ++ shownTexts slot ts := by
  simp only [shownTexts, leavesOf, List.append_nil, List.map_append, String.join_append]

theorem shownTexts_leaf (slot : Slot) (h : Head) :
    shownTexts slot [.leaf h] = shownText (slot, h) := by
  simp [shownTexts, leavesOf, Token.leaves]

theorem shownTexts_branch (hinside : slot.inside? h.kind = some inside) (children : List Token) :
    shownTexts slot [.branch h children] = shownTexts inside children := by
  rw [shownTexts, leavesOf, leavesOf, List.append_nil, leavesOf_branch hinside, shownTexts]

/-! ### Hard breaks -/

/-- A hard break has no raw text. -/
def Head.Bare (h : Head) : Prop := h.kind = .lineBreak → h.rawValue.text = ""

theorem shownText_or (l : Slot × Head) :
    l.2.leafText = shownText l ∨ l.2.leafText = "" := by
  obtain ⟨slot, kind, raw, attributes⟩ := l
  cases kind with
  | lineBreak => exact .inr rfl
  | _ => cases slot <;> exact .inl rfl

theorem shownText_eq_iff {l : Slot × Head} :
    shownText l = l.2.leafText ↔ (l.1 = .alternative → l.2.Bare) := by
  obtain ⟨slot, kind, raw, attributes⟩ := l
  cases kind with
  | lineBreak =>
    cases slot with
    | alternative => exact ⟨fun h _ _ => h, fun h => h rfl rfl⟩
    | of site => exact iff_of_true rfl nofun
  | _ => exact iff_of_true (by cases slot <;> rfl) nofun

/-- A text in parts does not get longer without some of its parts. -/
theorem join_map_length_le {f g : α → String} (h : ∀ a, g a = f a ∨ g a = "") (l : List α) :
    (String.join (l.map g)).length ≤ (String.join (l.map f)).length := by
  induction l with
  | nil => exact le_rfl
  | cons a l ih =>
    simp only [List.map_cons, String.join_cons, String.length_append]
    rcases h a with ha | ha
    · rw [ha]
      omega
    · rw [ha, String.length_empty]
      omega

/-- It stays the same only if these parts are empty. -/
theorem join_map_eq_iff {f g : α → String} (h : ∀ a, g a = f a ∨ g a = "") {l : List α} :
    String.join (l.map f) = String.join (l.map g) ↔ ∀ a ∈ l, f a = g a := by
  refine ⟨fun heq => ?_, fun heq => by rw [List.map_congr_left heq]⟩
  induction l with
  | nil => exact nofun
  | cons a l ih =>
    simp only [List.map_cons, String.join_cons] at heq
    have hhead : f a = g a := by
      rcases h a with ha | ha
      · exact ha.symm
      · -- otherwise the first part would make up for what is missing later
        have hlength := congrArg String.length heq
        have hrest := join_map_length_le h l
        rw [String.length_append, String.length_append, ha, String.length_empty] at hlength
        rw [ha, ← String.length_eq_zero_iff]
        omega
    rw [hhead, String.append_right_inj] at heq
    exact List.forall_mem_cons.mpr ⟨hhead, ih heq⟩

/-- **The leaves show what they are for** exactly if no hard break in an alternative text has a raw
text. -/
theorem shownTexts_eq_iff : shownTexts slot ts = leafTexts slot ts ↔
    ∀ l ∈ leavesOf slot ts, l.1 = .alternative → l.2.Bare := by
  unfold shownTexts leafTexts
  rw [join_map_eq_iff shownText_or]
  exact forall₂_congr fun l _ => shownText_eq_iff

/-! ### Well-formed tokens -/

/-- What is asked of a leaf. -/
structure Head.LeafFits (h : Head) : Prop where
  simple : h.kind.isContainer = false
  raw : h.kind.isBreak = false → ∃ s, h.raw = some (.str s)
  undelimited : h.kind = .blockCode → Frontmatter.split? fenceFormats h.rawValue.text = none

/-- What is asked of a token with children: a heading has a level, and a table at most one header,
which comes first. -/
structure Head.BranchFits (h : Head) (children : List Token) : Prop where
  container : h.kind.isContainer = true
  level : h.kind = .heading → ∃ n, headingLevel h = .ok n ∧ 1 ≤ n
  parts : h.kind = .table →
    ∀ t ∈ children.tail, ∀ part, headOf t = .ok part → part.kind ≠ .tableHead

/-- **A token is well-formed** where it stands: it is of a kind that is known there, a leaf has a
raw text, and other tokens hold well-formed ones. -/
inductive Token.WellFormed : Slot → Token → Prop where
  | leaf {slot : Slot} {h : Head} (known : slot.knows h.kind = true) (fits : h.LeafFits) :
      WellFormed slot (.leaf h)
  | branch {slot inside : Slot} {h : Head} {children : List Token}
      (known : slot.knows h.kind = true) (fits : h.BranchFits children)
      (place : slot.inside? h.kind = some inside) (held : ∀ t ∈ children, WellFormed inside t) :
      WellFormed slot (.branch h children)

abbrev AllWellFormed (slot : Slot) (ts : List Token) : Prop := ∀ t ∈ ts, t.WellFormed slot

/-- A token with a raw text that is no code. -/
theorem Token.WellFormed.textual {kind : TokenKind} {text : List Char}
    (known : slot.knows kind = true) (simple : kind.isContainer = false)
    (hcode : kind ≠ .blockCode) : (textual kind text).WellFormed slot :=
  .leaf known ⟨simple, fun _ => ⟨_, rfl⟩, fun h => absurd h hcode⟩

/-- A break without a raw text. -/
theorem Token.WellFormed.ofBreak {kind : TokenKind} (known : slot.knows kind = true)
    (hkind : kind.isBreak = true) : (Token.leaf { kind }).WellFormed slot := by
  cases kind with
  | softBreak | lineBreak | thematicBreak | blankLine => exact .leaf known ⟨rfl, nofun, nofun⟩
  | _ => cases hkind

theorem AllWellFormed.nil : AllWellFormed slot [] := nofun

theorem AllWellFormed.cons (ht : t.WellFormed slot) (hts : AllWellFormed slot ts) :
    AllWellFormed slot (t :: ts) :=
  List.forall_mem_cons.mpr ⟨ht, hts⟩

/-- Leaves stand among blocks and in running text only. -/
theorem Token.WellFormed.site_of_leaf (wf : (Token.leaf h).WellFormed slot) :
    slot.site = .block ∨ slot.site = .inline := by
  cases wf with
  | leaf known fits =>
    have hhome : h.kind.home? = some slot.site := eq_of_beq known
    have hsimple := fits.simple
    obtain ⟨kind, raw, attributes⟩ := h
    cases kind with
    | blankLine | blockCode | thematicBreak | blockHtml | blockMath =>
      exact .inl (Option.some.inj hhome).symm
    | text | softBreak | lineBreak | codeSpan | inlineHtml | inlineMath | footnoteReference =>
      exact .inr (Option.some.inj hhome).symm
    | other name => cases hhome
    | _ => cases hsimple

/-- Children are well-formed in the slot for them. -/
theorem Token.WellFormed.held (wf : (Token.branch h children).WellFormed slot)
    (place : slot.inside? h.kind = some inside) : AllWellFormed inside children := by
  cases wf with
  | branch _ _ place' held =>
    obtain rfl := Option.some.inj (place.symm.trans place')
    exact held

/-! ### What keeps well-formed tokens from being built -/

theorem kindProblems_of_knows {kind : TokenKind} (h : slot.knows kind = true) :
    kindProblems slot kind = [] := by
  rw [kindProblems, h, Bool.not_true, Bool.and_false]
  rfl

theorem Head.BranchFits.lateProblems_eq (fits : h.BranchFits children) :
    lateProblems slot h = [] := by
  cases hkind : h.kind with
  | heading =>
    obtain ⟨n, hlevel, hn⟩ := fits.level hkind
    unfold lateProblems
    split
    · rw [headingNode_of_level hlevel hn]
      rfl
    · rename_i hcode
      cases hkind.symm.trans hcode
    · rfl
  | blockCode =>
    have hcontainer := fits.container
    rw [hkind] at hcontainer
    cases hcontainer
  | _ => simp [lateProblems, hkind]

/-- Only leaves can have problems. -/
theorem problems_eq_late (h : t.WellFormed slot) :
    problems slot t = (t.leaves slot).flatMap fun l => lateProblems l.1 l.2 := by
  induction h with
  | @leaf slot h known fits =>
    rw [problems, kindProblems_of_knows known, Token.leaves, List.flatMap_singleton,
      List.nil_append]
  | @branch slot inside h children known fits place held ih =>
    have hheld : problemsIn inside children =
        (leavesOf inside children).flatMap fun l => lateProblems l.1 l.2 := by
      rw [problemsIn_eq_flatMap, leavesOf_eq_flatMap, List.flatMap_assoc]
      exact List.flatMap_congr ih
    rw [problems, kindProblems_of_knows known, fits.lateProblems_eq, leavesOf_branch place, place,
      List.nil_append, List.append_nil]
    exact hheld

theorem problemsIn_eq_late (h : AllWellFormed slot ts) :
    problemsIn slot ts = (leavesOf slot ts).flatMap fun l => lateProblems l.1 l.2 := by
  rw [problemsIn_eq_flatMap, leavesOf_eq_flatMap, List.flatMap_assoc]
  exact List.flatMap_congr fun t ht => problems_eq_late (h t ht)

end Markdown

end Manuscript
