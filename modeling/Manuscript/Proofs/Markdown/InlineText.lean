import Manuscript.Proofs.Markdown.Leaves
import Manuscript.Proofs.Tree.WholeText

/-!
# The text of inline tokens

The text of inline tokens is told twice: `plainText` takes it from the tokens, whatever they are,
and `inlines` makes nodes of them, each kind in its own way, whose text is told by `wholeTexts`.
Both are what the leaves show, in order (`plainText_eq`, `inlines_text`). So the two texts agree if
no hard break has a raw text, and the alternative text of an image is all the text that nodes made
of its children would have (`plainText_eq_wholeTexts`).
-/

namespace Manuscript.Markdown

open Node (wholeTexts)

/-! ### From the tokens -/

mutual

theorem plainTextOf_eq : ∀ {t : Token}, t.WellFormed .alternative →
    plainTextOf t = .ok (shownTexts .alternative [t])
  | .leaf ⟨kind, raw, attributes⟩, .leaf known _ => by
    rw [shownTexts_leaf]
    cases kind with
    | text | softBreak | lineBreak | codeSpan | inlineHtml | inlineMath | footnoteReference
    | link | image | emphasis | strong | strikethrough => rfl
    | _ => cases known
  | .branch ⟨kind, raw, attributes⟩ children, wf@(.branch known fits _ _) => by
    cases kind with
    | link | image | emphasis | strong | strikethrough =>
      rw [shownTexts_branch rfl]
      exact plainText_eq (wf.held rfl)
    | text | softBreak | lineBreak | codeSpan | inlineHtml | inlineMath | footnoteReference =>
      cases fits.container
    | _ => cases known

/-- The text of tokens is what their leaves show. -/
theorem plainText_eq : ∀ {ts : List Token}, AllWellFormed .alternative ts →
    plainText ts = .ok (shownTexts .alternative ts)
  | [], _ => rfl
  | t :: ts, wf => by
    obtain ⟨ht, hts⟩ := List.forall_mem_cons.mp wf
    rw [shownTexts_cons, plainText, plainTextOf_eq ht, plainText_eq hts]
    rfl

end

/-! ### From the nodes -/

mutual

theorem inline_text : ∀ {t : Token}, t.WellFormed (.of .inline) →
    ∃ n, inline t = .ok n ∧ n.wholeText = shownTexts (.of .inline) [t]
  | .leaf ⟨kind, raw, attributes⟩, .leaf known fits => by
    rw [shownTexts_leaf]
    cases kind with
    | text | softBreak | lineBreak | codeSpan | inlineHtml | inlineMath | footnoteReference =>
      exact ⟨_, rfl, rfl⟩
    | link | image | emphasis | strong | strikethrough => cases fits.simple
    | _ => cases known
  | .branch ⟨kind, raw, attributes⟩ children, wf@(.branch known fits _ _) => by
    cases kind with
    | image =>
      -- what is in an image is not made into nodes
      rw [shownTexts_branch rfl, inline, plainText_eq (wf.held rfl)]
      exact ⟨_, rfl, rfl⟩
    | link | emphasis | strong | strikethrough =>
      obtain ⟨ns, hns, htext⟩ := inlines_text (wf.held rfl)
      rw [shownTexts_branch rfl, inline, hns, ← htext]
      exact ⟨_, rfl, rfl⟩
    | text | softBreak | lineBreak | codeSpan | inlineHtml | inlineMath | footnoteReference =>
      cases fits.container
    | _ => cases known

/-- **Inline nodes have the text** that the leaves of the tokens show. -/
theorem inlines_text : ∀ {ts : List Token}, AllWellFormed (.of .inline) ts →
    ∃ ns, inlines ts = .ok ns ∧ wholeTexts ns = shownTexts (.of .inline) ts
  | [], _ => ⟨[], rfl, rfl⟩
  | t :: ts, wf => by
    obtain ⟨ht, hts⟩ := List.forall_mem_cons.mp wf
    obtain ⟨n, hn, hfirst⟩ := inline_text ht
    obtain ⟨ns, hns, hrest⟩ := inlines_text hts
    refine ⟨n :: ns, ?_, ?_⟩
    · rw [inlines, hn, hns]
      rfl
    · rw [wholeTexts, hfirst, hrest, ← shownTexts_cons]

end

/-! ### Both -/

variable {slot : Slot} {t : Token} {ts : List Token}

/-- Inline tokens hold inline tokens. -/
theorem Slot.site_inside {kind : TokenKind} (hsite : slot.site = .inline)
    (known : slot.knows kind = true) (container : kind.isContainer = true) :
    ∃ inside, slot.inside? kind = some inside ∧ inside.site = .inline := by
  obtain rfl | rfl : slot = .of .inline ∨ slot = .alternative := by
    cases slot with
    | of site => exact .inl (congrArg Slot.of hsite)
    | alternative => exact .inr rfl
  all_goals
    cases kind with
    | link | image | emphasis | strong | strikethrough => exact ⟨_, rfl, rfl⟩
    | text | softBreak | lineBreak | codeSpan | inlineHtml | inlineMath | footnoteReference =>
      cases container
    | _ => cases known

/-- What is well-formed in running text is well-formed in an alternative text, and the other way
round. -/
theorem Token.WellFormed.of_site (wf : t.WellFormed slot) (hsite : slot.site = .inline) :
    ∀ {slot' : Slot}, slot'.site = .inline → t.WellFormed slot' := by
  induction wf with
  | @leaf slot h known fits =>
    intro slot' hsite'
    refine .leaf ?_ fits
    rwa [Slot.knows, hsite', ← hsite]
  | @branch slot inside h children known fits place held ih =>
    intro slot' hsite'
    have hknown : slot'.knows h.kind = true := by rwa [Slot.knows, hsite', ← hsite]
    obtain ⟨inside', place', hinside'⟩ := Slot.site_inside hsite' hknown fits.container
    obtain ⟨_, hplace, hinside⟩ := Slot.site_inside hsite known fits.container
    obtain rfl := Option.some.inj (place.symm.trans hplace)
    exact .branch hknown fits place' fun t ht => ih t ht hinside hinside'

/-- **The two texts agree.** Of well-formed inline tokens, with no raw text in hard breaks, nodes
are made, and what `plainText` tells is the text of these nodes. An image that holds the tokens has
it for its alternative text. -/
theorem plainText_eq_wholeTexts (wf : AllWellFormed (.of .inline) ts)
    (bare : ∀ l ∈ leavesOf (.of .inline) ts, l.2.Bare) :
    ∃ ns, inlines ts = .ok ns ∧ plainText ts = .ok (wholeTexts ns) ∧
      ∀ h : Head, h.kind = .image →
        inline (.branch h ts) = .ok (imageNode h (wholeTexts ns)) := by
  obtain ⟨ns, hns, htext⟩ := inlines_text wf
  have hplain : plainText ts = .ok (wholeTexts ns) := by
    rw [plainText_eq fun t ht => (wf t ht).of_site rfl rfl, htext,
      shownTexts_eq_iff.mpr fun l hl _ => bare l hl,
      shownTexts_eq_iff.mpr fun l hl _ => (forall_leavesOf_iff _ _).mp bare l hl, leafTexts_eq]
  refine ⟨ns, hns, hplain, fun h himage => ?_⟩
  rw [inline, himage]
  dsimp only
  rw [hplain]
  rfl

/-- An image within the alternative text of another one, and breaks of both sorts. -/
theorem plainText_eq_wholeTexts_images :
    let inner : List Token := [textual .codeSpan "b".toList]
    let outer : List Token := [textual .text "a".toList, .branch { kind := .image } inner,
      .leaf { kind := .softBreak }, .branch { kind := .emphasis } [textual .inlineMath "c".toList]]
    let ts : List Token := [.branch { kind := .image } outer, .leaf { kind := .lineBreak },
      textual .footnoteReference "n".toList]
    AllWellFormed (.of .inline) ts ∧ (∀ l ∈ leavesOf (.of .inline) ts, l.2.Bare) ∧
      plainText ts = .ok "ab\ncn" ∧
      ∃ ns, inlines ts = .ok ns ∧ plainText ts = .ok (wholeTexts ns) ∧
        ∀ h : Head, h.kind = .image →
          inline (.branch h ts) = .ok (imageNode h (wholeTexts ns)) := by
  intro inner outer ts
  have hinner : AllWellFormed .alternative inner := .cons (.textual rfl rfl nofun) .nil
  have hmath : AllWellFormed .alternative [textual .inlineMath "c".toList] :=
    .cons (.textual rfl rfl nofun) .nil
  have houter : AllWellFormed .alternative outer :=
    .cons (.textual rfl rfl nofun) <| .cons (.branch rfl ⟨rfl, nofun, nofun⟩ rfl hinner) <|
      .cons (.ofBreak rfl rfl) <| .cons (.branch rfl ⟨rfl, nofun, nofun⟩ rfl hmath) .nil
  have wf : AllWellFormed (.of .inline) ts :=
    .cons (.branch rfl ⟨rfl, nofun, nofun⟩ rfl houter) <| .cons (.ofBreak rfl rfl) <|
      .cons (.textual rfl rfl nofun) .nil
  have bare : ∀ l ∈ leavesOf (.of .inline) ts, l.2.Bare := by
    simp [ts, outer, inner, leavesOf, Token.leaves, textual, Head.Bare, Head.rawValue, Value.text]
  exact ⟨wf, bare, rfl, plainText_eq_wholeTexts wf bare⟩

end Manuscript.Markdown
