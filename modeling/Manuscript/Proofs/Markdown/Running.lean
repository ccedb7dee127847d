import Manuscript.Proofs.Markdown.TokenGrammar
import Mathlib.Data.List.Basic

/-!
# What running text holds

The tokens of running text are emitted in running text (`inlineTokens_emitted`). While a text is
read its pieces hold only such tokens, and a footnote is noted down only if footnotes are switched
on (`Scan.Emitted`). Each rule that reads something keeps both, so a whole reading does, by
induction on the text that is left (`scan_emitted`). What becomes of the pieces afterwards adds
emphasis and joins texts.
-/

namespace Manuscript.Markdown

variable {o : ParserOptions}

/-! ### Emphasis -/

theorem textToken_emitted (text : List Char) : (textToken text).Emitted o .inline :=
  .textual (by decide) trivial

/-- A part of running text, if it is a token, is emitted there. -/
def Part.Emitted (o : ParserOptions) : Part → Prop
  | .token t => t.Emitted o .inline
  | .run _ => True

abbrev PartsEmitted (o : ParserOptions) (ps : List Part) : Prop := ∀ p ∈ ps, p.Emitted o

theorem settled_emitted {p : Part} (h : p.Emitted o) : p.settled.Emitted o .inline := by
  cases p with
  | token t => exact h
  | run r => exact textToken_emitted _

theorem map_settled_emitted {ps : List Part} (h : PartsEmitted o ps) :
    AllEmitted o .inline (ps.map Part.settled) := by
  intro t ht
  obtain ⟨p, hp, rfl⟩ := List.mem_map.mp ht
  exact settled_emitted (h p hp)

/-- What a search that passes over an element finds, it finds in the elements after it. -/
theorem of_map_cons {α β : Type} {found : Option (List α × β × List α)} {a : α} {b : β}
    {inside rest : List α} (h : found.map (fun x => (a :: x.1, x.2.1, x.2.2)) =
      some (inside, b, rest)) :
    ∃ within, inside = a :: within ∧ found = some (within, b, rest) := by
  obtain ⟨⟨within, _, _⟩, hfound, heq⟩ := Option.map_eq_some_iff.mp h
  cases heq
  exact ⟨within, rfl, hfound⟩

/-- A run is paired with one of the parts before it. -/
theorem eq_of_opener? {closer opener : MarkRun} {ps inside rest : List Part}
    (h : opener? closer ps = some (inside, opener, rest)) :
    ps = inside ++ .run opener :: rest := by
  induction ps generalizing inside with
  | nil => cases h
  | cons p ps ih =>
    cases p with
    | token t =>
      obtain ⟨within, rfl, hrest⟩ := of_map_cons h
      rw [ih hrest]
      rfl
    | run r =>
      rw [opener?] at h
      split at h
      · cases h
        rfl
      · obtain ⟨within, rfl, hrest⟩ := of_map_cons h
        rw [ih hrest]
        rfl

theorem closeRun_emitted : ∀ (fuel : Nat) (closer : MarkRun) {before : List Part},
    PartsEmitted o before → PartsEmitted o (closeRun fuel closer before)
  | 0, closer, before, h => List.forall_mem_cons.mpr ⟨trivial, h⟩
  | fuel + 1, closer, before, h => by
    rw [closeRun]
    split
    · exact List.forall_mem_cons.mpr ⟨trivial, h⟩
    · rename_i inside opener rest hopener
      obtain rfl := eq_of_opener? hopener
      obtain ⟨hinside, hrest⟩ := List.forall_mem_append.mp h
      have hcontent : AllEmitted o .inline (inside.reverse.map Part.settled) :=
        map_settled_emitted fun p hp => hinside p (List.mem_reverse.mp hp)
      -- the content becomes emphasis, before which the rest of the opening run is left
      have hparts : ∀ (used : Nat) (r : MarkRun), PartsEmitted o
          (.token (.branch { kind := if used = 2 then .strong else .emphasis }
            (inside.reverse.map Part.settled)) :: .run r :: rest) := by
        intro used r
        refine List.forall_mem_cons.mpr ⟨?_, List.forall_mem_cons.mpr ⟨trivial, ?_⟩⟩
        · show Token.Emitted o .inline _
          split_ifs
          · exact .branch_of_ne_heading rfl trivial (by simp) hcontent
          · exact .branch_of_ne_heading rfl trivial (by simp) hcontent
        · exact (List.forall_mem_cons.mp hrest).2
      dsimp only
      generalize (if (decide (2 ≤ opener.left) && decide (2 ≤ closer.left)) = true then 2 else 1) =
        used
      split
      · exact List.forall_mem_cons.mpr ⟨trivial, hparts _ _⟩
      · exact closeRun_emitted fuel _ (hparts _ _)

theorem pairStep_emitted {before : List Part} {p : Part} (h : PartsEmitted o before)
    (hp : p.Emitted o) : PartsEmitted o (pairStep before p) := by
  unfold pairStep
  split
  · split
    · exact closeRun_emitted _ _ h
    · exact List.forall_mem_cons.mpr ⟨hp, h⟩
  · exact List.forall_mem_cons.mpr ⟨hp, h⟩

theorem foldl_pairStep_emitted {before ps : List Part} (h : PartsEmitted o before)
    (hps : PartsEmitted o ps) : PartsEmitted o (ps.foldl pairStep before) := by
  induction ps generalizing before with
  | nil => exact h
  | cons p ps ih =>
    obtain ⟨hp, hps⟩ := List.forall_mem_cons.mp hps
    exact ih (pairStep_emitted h hp) hps

theorem joinTexts_emitted : ∀ {ts : List Token}, AllEmitted o .inline ts →
    AllEmitted o .inline (joinTexts ts)
  | [], h => h
  | t :: ts, h => by
    obtain ⟨ht, hts⟩ := List.forall_mem_cons.mp h
    have hrest := joinTexts_emitted hts
    rw [joinTexts]
    split
    · exact .cons ht hrest
    · split
      · rename_i next others hnext
        obtain ⟨-, hothers⟩ := List.forall_mem_cons.mp (hnext ▸ hrest)
        split
        · exact .cons (textToken_emitted _) hothers
        · split
          · exact hrest
          · exact .cons ht hrest
      · split
        · exact List.forall_mem_nil _
        · exact .cons ht (List.forall_mem_nil _)

theorem resolve_emitted {ps : List Part} (h : PartsEmitted o ps) :
    AllEmitted o .inline (resolve ps) := by
  unfold resolve
  split
  · refine joinTexts_emitted (map_settled_emitted fun p hp => ?_)
    exact foldl_pairStep_emitted (List.forall_mem_nil _) h p (List.mem_reverse.mp hp)
  · exact map_settled_emitted h

/-! ### Pieces -/

/-- A piece of running text, if it is a part, is emitted there. -/
def Piece.Emitted (o : ParserOptions) : Piece → Prop
  | .part p => p.Emitted o
  | .plain _ | .bracket _ _ _ => True

abbrev PiecesEmitted (o : ParserOptions) (ps : List Piece) : Prop := ∀ p ∈ ps, p.Emitted o

theorem flush_emitted (text : List Char) {rest : List Part} (h : PartsEmitted o rest) :
    PartsEmitted o (flush text rest) := by
  unfold flush
  split
  · exact h
  · exact List.forall_mem_cons.mpr ⟨textToken_emitted text, h⟩

theorem partsAfter_emitted {ps : List Piece} (text : List Char) (h : PiecesEmitted o ps) :
    PartsEmitted o (partsAfter text ps) := by
  induction ps generalizing text with
  | nil => exact flush_emitted text (List.forall_mem_nil _)
  | cons p ps ih =>
    obtain ⟨hp, hps⟩ := List.forall_mem_cons.mp h
    cases p with
    | plain more => exact ih _ hps
    | bracket image _ _ => exact ih _ hps
    | part p => exact flush_emitted text (List.forall_mem_cons.mpr ⟨hp, ih [] hps⟩)

theorem tokensOf_emitted {latest : List Piece} (h : PiecesEmitted o latest) :
    AllEmitted o .inline (tokensOf latest) :=
  resolve_emitted (partsAfter_emitted [] fun p hp => h p (List.mem_reverse.mp hp))

/-- A closing bracket looks back to one of the pieces. -/
theorem eq_of_openBracket? {ps inside rest : List Piece} {b : Bool × Bool × List Char}
    (h : openBracket? ps = some (inside, b, rest)) :
    ps = inside ++ .bracket b.1 b.2.1 b.2.2 :: rest := by
  induction ps generalizing inside with
  | nil => cases h
  | cons p ps ih =>
    cases p with
    | bracket image active after =>
      cases h
      rfl
    | plain _ | part _ =>
      obtain ⟨within, rfl, hrest⟩ := of_map_cons h
      rw [ih hrest]
      rfl

theorem map_deactivate_emitted {ps : List Piece} (h : PiecesEmitted o ps) :
    PiecesEmitted o (ps.map deactivate) := by
  intro p hp
  obtain ⟨q, hq, rfl⟩ := List.mem_map.mp hp
  unfold deactivate
  split
  · trivial
  · exact h q hq

/-! ### Reading from left to right -/

/-- What running text is read with is switched on by the options. -/
structure InlineSetting.AllowedBy (o : ParserOptions) (x : InlineSetting) : Prop where
  strikethrough : x.strikethrough = true → o.strikethrough.truthy = true
  notes : x.notes = true → o.footnotes.truthy = true
  math : x.math = true → o.math.truthy = true

/-- Footnotes are referred to only if the options switch them on. -/
def NotesEnabled (o : ParserOptions) (notes : List String) : Prop :=
  notes ≠ [] → o.footnotes.truthy = true

theorem NotesEnabled.nil : NotesEnabled o [] := fun h => absurd rfl h

/-- **The pieces that have been read are emitted**, and the footnotes are switched on. -/
structure Scan.Emitted (o : ParserOptions) (s : Scan) : Prop where
  pieces : PiecesEmitted o s.pieces
  notes : NotesEnabled o s.notes

namespace Scan.Emitted

variable {s : Scan} {x : InlineSetting}

theorem addPlain (h : s.Emitted o) (text : List Char) : (s.addPlain text).Emitted o where
  pieces := List.forall_mem_cons.mpr ⟨trivial, h.pieces⟩
  notes := h.notes

theorem addToken (h : s.Emitted o) {t : Token} (ht : t.Emitted o .inline) (last : Char) :
    (s.addToken t last).Emitted o where
  pieces := List.forall_mem_cons.mpr ⟨ht, h.pieces⟩
  notes := h.notes

theorem withPieces (h : s.Emitted o) {pieces : List Piece} (hp : PiecesEmitted o pieces) :
    ({ s with pieces := pieces } : Scan).Emitted o :=
  ⟨hp, h.notes⟩

theorem withNotes (h : s.Emitted o) {notes : List String} (hn : NotesEnabled o notes) :
    ({ s with notes := notes } : Scan).Emitted o :=
  ⟨h.pieces, hn⟩

theorem addressLink_emitted (url shown : List Char) : (addressLink url shown).Emitted o .inline :=
  .branch_of_ne_heading rfl trivial (by simp)
    (List.forall_mem_singleton.mpr (textToken_emitted shown))

theorem readAngle (h : s.Emitted o) (cs rest : List Char) :
    (Markdown.readAngle s cs rest).1.Emitted o := by
  unfold Markdown.readAngle
  split
  · split
    · exact h.addPlain _
    · exact h.addToken (addressLink_emitted _ _) _
  · split
    · split
      · exact h.addPlain _
      · exact h.addToken (addressLink_emitted _ _) _
    · split
      · rename_i after _
        have htag := h.addToken (t := textual .inlineHtml (before cs after))
          (.textual (by decide) trivial) '>'
        exact ⟨htag.pieces, htag.notes⟩
      · exact h.addPlain _

theorem readBracket (hx : x.AllowedBy o) (h : s.Emitted o) (rest : List Char) :
    (Markdown.readBracket x s rest).1.Emitted o := by
  unfold Markdown.readBracket
  dsimp only
  split
  · rename_i label after hnote
    split at hnote
    · rename_i hon
      have hnotes : o.footnotes.truthy = true := hx.notes hon
      split
      · refine (h.withNotes fun _ => hnotes).addToken ?_ _
        exact .textual (by decide) hnotes
      · exact h.addPlain _
    · cases hnote
  · split
    · exact h.addPlain _
    · exact ⟨List.forall_mem_cons.mpr ⟨trivial, h.pieces⟩, h.notes⟩

theorem readBreak? (h : s.Emitted o) {cs : List Char} {next : Scan × List Char}
    (hnext : Markdown.readBreak? s cs = some next) : next.1.Emitted o := by
  unfold Markdown.readBreak? at hnext
  dsimp only at hnext
  split at hnext
  · obtain rfl := Option.some.inj hnext
    refine h.addToken ?_ _
    split_ifs
    · exact .leaf (by decide) trivial
    · exact .leaf (by decide) trivial
  · obtain rfl := Option.some.inj hnext
    refine h.addToken ?_ _
    exact .leaf (by decide) trivial
  · cases hnext

theorem readTicks (h : s.Emitted o) (cs : List Char) : (Markdown.readTicks s cs).1.Emitted o := by
  unfold Markdown.readTicks
  dsimp only
  split
  · refine h.addToken ?_ _
    exact .textual (by decide) trivial
  · exact h.addPlain _

theorem readSign (ho : o.math.truthy = true) (h : s.Emitted o) (rest : List Char) :
    (Markdown.readSign s rest).1.Emitted o := by
  unfold Markdown.readSign
  dsimp only
  split
  · refine h.addToken ?_ _
    exact .textual (by decide) ho
  · split
    · refine h.addToken ?_ _
      exact .textual (by decide) ho
    · exact h.addPlain _

theorem readMarks (h : s.Emitted o) (c : Char) (cs : List Char) :
    (Markdown.readMarks s c cs).1.Emitted o :=
  ⟨List.forall_mem_cons.mpr ⟨trivial, h.pieces⟩, h.notes⟩

theorem closeBracket (h : s.Emitted o) (rest : List Char) :
    (Markdown.closeBracket x s rest).1.Emitted o := by
  unfold Markdown.closeBracket
  split
  · exact h.addPlain _
  · rename_i inside image active opened earlier hopen
    have hpieces := h.pieces
    rw [eq_of_openBracket? hopen] at hpieces
    obtain ⟨hinside, hrest⟩ := List.forall_mem_append.mp hpieces
    obtain ⟨-, hearlier⟩ := List.forall_mem_cons.mp hrest
    have hpieces : PiecesEmitted o (inside ++ .plain (bracketText image) :: earlier) :=
      List.forall_mem_append.mpr ⟨hinside, List.forall_mem_cons.mpr ⟨trivial, hearlier⟩⟩
    have hinactive : PiecesEmitted o (if image then earlier else earlier.map deactivate) := by
      split
      · exact hearlier
      · exact map_deactivate_emitted hearlier
    dsimp only
    split
    · exact (h.withPieces hpieces).addPlain _
    · refine (h.withPieces hinactive).addToken ?_ _
      split_ifs
      · exact .branch_of_ne_heading rfl trivial (by simp) (tokensOf_emitted hinside)
      · exact .branch_of_ne_heading rfl trivial (by simp) (tokensOf_emitted hinside)

end Scan.Emitted

/-- What one step reads, and what is left then. -/
inductive ScanStep (x : InlineSetting) (fuel : Nat) (s : Scan) (c : Char) (rest : List Char) :
    Scan × List Char → Prop where
  | plain : ScanStep x fuel s c rest (s.addPlain [c], rest)
  | escaped (marks left : List Char) (m : Char) :
      ScanStep x fuel s c rest (s.addToken (textToken marks) m, left)
  | lineBreak {next : Scan × List Char} (h : readBreak? s (c :: rest) = some next) :
      ScanStep x fuel s c rest next
  | ticks : ScanStep x fuel s c rest (readTicks s (c :: rest))
  | marks : ScanStep x fuel s c rest (readMarks s c (c :: rest))
  | struck (on : x.strikethrough = true) (text after : List Char) {inner : Scan}
      (h : scan x fuel { s with pieces := [], last := none } text = inner) :
      ScanStep x fuel s c rest ({ s with notes := inner.notes }.addToken
        (.branch { kind := .strikethrough } (tokensOf inner.pieces)) '~', after)
  | sign (on : x.math = true) : ScanStep x fuel s c rest (readSign s rest)
  | openBracket : ScanStep x fuel s c rest (readBracket x s rest)
  | closeBracket : ScanStep x fuel s c rest (closeBracket x s rest)
  | angle : ScanStep x fuel s c rest (readAngle s (c :: rest) rest)
  | image (more : List Char) : ScanStep x fuel s c rest
      ({ s with pieces := .bracket true true more :: s.pieces, last := some '[' }, more)

/-- Reading goes on after one step. -/
theorem scan_cons (x : InlineSetting) (fuel : Nat) (s : Scan) (c : Char) (rest : List Char) :
    ∃ next, ScanStep x fuel s c rest next ∧
      scan x (fuel + 1) s (c :: rest) = scan x fuel next.1 next.2 := by
  generalize hscan : scan x (fuel + 1) s (c :: rest) = result
  unfold scan at hscan
  dsimp only at hscan
  -- the character decides between the rules, in the order in which they are tried
  split at hscan
  · split at hscan
    · exact ⟨_, .escaped _ _ _, hscan.symm⟩
    · rename_i hbreak
      exact ⟨_, .lineBreak hbreak, hscan.symm⟩
    · exact ⟨_, .plain, hscan.symm⟩
  split at hscan
  · split at hscan
    · rename_i hbreak
      exact ⟨_, .lineBreak hbreak, hscan.symm⟩
    · exact ⟨_, .plain, hscan.symm⟩
  split at hscan
  · exact ⟨_, .ticks, hscan.symm⟩
  split at hscan
  · exact ⟨_, .marks, hscan.symm⟩
  split at hscan
  · rename_i hstrike
    split at hscan
    · exact ⟨_, .struck (Bool.and_eq_true_iff.mp hstrike).2 _ _ rfl, hscan.symm⟩
    · exact ⟨_, .plain, hscan.symm⟩
  split at hscan
  · rename_i hmath
    exact ⟨_, .sign (Bool.and_eq_true_iff.mp hmath).2, hscan.symm⟩
  split at hscan
  · exact ⟨_, .openBracket, hscan.symm⟩
  split at hscan
  · exact ⟨_, .closeBracket, hscan.symm⟩
  split at hscan
  · exact ⟨_, .angle, hscan.symm⟩
  split at hscan
  · split at hscan
    · exact ⟨_, .image _, hscan.symm⟩
    · exact ⟨_, .plain, hscan.symm⟩
  · exact ⟨_, .plain, hscan.symm⟩

/-- **Reading a text** keeps the pieces emitted. -/
theorem scan_emitted {x : InlineSetting} (hx : x.AllowedBy o) (fuel : Nat) {s : Scan}
    (cs : List Char) (h : s.Emitted o) : (scan x fuel s cs).Emitted o := by
  induction fuel generalizing s cs with
  | zero => cases cs <;> exact h
  | succ fuel ih =>
    cases cs with
    | nil => exact h
    | cons c rest =>
      obtain ⟨next, hstep, hscan⟩ := scan_cons x fuel s c rest
      rw [hscan]
      refine ih _ ?_
      cases hstep with
      | plain => exact h.addPlain [c]
      | escaped marks left m => exact h.addToken (textToken_emitted marks) m
      | lineBreak hbreak => exact h.readBreak? hbreak
      | ticks => exact h.readTicks _
      | marks => exact h.readMarks c _
      | struck on text after hinner =>
        replace hinner := hinner ▸ ih (s := { s with pieces := [], last := none }) text
          ⟨List.forall_mem_nil _, h.notes⟩
        refine (h.withNotes hinner.notes).addToken ?_ _
        exact .branch_of_ne_heading rfl (hx.strikethrough on) (by simp)
          (tokensOf_emitted hinner.pieces)
      | sign on => exact h.readSign (hx.math on) rest
      | openBracket => exact h.readBracket hx rest
      | closeBracket => exact h.closeBracket rest
      | angle => exact h.readAngle _ rest
      | image more => exact ⟨List.forall_mem_cons.mpr ⟨trivial, h.pieces⟩, h.notes⟩

/-- **The tokens of running text** are emitted there. -/
theorem inlineTokens_emitted {x : InlineSetting} (hx : x.AllowedBy o) (text : List Char)
    {notes : List String} (h : NotesEnabled o notes) :
    AllEmitted o .inline (inlineTokens x text notes).1 ∧
      NotesEnabled o (inlineTokens x text notes).2 := by
  unfold inlineTokens
  dsimp only
  split
  · exact ⟨List.forall_mem_singleton.mpr (textToken_emitted []), h⟩
  · have hscan := scan_emitted hx (Text.trimBoth isMargin text).length
      (s := { notes := notes }) (Text.trimBoth isMargin text) ⟨List.forall_mem_nil _, h⟩
    exact ⟨tokensOf_emitted hscan.pieces, hscan.notes⟩

end Manuscript.Markdown
