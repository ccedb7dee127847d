import Manuscript.Proofs.Latex.Compositional
import Manuscript.Proofs.Latex.Delimiter

/-!
# Rendered text is well nested

Braces and environments are written in pieces by a dozen rules, around texts that are written as
they are. Where those texts hold no backslash and no brace (`PlainTexts`), every rule by itself
writes a well nested text, and so does every tree that is rendered (`render_wellNested`).

Not every piece is well nested, since a list writes the beginning and the end of its environment
apart. The invariant is on what a whole step adds to the page (`Adds`): pieces that are put together
to a well nested text, before those already there. Steps that do so are closed under sequence,
capture and repetition along a list.
-/

namespace Manuscript.Latex

open Writing

variable {o : RendererOptions}

/-! ### The texts of a node -/

/-- The texts of a node that are written as they are hold no backslash and no brace. Text counts
only where special characters are not escaped. -/
def PlainTexts (o : RendererOptions) : Node → Prop
  | .link url _ _ _ => Plain url.toList
  | .image url altText _ _ => Plain url.toList ∧ Plain altText.toList
  | .code content _ | .mathInline content _ | .mathBlock content _ => Plain content.toList
  | .codeBlock content _ d _ => Plain content.toList ∧ Plain (d.label.getD "").toList ∧
      Plain (d.caption.getD "").toList ∧ Plain (d.alignment.getD "").toList
  | .text content _ => o.escapeSpecial.truthy = true ∨ Plain content.toList
  | _ => True

/-! ### Rules without parts -/

theorem wellNested_escapeChar (c : Char) : WellNested (escapeChar c) := by
  have hgroup : WellNested ['\x7b', '\x7d'] := WellNested.empty.group
  unfold escapeChar
  split_ifs with h₁ h₂ h₃ h₄
  · exact hgroup.word (w := "textbackslash".toList) (by decide) (by decide)
  · exact hgroup.word (w := "textasciitilde".toList) (by decide) (by decide)
  · exact hgroup.word (w := "textasciicircum".toList) (by decide) (by decide)
  · refine WellNested.symbol ?_
    simp only [Bool.or_eq_true, decide_eq_true_eq] at h₄
    rcases h₄ with ((((((rfl | rfl) | rfl) | rfl) | rfl) | rfl) | rfl) <;> decide
  · refine WellNested.single ?_
    simp only [Bool.or_eq_true, decide_eq_true_eq, not_or] at h₄
    simp [isActive, h₁, h₄]

theorem wellNested_plainText {content : String}
    (h : o.escapeSpecial.truthy = true ∨ Plain content.toList) :
    WellNested (plainText o content).toList := by
  unfold plainText
  split_ifs with hescape
  · rw [escape, String.toList_ofList]
    exact WellNested.flatMap fun c _ => wellNested_escapeChar c
  · exact .of_plain (h.resolve_left hescape)

theorem isAlpha_of_verbDelimiter? {content : String} {c : Char}
    (h : verbDelimiter? content = some c) : c.isAlpha = false ∧ isActive c = false := by
  have hc : c ∈ verbDelimiters := List.mem_of_find?_eq_some h
  have hall : verbDelimiters.all (fun c => !c.isAlpha && !isActive c) = true := by decide
  simpa using List.all_eq_true.mp hall c hc

theorem wellNested_verb {content s : String} (hcontent : Plain content.toList)
    (h : verb content = .ok s) : WellNested s.toList := by
  unfold verb at h
  split at h
  · rename_i c hc
    obtain ⟨halpha, hactive⟩ := isAlpha_of_verbDelimiter? hc
    obtain rfl := Except.ok.inj h
    have htext : WellNested (c :: (content.toList ++ [c])) := by
      refine .of_plain fun x hx => ?_
      simp only [List.mem_cons, List.mem_append, List.not_mem_nil, or_false] at hx
      rcases hx with rfl | hx | rfl
      · exact hactive
      · exact hcontent x hx
      · exact hactive
    have hword := htext.word (w := "verb".toList) (by decide) halpha
    simpa using hword
  · cases h

theorem wellNested_labelAndCaption {d : Directive} {mark : String} (hmark : Plain mark.toList)
    (hlabel : Plain (d.label.getD "").toList) (hcaption : Plain (d.caption.getD "").toList) :
    WellNested (labelAndCaption d mark).toList := by
  have hbreak : WellNested ['\n'] := .single (by decide)
  have hlabelText : Plain (mark ++ ":" ++ d.label.getD "").toList := by
    intro c hc
    simp only [String.toList_append, List.mem_append] at hc
    rcases hc with (hc | hc) | hc
    · exact hmark c hc
    · obtain rfl : c = ':' := by simpa using hc
      decide
    · exact hlabel c hc
  unfold labelAndCaption
  dsimp only
  rw [String.toList_append]
  refine .append ?_ ?_
  · split_ifs
    · exact .empty
    · rw [String.toList_append]
      exact ((WellNested.of_plain hlabelText).command (by decide)).append hbreak
  · split_ifs
    · exact .empty
    · rw [String.toList_append]
      exact ((WellNested.of_plain hcaption).command (by decide)).append hbreak

theorem wellNested_figure {content : String} {d : Directive} (hcontent : Plain content.toList)
    (hlabel : Plain (d.label.getD "").toList) (hcaption : Plain (d.caption.getD "").toList) :
    WellNested (figure content d).toList := by
  have hbreak : WellNested ['\n'] := .single (by decide)
  have hmark : Plain "fig".toList := by decide
  have hname : Plain "figure".toList := by decide
  have hinside := ((hbreak.append (.of_plain hcontent)).append hbreak).append
    (wellNested_labelAndCaption hmark hlabel hcaption)
  have hfigure := (hinside.environment hname).append hbreak
  simpa [figure] using hfigure

theorem wellNested_tableRow {line : List Char} (h : Plain line) :
    WellNested (tableRow line).toList := by
  rw [tableRow, String.toList_ofList]
  refine .flatMap fun c hc => ?_
  unfold cellChar
  split_ifs
  · exact .symbol (by decide)
  · exact .single (by decide)
  · exact .single (h c hc)

theorem mem_of_mem_splitAt {sep c : Char} : ∀ {cs p : List Char}, p ∈ Text.splitAt sep cs → c ∈ p →
    c ∈ cs
  | [], p, hp, hc => by
    obtain rfl : p = [] := by simpa [Text.splitAt] using hp
    cases hc
  | x :: cs, p, hp, hc => by
    rw [Text.splitAt] at hp
    split_ifs at hp with hx
    · rcases List.mem_cons.mp hp with rfl | hp
      · cases hc
      · exact List.mem_cons_of_mem _ (mem_of_mem_splitAt hp hc)
    · cases hsplit : Text.splitAt sep cs with
      | nil =>
        rw [hsplit] at hp
        obtain rfl : p = [x] := by simpa using hp
        simpa using .inl (List.mem_singleton.mp hc)
      | cons q qs =>
        rw [hsplit] at hp
        rcases List.mem_cons.mp hp with rfl | hp
        · rcases List.mem_cons.mp hc with rfl | hc
          · exact List.mem_cons_self
          · exact List.mem_cons_of_mem _ (mem_of_mem_splitAt (hsplit ▸ List.mem_cons_self) hc)
        · exact List.mem_cons_of_mem _
            (mem_of_mem_splitAt (hsplit ▸ List.mem_cons_of_mem _ hp) hc)

theorem wellNested_tableRows {content : String} (h : Plain content.toList) :
    ∀ row ∈ tableRows content, WellNested row.toList := by
  have hrows : ∀ row ∈ (Text.splitAt '\n' content.toList).map tableRow,
      WellNested row.toList := by
    intro row hrow
    obtain ⟨line, hline, rfl⟩ := List.mem_map.mp hrow
    exact wellNested_tableRow fun c hc => h c (mem_of_mem_splitAt hline hc)
  unfold tableRows
  split
  · rename_i first second rest hsplit
    rw [hsplit] at hrows
    intro row hrow
    simp only [List.mem_cons] at hrow hrows
    rcases hrow with rfl | rfl | hrow
    · exact hrows _ (.inl rfl)
    · have hsecond := hrows second (.inr (.inl rfl))
      have hrule := ((WellNested.single (c := '\n') (by decide)).append hsecond).word
        (w := "hline".toList) (by decide) (by decide)
      simpa using hrule
    · exact hrows _ (.inr (.inr hrow))
  · exact hrows

theorem wellNested_table {content alignment : String} {d : Directive}
    (hcontent : Plain content.toList) (halignment : Plain alignment.toList)
    (hlabel : Plain (d.label.getD "").toList) (hcaption : Plain (d.caption.getD "").toList) :
    WellNested (table content alignment d).toList := by
  have hbody : WellNested ("\\\\".intercalate (tableRows content)).toList := by
    rw [String.toList_intercalate]
    refine .intercalate (.symbol (by decide)) fun row hrow => ?_
    obtain ⟨text, htext, rfl⟩ := List.mem_map.mp hrow
    exact wellNested_tableRows hcontent text htext
  have hinner : Plain "tabular".toList := by decide
  have houter : Plain "table".toList := by decide
  have hmark : Plain "tab".toList := by decide
  have htabular := ((WellNested.of_plain halignment).group.append hbody).environment hinner
  have hinside := htabular.append (wellNested_labelAndCaption hmark hlabel hcaption)
  rw [toList_command "begin"] at hinside
  have hcentered := hinside.word (w := "centering".toList) (by decide) (by decide)
  have htable := hcentered.environment houter
  simpa [table, command] using htable

theorem wellNested_codeBlock {content s : String} {language : Option String} {d : Directive}
    (hcontent : Plain content.toList) (hlabel : Plain (d.label.getD "").toList)
    (hcaption : Plain (d.caption.getD "").toList) (halignment : Plain (d.alignment.getD "").toList)
    (h : (codeBlock language content d).outcome = .ok s) : WellNested s.toList := by
  unfold codeBlock at h
  dsimp only at h
  split_ifs at h
  · obtain rfl := Except.ok.inj h
    exact wellNested_figure hcontent hlabel hcaption
  · cases h
  · obtain rfl := Except.ok.inj h
    exact wellNested_table hcontent halignment hlabel hcaption
  · obtain rfl := Except.ok.inj h
    exact .empty
  · cases h

/-- The width of pictures is a text without backslashes and braces, or the one that is set by
default. -/
def PlainWidth (o : RendererOptions) : Prop :=
  o.imageWidth = ({} : RendererOptions).imageWidth ∨ Plain o.imageWidth.text.toList

theorem wellNested_width (h : PlainWidth o) :
    WellNested (o.imageWidth.text.toList ++ [']']) := by
  have hbracket : WellNested [']'] := .single (by decide)
  rcases h with h | h
  · rw [h]
    have hnumber : WellNested "0.25".toList := .of_plain (by decide)
    exact hnumber.append (hbracket.word (w := "linewidth".toList) (by decide) (by decide))
  · exact (WellNested.of_plain h).append hbracket

theorem wellNested_picture {url altText : String} (hwidth : PlainWidth o)
    (hurl : Plain url.toList) (halt : Plain altText.toList) :
    WellNested (picture o.imageWidth url altText).toList := by
  have hbreak : WellNested ['\n'] := .single (by decide)
  have hcaption : WellNested
      (if altText.isEmpty then "" else command "caption" altText ++ "\n").toList := by
    split_ifs
    · exact .empty
    · rw [String.toList_append]
      exact ((WellNested.of_plain halt).command (by decide)).append hbreak
  have hsize : WellNested ('[' :: "width=".toList ++ (o.imageWidth.text.toList ++ [']'])) :=
    (WellNested.of_plain (by decide)).append (wellNested_width hwidth)
  have hgraphics := (hsize.append (WellNested.of_plain hurl).group).word
    (w := "includegraphics".toList) (by decide) (by decide)
  have hcentering := (hbreak.append hgraphics).word (w := "centering".toList) (by decide)
    (by decide)
  have hinside := ((hbreak.append hcentering).append hbreak).append hcaption
  have hname : Plain "figure".toList := by decide
  have hfigure := (hinside.environment hname).append hbreak
  simpa [picture] using hfigure

theorem wellNested_image {url altText s : String} (hwidth : PlainWidth o)
    (hurl : Plain url.toList) (halt : Plain altText.toList)
    (h : (image o url altText).outcome = .ok s) : WellNested s.toList := by
  unfold image at h
  dsimp only at h
  split_ifs at h
  · obtain rfl := Except.ok.inj h
    exact .empty
  · obtain rfl := Except.ok.inj h
    exact wellNested_picture hwidth hurl halt
  · split at h
    · obtain rfl := Except.ok.inj h
      exact .empty
    · cases h

/-! ### The page -/

theorem bind_ok_iff {α β : Type} {x : Writing α} {f : α → Writing β} {p r : Page} {b : β} :
    (x >>= f) p = .ok b r ↔ ∃ a q, x p = .ok a q ∧ f a q = .ok b r := by
  cases hx : x p with
  | ok a q =>
    rw [bind_of_ok hx]
    constructor
    · intro h
      exact ⟨a, q, rfl, h⟩
    · rintro ⟨a', q', heq, h⟩
      cases heq
      exact h
  | error e q =>
    rw [bind_of_error hx]
    simp

theorem gather_ok {p q : Page} {s : String} (h : gather p = .ok s q) :
    Writing.joinPieces p.output = some s ∧ q = p := by
  cases hj : Writing.joinPieces p.output with
  | some t =>
    rw [gather_of_joinPieces hj] at h
    cases h
    exact ⟨rfl, rfl⟩
  | none =>
    have hp : (get : Writing Page) p = .ok p p := rfl
    unfold gather at h
    rw [bind_of_ok hp] at h
    simp only [hj] at h
    cases h

theorem joinPieces_append_eq_some {newer older : List Value} {s : String}
    (h : joinPieces (newer ++ older) = some s) : ∃ u t, joinPieces older = some u ∧
      joinPieces newer = some t ∧ s = u ++ t := by
  induction newer generalizing s with
  | nil => exact ⟨s, "", h, rfl, by simp⟩
  | cons v newer ih =>
    cases v with
    | str x =>
      obtain ⟨y, hy, rfl⟩ := Option.map_eq_some_iff.mp h
      obtain ⟨u, t, hu, ht, rfl⟩ := ih hy
      exact ⟨u, t ++ x, hu, by simp [joinPieces, ht], by rw [String.append_assoc]⟩
    | _ => cases h

/-- **A step adds a kind of texts**: if it succeeds, it only puts pieces in front of the output, and
pieces that can be put together make a text of the kind. -/
def Adds (kind : List Char → Prop) (step : Writing Unit) : Prop :=
  ∀ p q, step p = .ok () q → ∃ pieces, q.output = pieces ++ p.output ∧
    ∀ s, joinPieces pieces = some s → kind s.toList

namespace Adds

variable {kind first second : List Char → Prop} {step next : Writing Unit}

theorem nothing : Adds WellNested (pure ()) := by
  intro p q hq
  cases hq
  refine ⟨[], rfl, fun s hs => ?_⟩
  obtain rfl : "" = s := Option.some.inj hs
  exact .empty

theorem failure (e : Failure) : Adds kind (throw e) := by
  intro p q hq
  cases hq

theorem piece {v : Value} (h : ∀ s : String, v = .str s → kind s.toList) : Adds kind (emit v) := by
  intro p q hq
  cases hq
  refine ⟨[v], rfl, fun s hs => ?_⟩
  cases v with
  | str u =>
    obtain rfl : u = s := by simpa [joinPieces] using hs
    exact h u rfl
  | _ => cases hs

theorem text {s : String} (h : kind s.toList) : Adds kind (emitText s) :=
  piece fun t ht => by
    obtain rfl := Value.str.inj ht
    exact h

theorem seq (h : Adds first step) (hnext : Adds second next)
    (happend : ∀ {s t}, first s → second t → kind (s ++ t)) :
    Adds kind (step >>= fun _ => next) := by
  intro p r hr
  obtain ⟨_, q, hq, hr⟩ := bind_ok_iff.mp hr
  obtain ⟨older, hq, hfirst⟩ := h p q hq
  obtain ⟨newer, hr, hsecond⟩ := hnext q r hr
  refine ⟨newer ++ older, by rw [hr, hq, List.append_assoc], fun s hs => ?_⟩
  obtain ⟨u, t, hu, ht, rfl⟩ := joinPieces_append_eq_some hs
  rw [String.toList_append]
  exact happend (hfirst u hu) (hsecond t ht)

/-- A run whose text is written as one piece. -/
theorem ofRun {r : Run String} (h : ∀ s, r.outcome = .ok s → kind s.toList) :
    Adds kind (do emitText (← Writing.ofRun r)) := by
  intro p q hq
  obtain ⟨s, p', hs, hq⟩ := bind_ok_iff.mp hq
  unfold Writing.ofRun at hs
  cases hr : r.outcome with
  | error e => simp [hr] at hs
  | ok t =>
    simp only [hr] at hs
    obtain ⟨rfl, rfl⟩ := EStateM.Result.ok.inj hs
    exact text (h t hr) { p with log := p.log ++ r.log } q hq

theorem record (x : Record) : Adds WellNested (Writing.ofRun (Run.write x)) := by
  intro p q hq
  cases hq
  refine ⟨[], rfl, fun s hs => ?_⟩
  obtain rfl : "" = s := Option.some.inj hs
  exact .empty

/-- What a step adds to an empty output is all that is gathered there. -/
theorem gathered (h : Adds kind step) {p q : Page} {s : String} (hp : p.output = [])
    (hs : (do step; gather : Writing String) p = .ok s q) : kind s.toList := by
  obtain ⟨_, inner, hinner, hgather⟩ := bind_ok_iff.mp hs
  obtain ⟨pieces, hpieces, hkind⟩ := h p inner hinner
  rw [hp, List.append_nil] at hpieces
  exact hkind s (hpieces ▸ (gather_ok hgather).1)

/-- What a step adds while the output is put aside comes back as one text. -/
theorem captured (h : Adds first step) {f : String → String}
    (hf : ∀ s : String, first s.toList → kind (f s).toList) :
    Adds kind (do let s ← capture step; emitText (f s)) := by
  intro p r hr
  obtain ⟨s, q, hs, hr⟩ := bind_ok_iff.mp hr
  unfold capture at hs
  cases hrun : (do step; gather : Writing String) { p with output := [] } with
  | error e p' =>
    rw [hrun] at hs
    cases hs
  | ok t p' =>
    rw [hrun] at hs
    obtain ⟨rfl, rfl⟩ := EStateM.Result.ok.inj hs
    have htext : first t.toList := h.gathered rfl hrun
    exact text (hf t htext) { p' with output := p.output } r hr

/-- A loop over a list adds well nested texts if the step of each element does. -/
theorem each {α : Type} {f : α → Writing Unit} {loop : List α → Writing Unit}
    (nil : loop [] = pure ()) (cons : ∀ a as, loop (a :: as) = f a >>= fun _ => loop as) :
    ∀ {l : List α}, (∀ a ∈ l, Adds WellNested (f a)) → Adds WellNested (loop l)
  | [], _ => by
    rw [nil]
    exact nothing
  | a :: as, h => by
    rw [cons]
    exact (h a (by simp)).seq (each nil cons fun b hb => h b (by simp [hb])) WellNested.append

end Adds

/-! ### Rendering -/

/-- The separator of blocks, if it is a text, has no backslashes and braces. -/
def PlainSeparator (o : RendererOptions) : Prop :=
  ∀ s : String, o.blockSeparator = .str s → Plain s.toList

theorem visitChild_adds {n : Node} (h : Adds WellNested (visit o n)) :
    Adds WellNested (visitChild o n) := by
  cases n with
  | foreign v =>
    rw [visitChild]
    exact .failure _
  | _ => simpa only [visitChild] using h

theorem separate_adds (hsep : PlainSeparator o) : Adds WellNested (separate o) := by
  unfold separate
  split_ifs
  · exact .piece fun s hs => .of_plain (hsep s hs)
  · exact .nothing

section Loops

variable {cs : List Node} (h : ∀ c ∈ cs, Adds WellNested (visit o c))

include h

theorem visitChildren_adds : Adds WellNested (visitChildren o cs) :=
  .each (by rw [visitChildren]) (fun _ _ => by rw [visitChildren]) fun c hc =>
    visitChild_adds (h c hc)

theorem visitInline_adds : Adds WellNested (visitInline o cs) :=
  .each (by rw [visitInline]) (fun _ _ => by rw [visitInline]) h

theorem visitItems_adds : Adds WellNested (visitItems o cs) := by
  refine .each (f := fun c => do let s ← capture (visit o c); emitText (command "item" s ++ "\n"))
    (by rw [visitItems]) (fun c ns => ?_) fun c hc => (h c hc).captured fun s hs => ?_
  · rw [visitItems, bind_assoc]
  · rw [String.toList_append]
    exact (hs.command (by decide)).append (.single (by decide))

theorem visitBlocks_adds (hsep : PlainSeparator o) : Adds WellNested (visitBlocks o true cs) := by
  cases cs with
  | nil =>
    rw [visitBlocks]
    exact .nothing
  | cons c cs =>
    rw [visitBlocks_first]
    refine (visitChild_adds (h c (by simp))).seq ?_ WellNested.append
    refine .each (by rw [visitBlocks]) visitBlocks_later fun d hd => ?_
    exact (separate_adds hsep).seq (visitChild_adds (h d (by simp [hd]))) WellNested.append

end Loops

/-- Nodes without parts. -/
theorem leaf_adds (hwidth : PlainWidth o) {n : Node} (hleaf : assemble? "" n = none)
    (hn : PlainTexts o n) : Adds WellNested (visit o n) := by
  cases n with
  | document | paragraph | heading | list | listItem | link => simp [assemble?] at hleaf
  | codeBlock content language d m =>
    obtain ⟨hcontent, hlabel, hcaption, halignment⟩ := hn
    rw [visit]
    exact .ofRun fun s => wellNested_codeBlock hcontent hlabel hcaption halignment
  | image url alt t m =>
    rw [visit]
    exact .ofRun fun s => wellNested_image hwidth hn.1 hn.2
  | code content m =>
    rw [visit]
    exact .ofRun fun s => wellNested_verb hn
  | mathBlock content m =>
    have htext := ((WellNested.symbol (c := '[') (by decide)).append
      (WellNested.of_plain (s := ' ' :: (content.toList ++ [' '])) ?_)).append
        (.symbol (c := ']') (by decide))
    · rw [visit]
      exact .text (by simpa using htext)
    · intro c hc
      simp only [List.mem_cons, List.mem_append, List.not_mem_nil, or_false] at hc
      rcases hc with rfl | hc | rfl
      · decide
      · exact hn c hc
      · decide
  | mathInline content m =>
    have hsign : WellNested ['$'] := .single (by decide)
    rw [visit]
    exact .text (by simpa using (hsign.append (.of_plain hn)).append hsign)
  | text content m =>
    rw [visit]
    exact .text (wellNested_plainText hn)
  | htmlBlock content m =>
    rw [visit]
    exact .record _
  | htmlInline content m =>
    rw [visit]
    exact .nothing
  | _ =>
    simp only [visit]
    exact .failure _

/-- **The step of the invariant**: rendering a node adds a well nested text if rendering each of its
parts does. -/
theorem visit_adds_of_parts (hsep : PlainSeparator o) (hwidth : PlainWidth o) {n : Node}
    (hn : PlainTexts o n) (h : ∀ c ∈ n.parts, Adds WellNested (visit o c)) :
    Adds WellNested (visit o n) := by
  cases n with
  | document cs m =>
    rw [visit]
    exact visitBlocks_adds h hsep
  | paragraph cs m =>
    rw [visit]
    exact visitChildren_adds h
  | listItem cs t m =>
    rw [visit]
    exact visitChildren_adds h
  | heading level cs m =>
    rw [visit]
    refine (visitInline_adds h).captured fun s hs => hs.command ?_
    split_ifs <;> decide
  | link url cs t m =>
    rw [visit]
    refine (visitInline_adds h).captured fun s hs => ?_
    have hurl : WellNested (command "href" url).toList :=
      (WellNested.of_plain hn).command (by decide)
    simpa using hurl.append hs.group
  | list ordered items s t m =>
    rw [visit]
    have hname : Plain (if ordered then "enumerate" else "itemize").toList := by
      split_ifs <;> decide
    generalize (if ordered then "enumerate" else "itemize") = name at hname
    have hbegin : Adds (· = (command "begin" name).toList) (emitText (command "begin" name)) :=
      .text rfl
    have hend : Adds (· = (command "end" name).toList) (emitText (command "end" name)) := .text rfl
    -- the beginning of the environment is well nested only with its end
    have hrest : Adds (fun s => ∃ u, WellNested u ∧ s = u ++ (command "end" name).toList)
        (visitItems o items >>= fun _ => emitText (command "end" name)) :=
      (visitItems_adds h).seq hend fun hu ht => ⟨_, hu, by rw [ht]⟩
    refine hbegin.seq hrest ?_
    rintro _ _ rfl ⟨u, hu, rfl⟩
    rw [← List.append_assoc]
    exact hu.environment hname
  | _ => exact leaf_adds hwidth rfl hn

theorem visit_adds (hsep : PlainSeparator o) (hwidth : PlainWidth o) (n : Node)
    (hn : ∀ m, n.Reaches m → PlainTexts o m) : Adds WellNested (visit o n) := by
  induction n using Node.parts_induction with
  | step n ih =>
    obtain ⟨hself, hparts⟩ := Node.forall_reaches_iff.mp hn
    exact visit_adds_of_parts hsep hwidth hself fun c hc => ih c hc (hparts c hc)

/-- **Rendered text is well nested.** Where the texts that a tree and the options give to the output
as they are hold no backslash and no brace, the tree is rendered to a text whose unescaped braces
and whose environments are nested, every end closing a beginning of the same environment; and the
text stays so before any other. -/
theorem render_wellNested (hsep : PlainSeparator o) (hwidth : PlainWidth o) {n : Node}
    (hn : ∀ m, n.Reaches m → PlainTexts o m) {s : String} (h : (render o n).outcome = .ok s) :
    WellNested s.toList := by
  have hadds := visitChild_adds (visit_adds hsep hwidth n hn)
  unfold render Renderer.render at h
  dsimp only at h
  split at h
  · rename_i t p hrun
    obtain rfl := Except.ok.inj h
    exact hadds.gathered rfl hrun
  · cases h

/-- A list whose item holds a text full of delimiters, and a table. -/
def listAndTable : Node :=
  .document [.list true [.listItem [.link "u" [.text "\x7d\\begin\x7bx" []] none []] none []] 1
      true [],
    .codeBlock "a,b\n1&2,3" (some "csv") { alignment := some "lr" } []] []

set_option maxRecDepth 2000 in
/-- What was given to the text of the item is escaped, and the row breaks of the table stand before
its cells. -/
theorem render_wellNested_list_and_table :
    let o : RendererOptions := { escapeSpecial := .bool true, blockSeparator := .str "\n" }
    let text := "\\begin\x7benumerate\x7d\\item\x7b\\href\x7bu\x7d\x7b"
      ++ "\\\x7d\\textbackslash\x7b\x7dbegin\\\x7bx\x7d\x7d\n\\end\x7benumerate\x7d\n"
      ++ "\\begin\x7btable\x7d\\centering\\begin\x7btabular\x7d\x7blr\x7d"
      ++ "a&b\\\\\\hline\n1\\&2&3\\end\x7btabular\x7d\\end\x7btable\x7d"
    PlainSeparator o ∧ PlainWidth o ∧ (∀ m, listAndTable.Reaches m → PlainTexts o m) ∧
      (render o listAndTable).outcome = .ok text ∧ WellNested text.toList := by
  intro o text
  have hrender : (render o listAndTable).outcome = .ok text := by
    have hall : listAndTable.AllNodes := by decide +kernel
    have htext : meaning o "\n" (.text "\x7d\\begin\x7bx" []) =
        pure "\\\x7d\\textbackslash\x7b\x7dbegin\\\x7bx" := meaning_of_none rfl
    have htable : meaning o "\n"
        (.codeBlock "a,b\n1&2,3" (some "csv") { alignment := some "lr" } []) =
          pure ("\\begin\x7btable\x7d\\centering\\begin\x7btabular\x7d\x7blr\x7d"
            ++ "a&b\\\\\\hline\n1\\&2&3\\end\x7btabular\x7d\\end\x7btable\x7d") :=
      meaning_of_none rfl
    have hlink := @meaning_of_some o "\n" (.link "u" [.text "\x7d\\begin\x7bx" []] none []) _ rfl
    simp only [Node.parts, List.mapM_cons, List.mapM_nil, htext, pure_bind, map_pure] at hlink
    rw [render_eq_meaning rfl _ hall]
    simp only [listAndTable, @meaning_of_some o "\n" (.document _ _) _ rfl,
      @meaning_of_some o "\n" (.list _ _ _ _ _) _ rfl,
      @meaning_of_some o "\n" (.listItem _ _ _) _ rfl, Node.parts, List.mapM_cons, List.mapM_nil,
      hlink, htable, pure_bind, map_pure]
    rfl
  have hseparator : PlainSeparator o := by
    intro t ht
    obtain rfl : "\n" = t := by simpa [o] using ht
    decide
  have htexts : ∀ m, listAndTable.Reaches m → PlainTexts o m := by
    have hlink : ∀ m, (Node.link "u" [.text "\x7d\\begin\x7bx" []] none []).Reaches m →
        PlainTexts o m := by
      refine Node.forall_reaches_iff.mpr ⟨show Plain _ by decide, ?_⟩
      simp only [Node.parts, List.forall_mem_singleton]
      exact Node.forall_reaches_iff.mpr ⟨.inl rfl, by simp [Node.parts]⟩
    have htable : ∀ m, (Node.codeBlock "a,b\n1&2,3" (some "csv") { alignment := some "lr" }
        []).Reaches m → PlainTexts o m :=
      Node.forall_reaches_iff.mpr
        ⟨⟨by decide, by decide, by decide, by decide⟩, by simp [Node.parts]⟩
    refine Node.forall_reaches_iff.mpr ⟨trivial, ?_⟩
    simp only [listAndTable, Node.parts, List.forall_mem_cons]
    refine ⟨Node.forall_reaches_iff.mpr ⟨trivial, ?_⟩, htable, by simp⟩
    simp only [Node.parts, List.forall_mem_singleton]
    refine Node.forall_reaches_iff.mpr ⟨trivial, ?_⟩
    simpa only [Node.parts, List.forall_mem_singleton] using hlink
  exact ⟨hseparator, .inl rfl, htexts, hrender,
    render_wellNested hseparator (.inl rfl) htexts hrender⟩

end Manuscript.Latex
