import Manuscript.Proofs.Template.Cut
import Manuscript.Template.Fill
import Mathlib.Data.List.Forall2

/-!
Filling is one pass over the cut of a template (`fill_single_pass`): the cut is settled by the
template alone, each segment becomes a text of its own, and what is inserted is not looked at again.
-/

namespace Manuscript.Template

variable {body : String} {metadata : Entries} {strict : Bool}

/-- **What a segment becomes.** A literal stays; the body stands for its placeholder whatever the
metadata say; any other name becomes the text of its value, or stays as it is written where it has
none. -/
inductive Becomes (body : String) (metadata : Entries) : Segment → String → Prop where
  | literal (text : List Char) : Becomes body metadata (.literal text) (String.ofList text)
  | body : Becomes body metadata (.placeholder "body".toList) body
  | value {name : List Char} {v : Value} {s : String} (hname : String.ofList name ≠ "body")
      (hv : Value.field? (String.ofList name) metadata = some v)
      (hs : fieldText (String.ofList name) v = .ok s) :
      Becomes body metadata (.placeholder name) s
  | undefined {name : List Char} (hname : String.ofList name ≠ "body")
      (hv : Value.field? (String.ofList name) metadata = none) :
      Becomes body metadata (.placeholder name) ("%" ++ String.ofList name ++ "%")

theorem becomes_of_fillSegment {s : Segment} {t : String} {names : List String}
    (h : fillSegment body metadata strict s = .ok (t, names)) : Becomes body metadata s t := by
  cases s with
  | literal text =>
    obtain ⟨rfl, -⟩ := Prod.mk.inj (Except.ok.inj h)
    exact .literal text
  | placeholder name =>
    by_cases hname : String.ofList name = bodyName
    · obtain rfl : name = "body".toList := by
        rw [← String.toList_ofList (l := name), hname]
        rfl
      simp only [fillSegment, hname, if_true] at h
      obtain ⟨rfl, -⟩ := Prod.mk.inj (Except.ok.inj h)
      exact .body
    simp only [fillSegment, hname, if_false] at h
    cases hv : Value.field? (String.ofList name) metadata with
    | some v =>
      simp only [hv] at h
      cases hs : fieldText (String.ofList name) v with
      | error e => simp [hs, Except.map] at h
      | ok u =>
        obtain ⟨rfl, -⟩ : u = t ∧ [] = names := by simpa [hs, Except.map] using h
        exact .value hname hv hs
    | none =>
      cases strict with
      | true => simp [hv] at h
      | false =>
        obtain ⟨rfl, -⟩ : "%" ++ String.ofList name ++ "%" = t ∧ _ = names := by simpa [hv] using h
        exact .undefined hname hv

/-! ### Lists of segments -/

theorem fillSegments_cons_ok_iff {s : Segment} {l : List Segment} {text : String}
    {names : List String} : fillSegments body metadata strict (s :: l) = .ok (text, names) ↔
      ∃ t ns u ms, fillSegment body metadata strict s = .ok (t, ns) ∧
        fillSegments body metadata strict l = .ok (u, ms) ∧ t ++ u = text ∧ ns ++ ms = names := by
  rw [fillSegments]
  cases hs : fillSegment body metadata strict s with
  | error e => simp [bind, Except.bind]
  | ok p =>
    cases hl : fillSegments body metadata strict l with
    | error e => simp [bind, Except.bind]
    | ok q =>
      obtain ⟨t, ns⟩ := p
      obtain ⟨u, ms⟩ := q
      simp [bind, Except.bind, pure, Except.pure]

theorem fillSegments_literal (text : List Char) (l : List Segment) :
    fillSegments body metadata strict (.literal text :: l) =
      (fillSegments body metadata strict l).map fun p => (String.ofList text ++ p.1, p.2) := by
  rw [fillSegments]
  cases fillSegments body metadata strict l <;> rfl

/-- The empty literals of a cut, and the joining of others, make no difference. -/
theorem fillSegments_ofSegments (l : List Segment) :
    fillSegments body metadata strict (Cut.ofSegments l).segments =
      fillSegments body metadata strict l := by
  induction l with
  | nil => rfl
  | cons s l ih =>
    rw [Cut.segments, fillSegments_literal] at ih
    cases s with
    | literal text =>
      have hlater : (Cut.ofSegments (.literal text :: l)).later = (Cut.ofSegments l).later := rfl
      rw [fillSegments_literal, ← ih, Cut.segments, fillSegments_literal, hlater, Cut.ofSegments,
        String.ofList_append]
      cases fillSegments body metadata strict (Cut.ofSegments l).later <;>
        simp [Except.map, String.append_assoc]
    | placeholder name =>
      rw [Cut.ofSegments, Cut.segments_consName, fillSegments_literal, fillSegments, Cut.segments,
        fillSegments_literal, ih, ← fillSegments]
      cases fillSegments body metadata strict (.placeholder name :: l) <;> simp [Except.map]

theorem forall₂_becomes_of_fillSegments : ∀ {l : List Segment} {text : String}
    {names : List String}, fillSegments body metadata strict l = .ok (text, names) →
      ∃ texts, List.Forall₂ (Becomes body metadata) l texts ∧ text = String.join texts
  | [], text, names, h => by
    obtain ⟨rfl, -⟩ := Prod.mk.inj (Except.ok.inj h)
    exact ⟨[], .nil, rfl⟩
  | s :: l, text, names, h => by
    obtain ⟨t, ns, u, ms, hs, hl, rfl, -⟩ := fillSegments_cons_ok_iff.mp h
    obtain ⟨texts, htexts, rfl⟩ := forall₂_becomes_of_fillSegments hl
    exact ⟨t :: texts, .cons (becomes_of_fillSegment hs) htexts, String.join_cons.symm⟩

theorem fillSegments_of_sources : ∀ {l : List Segment},
    (∀ s ∈ l, fillSegment body metadata strict s = .ok (String.ofList s.source, [])) →
      fillSegments body metadata strict l = .ok (String.ofList (Cut.written l), [])
  | [], _ => rfl
  | s :: l, h => by
    have hs := h s (by simp)
    have hl := fillSegments_of_sources fun t ht => h t (List.mem_cons_of_mem _ ht)
    refine fillSegments_cons_ok_iff.mpr ⟨_, _, _, _, hs, hl, ?_, rfl⟩
    rw [← String.ofList_append]
    rfl

/-! ### Whole templates -/

theorem fill_outcome (template body : String) (metadata : Entries) (strict : Bool) :
    (fill template body metadata strict).outcome =
      (fillSegments body metadata strict (Cut.ofSegments (segments template.toList)).segments).map
        Prod.fst := by
  rw [fillSegments_ofSegments]
  unfold fill
  cases fillSegments body metadata strict (segments template.toList) <;> rfl

/-- **Filling is a single pass.** A template has one cut, settled by the template alone. Whatever
the body and the metadata, a filled template is what the segments of the cut become, in order; and
with every placeholder as its own value the template comes back. -/
theorem fill_single_pass (template : String) :
    ∃ a : Cut, a.Of template.toList ∧ (∀ b : Cut, b.Of template.toList → b = a) ∧
      (∀ body metadata strict text, (fill template body metadata strict).outcome = .ok text →
        ∃ texts, List.Forall₂ (Becomes body metadata) a.segments texts ∧
          text = String.join texts) ∧
      ∀ metadata strict,
        (∀ name, .placeholder name ∈ a.segments → String.ofList name ≠ "body" →
          Value.field? (String.ofList name) metadata =
            some (.str ("%" ++ String.ofList name ++ "%"))) →
        (fill template "%body%" metadata strict).outcome = .ok template := by
  have hof := Cut.cut_of_segments template.toList
  refine ⟨Cut.ofSegments (segments template.toList), hof, fun b hb => hb.unique hof,
    fun body metadata strict text h => ?_, fun metadata strict hself => ?_⟩
  · rw [fill_outcome] at h
    cases hf : fillSegments body metadata strict
        (Cut.ofSegments (segments template.toList)).segments with
    | error e => simp [hf, Except.map] at h
    | ok p =>
      obtain rfl : p.1 = text := by simpa [hf, Except.map] using h
      exact forall₂_becomes_of_fillSegments hf
  · have hsources : ∀ s ∈ (Cut.ofSegments (segments template.toList)).segments,
        fillSegment "%body%" metadata strict s = .ok (String.ofList s.source, []) := by
      intro s hs
      cases s with
      | literal text => rfl
      | placeholder name =>
        have hsource : String.ofList (Segment.placeholder name).source =
            "%" ++ String.ofList name ++ "%" := by
          simp [Segment.source, String.ofList_cons, String.ofList_append, String.append_assoc]
        rw [hsource]
        by_cases hname : String.ofList name = "body"
        · simp only [fillSegment, hname, bodyName, if_true]
          rfl
        · simp only [fillSegment, hname, bodyName, if_false, hself name hs hname, fieldText]
          rfl
    rw [fill_outcome, fillSegments_of_sources hsources, hof.source]
    simp [Except.map]

end Manuscript.Template
