import Manuscript.Proofs.Outcome
import Manuscript.Proofs.Template.Substitution
import Mathlib.Data.List.Induction

/-!
# Names without a text

Whether a template can be filled is told by the names of its placeholders alone. A name other than
the body's is `Missing` when the metadata do not hold it, and `Rejected` when its value has no text.

* `placeholders_of_cut`: the names listed for a template are those of its cut, each where it first
  appears;
* `fillSegments_error_iff`, `unresolved_of_fillSegments`: filling meets the names in that order, so
  it fails at the first bad one and leaves behind the missing ones;
* `fill_settled_by_placeholders`: the two modes of filling, in terms of the list of names.
-/

namespace Manuscript.Template

variable {body : String} {metadata : Entries} {strict : Bool}

/-- A name that the metadata do not hold. -/
def Missing (metadata : Entries) (name : String) : Prop :=
  name ≠ bodyName ∧ Value.field? name metadata = none

instance : DecidablePred (Missing metadata) := fun _ => inferInstanceAs (Decidable (_ ∧ _))

/-- A name whose value has no text. -/
def Rejected (metadata : Entries) (name : String) : Prop :=
  name ≠ bodyName ∧ ∃ v e, Value.field? name metadata = some v ∧ fieldText name v = .error e

/-- A name that a strict filling cannot replace. -/
def Bad (metadata : Entries) (name : String) : Prop :=
  Missing metadata name ∨ Rejected metadata name

/-! ### First occurrences -/

section Distinct

variable {α : Type}

/-- A name that has been seen is not listed again. -/
theorem distinct_concat (names : List String) (n : String) :
    distinct (names ++ [n]) =
      if n ∈ distinct names then distinct names else distinct names ++ [n] := by
  simp only [distinct, List.foldl_append, List.foldl_cons, List.foldl_nil, List.contains_iff_mem]

theorem mem_distinct {names : List String} {n : String} : n ∈ distinct names ↔ n ∈ names := by
  induction names using List.reverseRecOn with
  | nil => rfl
  | append_singleton names m ih =>
    rw [distinct_concat]
    by_cases hm : m ∈ distinct names
    · rw [if_pos hm, List.mem_append, ih, List.mem_singleton]
      constructor
      · exact .inl
      · rintro (h | rfl)
        · exact h
        · exact ih.mp hm
    · rw [if_neg hm, List.mem_append, List.mem_append, ih]

theorem nodup_distinct (names : List String) : (distinct names).Nodup := by
  induction names using List.reverseRecOn with
  | nil => exact List.nodup_nil
  | append_singleton names m ih =>
    rw [distinct_concat]
    by_cases hm : m ∈ distinct names
    · rwa [if_pos hm]
    · rw [if_neg hm]
      refine List.nodup_append.mpr ⟨ih, List.pairwise_singleton _ m, fun a ha b hb hab => hm ?_⟩
      rwa [← List.mem_singleton.mp hb, ← hab]

theorem filter_distinct (p : String → Bool) (names : List String) :
    (distinct names).filter p = distinct (names.filter p) := by
  induction names using List.reverseRecOn with
  | nil => rfl
  | append_singleton names m ih =>
    rw [distinct_concat, List.filter_append]
    by_cases hp : p m = true
    · -- a name that passes is seen among all names iff it is seen among those that pass
      have hseen : m ∈ distinct (names.filter p) ↔ m ∈ distinct names := by
        rw [mem_distinct, mem_distinct, List.mem_filter]
        exact and_iff_left hp
      have hone : [m].filter p = [m] := by simp [hp]
      rw [hone, distinct_concat]
      by_cases hm : m ∈ distinct names
      · rw [if_pos hm, if_pos (hseen.mpr hm), ih]
      · rw [if_neg hm, if_neg fun h => hm (hseen.mp h), List.filter_append, ih, hone]
    · have hone : [m].filter p = [] := by simp [hp]
      rw [hone, List.append_nil]
      by_cases hm : m ∈ distinct names
      · rw [if_pos hm, ih]
      · rw [if_neg hm, List.filter_append, ih, hone, List.append_nil]

/-- Seeing a name twice does not change which one is the first to give something. -/
theorem findSome?_distinct (f : String → Option α) (names : List String) :
    (distinct names).findSome? f = names.findSome? f := by
  induction names using List.reverseRecOn with
  | nil => rfl
  | append_singleton names m ih =>
    rw [distinct_concat, List.findSome?_append]
    by_cases hm : m ∈ distinct names
    · rw [if_pos hm, ih]
      cases hf : names.findSome? f with
      | some a => rfl
      | none =>
        have hnone := List.findSome?_eq_none_iff.mp hf m (mem_distinct.mp hm)
        simp [hnone]
    · rw [if_neg hm, List.findSome?_append, ih]

end Distinct

/-! ### The names of a template -/

def namesOf (l : List Segment) : List String := l.filterMap Segment.name?

theorem names_ofSegments (l : List Segment) :
    (Cut.ofSegments l).rest.map (fun p => String.ofList p.1) = namesOf l := by
  induction l with
  | nil => rfl
  | cons s l ih =>
    cases s with
    | literal text => exact ih
    | placeholder name => exact congrArg (String.ofList name :: ·) ih

/-- **The names listed for a template are those of its cut**, each where it first appears. -/
theorem placeholders_of_cut {template : String} {a : Cut} (h : a.Of template.toList) :
    placeholders template = distinct (a.rest.map fun p => String.ofList p.1) := by
  rw [h.unique (Cut.cut_of_segments template.toList), names_ofSegments]
  rfl

/-! ### What a name comes to -/

mutual

/-- A value that has no text is refused for the mapping in it. -/
theorem fieldText_error {name : String} {e : Failure} : ∀ {v : Value},
    fieldText name v = .error e → e = .fault (.template (.mappingField name))
  | .map _, h => (Except.error.inj h).symm
  | .list items, h | .tuple items, h => by
    rw [fieldText] at h
    exact fieldTexts_error (Outcome.map_eq_error_iff.mp h)
  | .null, h | .bool _, h | .int _, h | .float _, h | .str _, h | .bytes _, h | .date _, h
  | .time _, h | .datetime _ _, h | .set _, h | .type _, h => by cases h

theorem fieldTexts_error {name : String} {e : Failure} : ∀ {vs : List Value},
    fieldTexts name vs = .error e → e = .fault (.template (.mappingField name))
  | [], h => by cases h
  | v :: vs, h => by
    rw [fieldTexts] at h
    rcases Outcome.bind_eq_error_iff.mp h with hv | ⟨s, -, h⟩
    · exact fieldText_error hv
    rcases Outcome.bind_eq_error_iff.mp h with hvs | ⟨texts, -, h⟩
    · exact fieldTexts_error hvs
    · cases h

end

/-- Why a name cannot be replaced, if it cannot. -/
def flaw? (metadata : Entries) (strict : Bool) (name : String) : Option Failure :=
  if name = bodyName then none
  else match Value.field? name metadata with
    | some v => match fieldText name v with
      | .ok _ => none
      | .error e => some e
    | none => if strict then some (.fault (.unresolvedField name)) else none

theorem flaw?_eq_some_iff {name : String} {e : Failure} : flaw? metadata strict name = some e ↔
    Rejected metadata name ∧ e = .fault (.template (.mappingField name)) ∨
      strict = true ∧ Missing metadata name ∧ e = .fault (.unresolvedField name) := by
  unfold flaw? Rejected Missing
  by_cases hname : name = bodyName
  · simp [hname]
  cases hv : Value.field? name metadata with
  | none => cases strict <;> simp [hname, eq_comm]
  | some v =>
    cases hs : fieldText name v with
    | ok s => simp [hs]
    | error e' =>
      obtain rfl := fieldText_error hs
      simp [hname, hs, eq_comm]

theorem flaw?_strict_eq_none_iff {name : String} :
    flaw? metadata true name = none ↔ ¬ Bad metadata name := by
  rw [← not_iff_not, not_not, Bad, ← ne_eq, Option.ne_none_iff_exists']
  simp only [flaw?_eq_some_iff, true_and, exists_or, exists_and_left, exists_eq, and_true]
  exact or_comm

theorem flaw?_lenient_eq_none_iff {name : String} :
    flaw? metadata false name = none ↔ ¬ Rejected metadata name := by
  rw [← not_iff_not, not_not, ← ne_eq, Option.ne_none_iff_exists']
  simp [flaw?_eq_some_iff]

/-! ### Filling meets the names in order -/

theorem fillSegment_placeholder_error_iff {name : List Char} {e : Failure} :
    fillSegment body metadata strict (.placeholder name) = .error e ↔
      flaw? metadata strict (String.ofList name) = some e := by
  unfold fillSegment flaw?
  by_cases hname : String.ofList name = bodyName
  · simp [hname]
  cases hv : Value.field? (String.ofList name) metadata with
  | none => cases strict <;> simp [hname, hv]
  | some v => cases hs : fieldText (String.ofList name) v <;> simp [hname, hv, hs, Except.map]

theorem fillSegments_error_iff {e : Failure} : ∀ {l : List Segment},
    fillSegments body metadata strict l = .error e ↔
      (namesOf l).findSome? (flaw? metadata strict) = some e
  | [] => by simp [fillSegments, namesOf]
  | .literal text :: l => by
    have hnames : namesOf (.literal text :: l) = namesOf l := rfl
    rw [hnames, ← fillSegments_error_iff (l := l), fillSegments_literal]
    cases fillSegments body metadata strict l <;> simp [Except.map]
  | .placeholder name :: l => by
    have hnames : namesOf (.placeholder name :: l) = String.ofList name :: namesOf l := rfl
    rw [hnames, List.findSome?_cons, fillSegments]
    cases hs : fillSegment body metadata strict (.placeholder name) with
    | error e' =>
      rw [fillSegment_placeholder_error_iff.mp hs]
      simp [bind, Except.bind]
    | ok p =>
      have hnone : flaw? metadata strict (String.ofList name) = none := by
        cases hf : flaw? metadata strict (String.ofList name) with
        | none => rfl
        | some e' => cases hs.symm.trans (fillSegment_placeholder_error_iff.mpr hf)
      rw [hnone, ← fillSegments_error_iff (l := l)]
      cases fillSegments body metadata strict l <;>
        simp [bind, Except.bind, pure, Except.pure]

/-- A placeholder leaves its name behind iff the metadata do not hold it. -/
theorem unresolved_of_fillSegment {name : List Char} {t : String} {names : List String}
    (h : fillSegment body metadata strict (.placeholder name) = .ok (t, names)) :
    names = [String.ofList name].filter (Missing metadata ·) := by
  unfold fillSegment at h
  by_cases hname : String.ofList name = bodyName
  · have hheld : ¬ Missing metadata (String.ofList name) := fun hm => hm.1 hname
    obtain ⟨-, rfl⟩ : body = t ∧ [] = names := by simpa [hname] using h
    simp [hheld]
  cases hv : Value.field? (String.ofList name) metadata with
  | some v =>
    have hheld : ¬ Missing metadata (String.ofList name) := by simp [Missing, hv]
    cases hs : fieldText (String.ofList name) v with
    | error e => simp [hname, hv, hs, Except.map] at h
    | ok s =>
      obtain ⟨-, rfl⟩ : s = t ∧ [] = names := by simpa [hname, hv, hs, Except.map] using h
      simp [hheld]
  | none =>
    have hmissing : Missing metadata (String.ofList name) := ⟨hname, hv⟩
    cases strict with
    | true => simp [hname, hv] at h
    | false =>
      obtain ⟨-, rfl⟩ : _ = t ∧ [String.ofList name] = names := by simpa [hname, hv] using h
      simp [hmissing]

theorem unresolved_of_fillSegments : ∀ {l : List Segment} {text : String} {names : List String},
    fillSegments body metadata strict l = .ok (text, names) →
      names = (namesOf l).filter (Missing metadata ·)
  | [], _, _, h => (Prod.mk.inj (Except.ok.inj h)).2.symm
  | s :: l, text, names, h => by
    obtain ⟨t, ns, u, ms, hs, hl, -, rfl⟩ := fillSegments_cons_ok_iff.mp h
    rw [unresolved_of_fillSegments hl]
    cases s with
    | literal c =>
      obtain ⟨-, rfl⟩ := Prod.mk.inj (Except.ok.inj hs)
      rfl
    | placeholder name =>
      rw [unresolved_of_fillSegment hs, ← List.filter_append]
      rfl

/-- A strict filling that succeeds leaves no name behind, and so does one without strictness that
comes to the same text. -/
theorem fillSegment_strict_iff {s : Segment} {t : String} {names : List String} :
    fillSegment body metadata true s = .ok (t, names) ↔
      names = [] ∧ fillSegment body metadata false s = .ok (t, []) := by
  cases s with
  | literal text => simp [fillSegment, and_comm, eq_comm]
  | placeholder name =>
    unfold fillSegment
    by_cases hname : String.ofList name = bodyName
    · simp [hname, and_comm, eq_comm]
    cases hv : Value.field? (String.ofList name) metadata with
    | none => simp [hname, hv]
    | some v =>
      cases hs : fieldText (String.ofList name) v <;>
        simp [hname, hv, hs, Except.map, and_comm, eq_comm]

theorem fillSegments_strict_iff : ∀ {l : List Segment} {text : String} {names : List String},
    fillSegments body metadata true l = .ok (text, names) ↔
      names = [] ∧ fillSegments body metadata false l = .ok (text, [])
  | [], text, names => by simp [fillSegments, and_comm, eq_comm]
  | s :: l, text, names => by
    simp only [fillSegments_cons_ok_iff, fillSegment_strict_iff, fillSegments_strict_iff (l := l)]
    constructor
    · rintro ⟨t, _, u, _, ⟨rfl, hs⟩, ⟨rfl, hl⟩, htext, rfl⟩
      exact ⟨rfl, t, [], u, [], hs, hl, htext, rfl⟩
    · rintro ⟨rfl, t, ns, u, ms, hs, hl, htext, hnil⟩
      obtain ⟨rfl, rfl⟩ := List.append_eq_nil_iff.mp hnil
      exact ⟨t, [], u, [], ⟨rfl, hs⟩, ⟨rfl, hl⟩, htext, rfl⟩

/-! ### Whole templates -/

theorem fill_error_iff {template : String} {e : Failure} :
    (fill template body metadata strict).outcome = .error e ↔
      (placeholders template).findSome? (flaw? metadata strict) = some e := by
  have hnames : placeholders template = distinct (namesOf (segments template.toList)) := rfl
  rw [hnames, findSome?_distinct, ← @fillSegments_error_iff body]
  unfold fill
  cases fillSegments body metadata strict (segments template.toList) <;> simp [Run.fail]

theorem fill_log_of_error {template : String} {e : Failure}
    (h : (fill template body metadata strict).outcome = .error e) :
    (fill template body metadata strict).log = [] := by
  unfold fill at h ⊢
  cases hf : fillSegments body metadata strict (segments template.toList) with
  | error e' => rfl
  | ok p => simp [hf] at h

theorem fill_log_of_ok {template text : String}
    (h : (fill template body metadata strict).outcome = .ok text) :
    (fill template body metadata strict).log =
      ((placeholders template).filter (Missing metadata ·)).map unresolvedWarning := by
  have hnames : placeholders template = distinct (namesOf (segments template.toList)) := rfl
  unfold fill at h ⊢
  cases hf : fillSegments body metadata strict (segments template.toList) with
  | error e => simp [hf, Run.fail] at h
  | ok p =>
    obtain ⟨t, names⟩ := p
    rw [hnames, filter_distinct, ← unresolved_of_fillSegments hf]

theorem fill_strict_ok_iff {template text : String} :
    (fill template body metadata true).outcome = .ok text ↔
      fill template body metadata false = ⟨.ok text, []⟩ := by
  have hstrict : (fill template body metadata true).outcome = .ok text ↔
      fillSegments body metadata false (segments template.toList) = .ok (text, []) := by
    have hnone := @fillSegments_strict_iff body metadata (segments template.toList) text
    unfold fill
    cases hf : fillSegments body metadata true (segments template.toList) with
    | error e =>
      refine iff_of_false (by simp [Run.fail]) fun h => ?_
      cases hf.symm.trans (hnone.mpr ⟨rfl, h⟩)
    | ok p =>
      obtain ⟨t, names⟩ := p
      obtain ⟨rfl, hlenient⟩ := fillSegments_strict_iff.mp hf
      simp [hlenient]
  rw [hstrict]
  unfold fill
  cases hf : fillSegments body metadata false (segments template.toList) with
  | error e => simp [Run.fail]
  | ok p =>
    obtain ⟨t, names⟩ := p
    have hempty : distinct names = [] ↔ names = [] := by
      simp only [List.eq_nil_iff_forall_not_mem, mem_distinct]
    simp [hempty]

/-- **Whether a template is filled is settled by the names listed for it.** A strict filling fails
at the first bad name, for what that name lacks; one that is not strict fails at a rejected name
only, and silently, and otherwise warns of each missing name once, in order. The two give the same
text where nothing is missing. -/
theorem fill_settled_by_placeholders (template body : String) (metadata : Entries) :
    (∀ a : Cut, a.Of template.toList →
      placeholders template = distinct (a.rest.map fun p => String.ofList p.1)) ∧
    (placeholders template).Nodup ∧
    ((∃ text, (fill template body metadata true).outcome = .ok text) ↔
      ∀ name ∈ placeholders template, ¬ Bad metadata name) ∧
    (∀ e, (fill template body metadata true).outcome = .error e ↔
      ∃ before name after, placeholders template = before ++ name :: after ∧
        (∀ earlier ∈ before, ¬ Bad metadata earlier) ∧
        (Missing metadata name ∧ e = .fault (.unresolvedField name) ∨
          Rejected metadata name ∧ e = .fault (.template (.mappingField name)))) ∧
    ((∃ e, (fill template body metadata false).outcome = .error e) ↔
      ∃ name ∈ placeholders template, Rejected metadata name) ∧
    (∀ strict e, (fill template body metadata strict).outcome = .error e →
      (fill template body metadata strict).log = []) ∧
    (∀ strict text, (fill template body metadata strict).outcome = .ok text →
      (fill template body metadata strict).log =
        ((placeholders template).filter (Missing metadata ·)).map unresolvedWarning) ∧
    ∀ text, (fill template body metadata true).outcome = .ok text ↔
      fill template body metadata false = ⟨.ok text, []⟩ := by
  refine ⟨fun a ha => placeholders_of_cut ha, nodup_distinct _, ?_, fun e => ?_, ?_,
    fun _ _ => fill_log_of_error, fun _ _ => fill_log_of_ok, fun text => fill_strict_ok_iff⟩
  · simp only [← flaw?_strict_eq_none_iff, ← List.findSome?_eq_none_iff]
    cases hr : (fill template body metadata true).outcome with
    | ok text =>
      refine iff_of_true ⟨text, rfl⟩ (Option.eq_none_iff_forall_ne_some.mpr fun e he => ?_)
      cases hr.symm.trans (fill_error_iff.mpr he)
    | error e =>
      rw [fill_error_iff.mp hr]
      simp
  · rw [fill_error_iff, List.findSome?_eq_some_iff]
    simp only [flaw?_eq_some_iff, flaw?_strict_eq_none_iff, true_and]
    constructor
    · rintro ⟨before, name, after, hl, hname, hbefore⟩
      exact ⟨before, name, after, hl, hbefore, hname.symm⟩
    · rintro ⟨before, name, after, hl, hbefore, hname⟩
      exact ⟨before, name, after, hl, hname.symm, hbefore⟩
  · simp only [fill_error_iff]
    rw [← Option.ne_none_iff_exists', ne_eq, List.findSome?_eq_none_iff]
    simp only [flaw?_lenient_eq_none_iff, not_forall, not_not, exists_prop]

end Manuscript.Template
