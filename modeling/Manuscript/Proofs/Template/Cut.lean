import Manuscript.Template.Placeholder
import Mathlib.Data.List.TakeWhile

/-!
Cutting a template. A `Cut` alternates literals, which may be empty, and placeholders. It is the cut
of a template when it writes the template again and no placeholder begins inside a literal; every
template has exactly one (`cut_of_segments`, `Of.unique`), the one that scanning from left to right
finds.
-/

namespace Manuscript.Template

/-! ### Where a placeholder begins -/

/-- A name: word characters, at least one. -/
def IsName (name : List Char) : Prop := name ≠ [] ∧ ∀ c ∈ name, Text.isWordChar c = true

/-- Whether a text starts with a placeholder. -/
def Opens (cs : List Char) : Prop :=
  ∃ name after, IsName name ∧ cs = '%' :: name ++ '%' :: after

theorem isWordChar_percent : Text.isWordChar '%' = false := by decide

theorem takeWhile_name {name : List Char} (h : IsName name) (after : List Char) :
    (name ++ '%' :: after).takeWhile Text.isWordChar = name := by
  rw [List.takeWhile_append_of_pos h.2, List.takeWhile_cons, isWordChar_percent]
  simp

theorem dropWhile_name {name : List Char} (h : IsName name) (after : List Char) :
    (name ++ '%' :: after).dropWhile Text.isWordChar = '%' :: after := by
  rw [List.dropWhile_append_of_pos h.2, List.dropWhile_cons, isWordChar_percent]
  simp

theorem nameAt?_eq_some_iff {cs name after : List Char} :
    nameAt? cs = some (name, after) ↔ IsName name ∧ cs = name ++ '%' :: after := by
  constructor
  · intro h
    have happ := List.takeWhile_append_dropWhile (p := Text.isWordChar) (l := cs)
    unfold nameAt? at h
    split at h
    · cases h
    · rename_i rest hdrop hne
      obtain ⟨rfl, rfl⟩ := Prod.mk.inj (Option.some.inj h)
      rw [hdrop] at happ
      exact ⟨⟨hne, fun c hc => List.mem_takeWhile_imp hc⟩, happ.symm⟩
    · cases h
  · rintro ⟨hname, rfl⟩
    unfold nameAt?
    rw [takeWhile_name hname, dropWhile_name hname]
    cases name with
    | nil => exact absurd rfl hname.1
    | cons c name => rfl

theorem opens_percent_iff {cs : List Char} : Opens ('%' :: cs) ↔ ∃ p, nameAt? cs = some p := by
  constructor
  · rintro ⟨name, after, hname, heq⟩
    exact ⟨(name, after), nameAt?_eq_some_iff.mpr ⟨hname, by simpa using heq⟩⟩
  · rintro ⟨⟨name, after⟩, h⟩
    obtain ⟨hname, rfl⟩ := nameAt?_eq_some_iff.mp h
    exact ⟨name, after, hname, rfl⟩

/-! ### Cuts -/

/-- The text that a segment is written as in a template. -/
def Segment.source : Segment → List Char
  | .literal text => text
  | .placeholder name => '%' :: name ++ ['%']

/-- A literal, and then placeholders with a literal after each. -/
structure Cut where
  first : List Char
  rest : List (List Char × List Char)

namespace Cut

/-- The segments of a cut after its first literal. -/
def later (a : Cut) : List Segment := a.rest.flatMap fun p => [.placeholder p.1, .literal p.2]

/-- The segments of a cut: literals and placeholders in turns, with a literal at both ends. -/
def segments (a : Cut) : List Segment := .literal a.first :: a.later

/-- The template that a list of segments writes. -/
def written (l : List Segment) : List Char := l.flatMap Segment.source

/-- **The cut of a template.** It writes the template, its names are names, and no position inside a
literal is the start of a placeholder of the template. -/
structure Of (template : List Char) (a : Cut) : Prop where
  source : written a.segments = template
  names : ∀ name, .placeholder name ∈ a.segments → IsName name
  literals : ∀ before text after, a.segments = before ++ .literal text :: after →
    ∀ passed ahead, text = passed ++ ahead → ahead ≠ [] → ¬ Opens (ahead ++ written after)

/-- The cut without a placeholder before its first literal grows by a character. -/
def consChar (c : Char) (a : Cut) : Cut := ⟨c :: a.first, a.rest⟩

/-- Puts a placeholder in front of a cut, with an empty literal before it. -/
def consName (name : List Char) (a : Cut) : Cut := ⟨[], (name, a.first) :: a.rest⟩

theorem segments_consName (name : List Char) (a : Cut) :
    (consName name a).segments = .literal [] :: .placeholder name :: a.segments := rfl

/-! ### The cut that scanning finds -/

theorem of_nil : Of [] ⟨[], []⟩ where
  source := rfl
  names name h := by simp [segments, later] at h
  literals before text after h passed ahead htext hne := by
    rcases before with _ | ⟨s, before⟩
    · obtain ⟨htext', -⟩ := List.cons.inj h
      obtain rfl : [] = text := Segment.literal.inj htext'
      simp only [List.nil_eq, List.append_eq_nil_iff] at htext
      exact absurd htext.2 hne
    · have hnil : [] = before ++ .literal text :: after := (List.cons.inj h).2
      simp at hnil

theorem Of.consChar {c : Char} {cs : List Char} {a : Cut} (h : Of cs a) (hc : ¬ Opens (c :: cs)) :
    Of (c :: cs) (a.consChar c) where
  source := by
    show c :: a.segments.flatMap Segment.source = _
    rw [← h.source]
    rfl
  names name hn := by
    refine h.names name ?_
    rcases List.mem_cons.mp hn with heq | hn
    · cases heq
    · exact List.mem_cons_of_mem _ hn
  literals before text after heq passed ahead htext hne := by
    rcases before with _ | ⟨s, before⟩
    · obtain ⟨hfirst, rfl⟩ := List.cons.inj heq
      obtain rfl := Segment.literal.inj hfirst
      rcases passed with _ | ⟨d, passed⟩
      · obtain rfl : c :: a.first = ahead := htext
        rw [← h.source] at hc
        exact hc
      · obtain ⟨rfl, hrest⟩ := List.cons.inj htext
        exact h.literals [] a.first a.later rfl passed ahead hrest hne
    · obtain ⟨rfl, hrest⟩ := List.cons.inj heq
      refine h.literals (.literal a.first :: before) text after ?_ passed ahead htext hne
      exact congrArg _ hrest

theorem Of.consName {name cs : List Char} {a : Cut} (h : Of cs a) (hname : IsName name) :
    Of ('%' :: name ++ '%' :: cs) (a.consName name) where
  source := by
    rw [segments_consName, ← h.source]
    simp [written, Segment.source]
  names other ho := by
    rw [segments_consName] at ho
    rcases List.mem_cons.mp ho with heq | ho
    · cases heq
    rcases List.mem_cons.mp ho with heq | ho
    · rw [Segment.placeholder.inj heq]
      exact hname
    · exact h.names other ho
  literals before text after heq passed ahead htext hne := by
    rw [segments_consName] at heq
    rcases before with _ | ⟨s, _ | ⟨t, before⟩⟩
    · obtain rfl := Segment.literal.inj (List.cons.inj heq).1
      exact absurd (List.append_eq_nil_iff.mp htext.symm).2 hne
    · cases (List.cons.inj (List.cons.inj heq).2).1
    · exact h.literals before text after (List.cons.inj (List.cons.inj heq).2).2 passed ahead htext
        hne

/-- The cut with the literals of a list of segments joined, and empty ones where none stand. -/
def ofSegments : List Segment → Cut
  | [] => ⟨[], []⟩
  | .literal text :: rest => ⟨text ++ (ofSegments rest).first, (ofSegments rest).rest⟩
  | .placeholder name :: rest => consName name (ofSegments rest)

theorem ofSegments_consLiteral (c : Char) (l : List Segment) :
    ofSegments (consLiteral c l) = consChar c (ofSegments l) := by
  match l with
  | [] => rfl
  | .literal text :: rest => rfl
  | .placeholder name :: rest => rfl

/-- **Scanning a template finds its cut.** -/
theorem cut_of_segments (cs : List Char) : Of cs (ofSegments (Template.segments cs)) := by
  induction cs using Template.segments.induct with
  | case1 =>
    rw [Template.segments]
    exact of_nil
  | case2 rest name after h ih =>
    obtain ⟨hname, rfl⟩ := nameAt?_eq_some_iff.mp h
    rw [Template.segments]
    simp only [if_true]
    split
    · rename_i name' after' h'
      obtain ⟨rfl, rfl⟩ := Prod.mk.inj (Option.some.inj (h.symm.trans h'))
      exact ih.consName hname
    · rename_i h'
      cases h.symm.trans h'
  | case3 rest h ih =>
    have hopens : ¬ Opens ('%' :: rest) := by
      rw [opens_percent_iff, h]
      simp
    rw [Template.segments]
    simp only [if_true]
    split
    · rename_i h'
      cases h.symm.trans h'
    · rw [ofSegments_consLiteral]
      exact ih.consChar hopens
  | case4 c rest hc ih =>
    have hopens : ¬ Opens (c :: rest) := by
      rintro ⟨name, after, -, heq⟩
      exact hc (List.cons.inj heq).1
    rw [Template.segments]
    simp only [hc, if_false]
    rw [ofSegments_consLiteral]
    exact ih.consChar hopens

/-! ### There is no other -/

/-- A cut either ends with its first literal or goes on with a placeholder. -/
theorem Of.rest_cases {cs : List Char} {a : Cut} (h : Of cs a) :
    a.rest = [] ∧ written a.later = [] ∨
    ∃ name b cs', a = ⟨a.first, (name, b.first) :: b.rest⟩ ∧ IsName name ∧ Of cs' b ∧
      written a.later = '%' :: name ++ '%' :: cs' := by
  obtain ⟨first, rest⟩ := a
  rcases rest with _ | ⟨⟨name, text⟩, rest⟩
  · exact .inl ⟨rfl, rfl⟩
  · let b : Cut := ⟨text, rest⟩
    have hsegments : segments ⟨first, (name, text) :: rest⟩ =
        .literal first :: .placeholder name :: b.segments := rfl
    have hb : Of (written b.segments) b := by
      refine ⟨rfl, fun other ho => ?_, fun before t after heq => ?_⟩
      · exact h.names other (List.mem_cons_of_mem _ (List.mem_cons_of_mem _ ho))
      · refine h.literals (.literal first :: .placeholder name :: before) t after ?_
        rw [hsegments, heq]
        rfl
    have hname : IsName name := h.names name (by rw [hsegments]; simp)
    refine .inr ⟨name, b, _, rfl, hname, hb, ?_⟩
    show ('%' :: name ++ ['%']) ++ written b.segments = _
    simp

theorem Of.eq_nil_of_longer {cs more : List Char} {a b : Cut} (ha : Of cs a) (hb : Of cs b)
    (hfirst : b.first = a.first ++ more) (htail : written a.later = more ++ written b.later) :
    more = [] := by
  by_contra hne
  rcases ha.rest_cases with ⟨-, hnil⟩ | ⟨name, _, cs', -, hname, -, hopens⟩
  · rw [hnil] at htail
    exact hne (List.append_eq_nil_iff.mp htail.symm).1
  · -- where `a` goes on with a placeholder, `b` is still inside its literal
    refine hb.literals [] b.first b.later rfl a.first more hfirst hne ?_
    exact ⟨name, cs', hname, htail.symm.trans hopens⟩

theorem Of.first_eq {cs : List Char} {a b : Cut} (ha : Of cs a) (hb : Of cs b) :
    a.first = b.first ∧ written a.later = written b.later := by
  have heq : a.first ++ written a.later = b.first ++ written b.later :=
    ha.source.trans hb.source.symm
  rcases List.append_eq_append_iff.mp heq with ⟨more, hfirst, htail⟩ | ⟨more, hfirst, htail⟩
  · obtain rfl := ha.eq_nil_of_longer hb hfirst htail
    exact ⟨by simpa using hfirst.symm, by simpa using htail⟩
  · obtain rfl := hb.eq_nil_of_longer ha hfirst htail
    exact ⟨by simpa using hfirst, by simpa using htail.symm⟩

/-- **A template has one cut only.** -/
theorem Of.unique {cs : List Char} {a b : Cut} (ha : Of cs a) (hb : Of cs b) : a = b := by
  obtain ⟨hfirst, htail⟩ := ha.first_eq hb
  rcases ha.rest_cases with ⟨ha', hwa⟩ | ⟨name, a', cs', ha', hname, hofa, hwa⟩ <;>
    rcases hb.rest_cases with ⟨hb', hwb⟩ | ⟨other, b', cs'', hb', hother, hofb, hwb⟩
  · obtain ⟨first, rest⟩ := a
    obtain ⟨first', rest'⟩ := b
    simp only at hfirst ha' hb'
    rw [hfirst, ha', hb']
  · rw [hwa, hwb] at htail
    cases htail
  · rw [hwa, hwb] at htail
    cases htail
  · have hboth : name ++ '%' :: cs' = other ++ '%' :: cs'' := by
      rw [hwa, hwb] at htail
      exact (List.cons.inj htail).2
    have hsame := (nameAt?_eq_some_iff.mpr ⟨hname, rfl⟩).symm.trans
      (nameAt?_eq_some_iff.mpr ⟨hother, hboth⟩)
    obtain ⟨rfl, rfl⟩ := Prod.mk.inj (Option.some.inj hsame)
    rw [ha', hb', hfirst, hofa.unique hofb]
termination_by a.rest.length
decreasing_by
  rw [ha']
  simp

end Cut

end Manuscript.Template
