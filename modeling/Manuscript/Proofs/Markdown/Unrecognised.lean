import Manuscript.Proofs.Markdown.Problem

/-!
# Tokens of unknown kinds

A token of a kind that its slot does not know should be refused wherever it stands. It is, as a
block, as an item of a list and in running text, unless something before it breaks the building down
(`refused_iff_of_unrecognised`). Among the parts of a table it is passed over
(`tableParts_unknown`), and in the slots that are left it is taken for a token of the kind that
belongs there. That a token stands at some depth is said by `Token.Holds`, and it is a problem
exactly where kinds are checked (`unrecognised_mem_problemsIn`).
-/

namespace Manuscript.Markdown

/-! ### Tokens at some depth -/

/-- **A token holds a kind in a slot** when it is of that kind and stands there itself, or when one
of its children holds it. -/
inductive Token.Holds (slot : Slot) (kind : TokenKind) : Slot → Token → Prop where
  | self {t : Token} {h : Head} (head : headOf t = .ok h) (same : h.kind = kind) :
      Holds slot kind slot t
  | child {outer inside : Slot} {h : Head} {children : List Token} {t : Token}
      (enters : outer.inside? h.kind = some inside) (mem : t ∈ children)
      (holds : Holds slot kind inside t) : Holds slot kind outer (.branch h children)

/-- **A kind is unrecognised** among blocks when a token of that kind stands in a slot that does not
know it, at some depth. -/
structure Unrecognised (ts : List Token) (slot : Slot) (kind : TokenKind) : Prop where
  unknown : slot.knows kind = false
  held : ∃ t ∈ ts, t.Holds slot kind (.of .block)

variable {slot : Slot} {kind : TokenKind} {ts : List Token}

theorem mem_problemsIn {p : Problem} : p ∈ problemsIn slot ts ↔ ∃ t ∈ ts, p ∈ problems slot t := by
  rw [problemsIn_eq_flatMap, List.mem_flatMap]

theorem mem_kindProblems {outer : Slot} {kind' : TokenKind} :
    .unrecognised slot kind ∈ kindProblems outer kind' ↔
      slot = outer ∧ kind = kind' ∧ slot.checks = true ∧ slot.knows kind = false := by
  unfold kindProblems
  split
  · rename_i hrefused
    obtain ⟨hchecks, hunknown⟩ := Bool.and_eq_true_iff.mp hrefused
    simp only [List.mem_singleton, Problem.unrecognised.injEq]
    constructor
    · rintro ⟨rfl, rfl⟩
      exact ⟨rfl, rfl, hchecks, by simpa using hunknown⟩
    · rintro ⟨rfl, rfl, -⟩
      exact ⟨rfl, rfl⟩
  · rename_i hrefused
    simp only [List.not_mem_nil, false_iff]
    rintro ⟨rfl, rfl, hchecks, hunknown⟩
    simp [hchecks, hunknown] at hrefused

/-- A kind that is not known is a problem, at any depth, where kinds are checked. -/
theorem mem_problems_of_holds {outer : Slot} {t : Token} (h : t.Holds slot kind outer)
    (hchecks : slot.checks = true) (hunknown : slot.knows kind = false) :
    .unrecognised slot kind ∈ problems outer t := by
  have hkind := mem_kindProblems.mpr ⟨rfl, rfl, hchecks, hunknown⟩
  induction h with
  | @self t h head same =>
    subst same
    cases t with
    | leaf h' | branch h' children | misfit h' v =>
      obtain rfl : h' = h := Except.ok.inj head
      simp [problems, hkind]
    | stray v => cases head
  | @child outer inside h children t enters mem _ ih =>
    have hinside : .unrecognised slot kind ∈ problemsIn inside children :=
      mem_problemsIn.mpr ⟨t, mem, ih⟩
    rw [problems, enters]
    exact List.mem_append_left _ (List.mem_append_right _ hinside)

theorem not_mem_problemsOf {α : Type} (r : Outcome α) : .unrecognised slot kind ∉ problemsOf r := by
  cases r <;> simp [problemsOf]

theorem not_mem_misfitProblems (inside : Option Slot) (v : Value) :
    .unrecognised slot kind ∉ misfitProblems inside v := by
  unfold misfitProblems
  split
  · exact List.not_mem_nil
  · exact List.not_mem_nil
  · split <;> exact not_mem_problemsOf _

theorem not_mem_lateProblems (outer : Slot) (h : Head) :
    .unrecognised slot kind ∉ lateProblems outer h := by
  unfold lateProblems
  split
  · exact not_mem_problemsOf _
  · exact not_mem_problemsOf _
  · exact List.not_mem_nil

theorem holds_of_mem_kindProblems {outer : Slot} {t : Token} {h : Head} (head : headOf t = .ok h)
    (hmem : .unrecognised slot kind ∈ kindProblems outer h.kind) :
    slot.checks = true ∧ slot.knows kind = false ∧ t.Holds slot kind outer := by
  obtain ⟨rfl, hkind, hchecks, hunknown⟩ := mem_kindProblems.mp hmem
  exact ⟨hchecks, hunknown, .self head hkind.symm⟩

mutual

/-- Only unknown kinds in slots where kinds are checked come up as problems with a kind. -/
theorem holds_of_mem_problems : ∀ {t : Token} {outer : Slot},
    .unrecognised slot kind ∈ problems outer t →
      slot.checks = true ∧ slot.knows kind = false ∧ t.Holds slot kind outer
  | .leaf h, outer, hmem => by
    have hkind := (List.mem_append.mp hmem).resolve_right (not_mem_lateProblems _ _)
    exact holds_of_mem_kindProblems rfl hkind
  | .branch h children, outer, hmem => by
    rw [problems] at hmem
    have hearly := (List.mem_append.mp hmem).resolve_right (not_mem_lateProblems _ _)
    rcases List.mem_append.mp hearly with hkind | hinside
    · exact holds_of_mem_kindProblems rfl hkind
    · split at hinside
      · rename_i inside henters
        obtain ⟨hchecks, hunknown, t, ht, hholds⟩ := holds_of_mem_problemsIn hinside
        exact ⟨hchecks, hunknown, .child henters ht hholds⟩
      · cases hinside
  | .misfit h v, outer, hmem => by
    have hearly := (List.mem_append.mp hmem).resolve_right (not_mem_lateProblems _ _)
    have hkind := (List.mem_append.mp hearly).resolve_right (not_mem_misfitProblems _ _)
    exact holds_of_mem_kindProblems rfl hkind
  | .stray v, outer, hmem => by
    rw [problems] at hmem
    split at hmem <;> simp at hmem

theorem holds_of_mem_problemsIn : ∀ {ts : List Token} {outer : Slot},
    .unrecognised slot kind ∈ problemsIn outer ts →
      slot.checks = true ∧ slot.knows kind = false ∧ ∃ t ∈ ts, t.Holds slot kind outer
  | [], _, hmem => by cases hmem
  | t :: ts, outer, hmem => by
    rw [problemsIn] at hmem
    rcases List.mem_append.mp hmem with hmem | hmem
    · obtain ⟨hchecks, hunknown, hholds⟩ := holds_of_mem_problems hmem
      exact ⟨hchecks, hunknown, t, List.mem_cons_self, hholds⟩
    · obtain ⟨hchecks, hunknown, t', ht', hholds⟩ := holds_of_mem_problemsIn hmem
      exact ⟨hchecks, hunknown, t', List.mem_cons_of_mem t ht', hholds⟩

end

/-- **The problems with kinds** are the unrecognised kinds in slots where kinds are checked. -/
theorem unrecognised_mem_problemsIn : .unrecognised slot kind ∈ problemsIn (.of .block) ts ↔
    slot.checks = true ∧ Unrecognised ts slot kind := by
  constructor
  · intro hmem
    obtain ⟨hchecks, hunknown, hheld⟩ := holds_of_mem_problemsIn hmem
    exact ⟨hchecks, hunknown, hheld⟩
  · rintro ⟨hchecks, hunknown, t, ht, hholds⟩
    exact mem_problemsIn.mpr ⟨t, ht, mem_problems_of_holds hholds hchecks hunknown⟩

/-! ### Where unknown kinds are refused -/

/-- A problem that is reported as one of parsing. -/
def Problem.IsReported (p : Problem) : Prop := ∃ cause, p.failure = .fault (.parsing cause)

theorem blocks_parsing_iff (ts : List Token) :
    (∃ cause, blocks ts = .error (.fault (.parsing cause))) ↔
      ∃ p, (problemsIn (.of .block) ts).head? = some p ∧ p.IsReported := by
  simp only [(blocks_stops ts).error_iff, Problem.IsReported]
  constructor
  · rintro ⟨cause, p, hp, hcause⟩
    exact ⟨p, hp, cause, hcause⟩
  · rintro ⟨p, hp, cause, hcause⟩
    exact ⟨cause, p, hp, hcause⟩

/-- **Where tokens of unknown kinds are refused.** Blocks with a token of an unknown kind, at some
depth, are refused exactly when their first problem is one that is reported. The token is among the
problems iff it stands in a slot where kinds are checked. Then no tree is built, and the blocks are
refused unless something else is wrong with them that is not reported. -/
theorem refused_iff_of_unrecognised (h : Unrecognised ts slot kind) :
    ((∃ cause, blocks ts = .error (.fault (.parsing cause))) ↔
      ∃ p, (problemsIn (.of .block) ts).head? = some p ∧ p.IsReported) ∧
    (.unrecognised slot kind ∈ problemsIn (.of .block) ts ↔ slot.checks = true) ∧
    (slot.checks = true → (∀ tree, blocks ts ≠ .ok tree) ∧
      ((∀ p ∈ problemsIn (.of .block) ts, p.IsReported) →
        ∃ cause, blocks ts = .error (.fault (.parsing cause)))) := by
  have hiff : .unrecognised slot kind ∈ problemsIn (.of .block) ts ↔ slot.checks = true := by
    rw [unrecognised_mem_problemsIn]
    exact and_iff_left h
  refine ⟨blocks_parsing_iff ts, hiff, fun hchecks => ?_⟩
  obtain ⟨p, ps, hps⟩ := List.exists_cons_of_ne_nil (List.ne_nil_of_mem (hiff.mpr hchecks))
  refine ⟨fun tree htree => ?_, fun hreported => ?_⟩
  · have hnone := (blocks_stops ts).ok_iff.mp ⟨tree, htree⟩
    cases hps.symm.trans hnone
  · refine (blocks_parsing_iff ts).mpr ⟨p, by rw [hps, List.head?_cons], hreported p ?_⟩
    rw [hps]
    exact List.mem_cons_self

/-- A token of an unknown kind in a paragraph is refused. -/
theorem refused_mystery_in_paragraph :
    let ts : List Token :=
      [.branch { kind := .paragraph } [.leaf { kind := .other (.str "mystery") }]]
    Unrecognised ts (.of .inline) (.other (.str "mystery")) ∧
      ∃ cause, blocks ts = .error (.fault (.parsing cause)) := by
  intro ts
  have h : Unrecognised ts (.of .inline) (.other (.str "mystery")) :=
    ⟨rfl, _, List.mem_cons_self, .child rfl List.mem_cons_self (.self rfl rfl)⟩
  exact ⟨h, (refused_iff_of_unrecognised h).1.mpr ⟨_, rfl, _, rfl⟩⟩

/-! ### Where they are not -/

/-- A part of a table that is of an unknown kind leaves no trace. -/
theorem tableParts_unknown {t : Token} {h : Head} (head : headOf t = .ok h)
    (hunknown : (Slot.of .part).knows h.kind = false) (before after : List Token) :
    tableParts (before ++ t :: after) = tableParts (before ++ after) := by
  induction before with
  | nil =>
    obtain ⟨kind, raw, attributes⟩ := h
    rw [List.nil_append, List.nil_append, tableParts, head]
    cases kind with
    | tableHead | tableBody => cases hunknown
    | _ => rfl
  | cons b before ih => rw [List.cons_append, List.cons_append, tableParts, tableParts, ih]

/-- So a token of an unknown kind among the parts of a table is not refused. -/
theorem not_refused_mystery_in_table : ¬ ∀ ts : List Token,
    (∃ slot kind, Unrecognised ts slot kind) →
      ∃ cause, blocks ts = .error (.fault (.parsing cause)) := by
  intro hrefused
  let part : Token := .leaf { kind := .other (.str "mystery") }
  have h : Unrecognised [.branch { kind := .table } [part]] (.of .part) (.other (.str "mystery")) :=
    ⟨rfl, _, List.mem_cons_self, .child rfl List.mem_cons_self (.self rfl rfl)⟩
  obtain ⟨cause, hcause⟩ := hrefused _ ⟨_, _, h⟩
  have hparts : tableParts [part] = .ok (none, []) := tableParts_unknown rfl rfl [] []
  rw [blocks, block, hparts] at hcause
  cases hcause

end Manuscript.Markdown
