import Manuscript.Options.History
import Manuscript.Proofs.Options.Update
import Mathlib.Data.List.Induction

/-!
# Options after any steps

However often options are built anew and changed, and whichever steps fail, the current options are
valid, and every field has the value of the step that wrote it last, or its default when none of the
steps since the options were built wrote it (`last_writer_wins`).

A step that succeeds takes the values it gives into options that were there before, the defaults or
the current ones (`result_ok`). So what was written last changes with a step that succeeds in one of
three ways, and not at all with a step that fails (`lastWritten_concat_iff`,
`lastWritten_concat_of_error`), and the law follows by induction on the steps, the last one first.
-/

namespace Manuscript

/-! ### Valid options -/

/-- A text or bytes that hold more than white space. -/
def Value.HasInk : Value → Prop
  | .str s => ∃ c ∈ s.toList, Text.isBlank c = false
  | .bytes data => ∃ b ∈ data, b ≠ 32 ∧ ¬ (9 ≤ b ∧ b ≤ 13)
  | _ => False

theorem RendererOptions.checkWidth_ok_iff {width : Value} :
    checkWidth width = .ok () ↔ width.HasInk := by
  cases width with
  | str s =>
    have hall : Text.allBlank s = false ↔ (Value.str s).HasInk := by
      simp [Text.allBlank, Value.HasInk]
    rw [checkWidth, ← hall]
    cases Text.allBlank s <;> simp
  | bytes data =>
    have hall : (data.all fun b => b == 32 || (9 ≤ b && b ≤ 13)) = false ↔
        (Value.bytes data).HasInk := by
      simp [Value.HasInk]
    rw [checkWidth, ← hall]
    cases data.all fun b => b == 32 || (9 ≤ b && b ≤ 13) <;> simp
  | _ => simp [checkWidth, Value.HasInk]

theorem RendererOptions.hasInk_of_update {o r : RendererOptions} {given : Entries}
    (h : o.update given = .ok r) : r.imageWidth.HasInk := by
  rw [update_eq] at h
  cases hm : ImageMode.ofValue? (o.givenMode given) with
  | none =>
    rw [hm] at h
    cases h
  | some m =>
    rw [hm] at h
    obtain ⟨_, hcheck, rfl⟩ := Outcome.map_eq_ok_iff.mp h
    exact checkWidth_ok_iff.mp hcheck

namespace AnyOptions

/-- **Valid options**: those for rendering have one of the two modes for images, and a width with
something in it. -/
def Valid : AnyOptions → Prop
  | renderer o => (o.imageMode.name = "error" ∨ o.imageMode.name = "skip") ∧ o.imageWidth.HasInk
  | parser _ | template _ => True

theorem default_valid (kind : OptionsKind) : (default kind).Valid := by
  cases kind with
  | parser | template => trivial
  | renderer => exact ⟨.inl rfl, '0', by decide, by decide⟩

/-- **Options that take values are valid**, and have the values in their fields. -/
theorem assign_ok {o p : AnyOptions} {given : Entries} (h : o.assign given = .ok p) :
    p.kind = o.kind ∧ p.Valid ∧ p.fields = filled o.fields given := by
  cases o with
  | parser o | template o =>
    obtain rfl := Except.ok.inj h
    exact ⟨rfl, trivial, rfl⟩
  | renderer o =>
    obtain ⟨r, hr, rfl⟩ := Outcome.map_eq_ok_iff.mp h
    have hfields : r.fields = filled o.fields given := by
      obtain ⟨s, hs, hfields⟩ | ⟨x, hx⟩ | ⟨-, -, hb⟩ := RendererOptions.update_cases o given
      · obtain rfl := Except.ok.inj (hr.symm.trans hs)
        exact hfields
      · cases hr.symm.trans hx
      · cases hr.symm.trans hb
    have hmode : r.imageMode.name = "error" ∨ r.imageMode.name = "skip" := by
      cases r.imageMode with
      | error => exact .inl rfl
      | skip => exact .inr rfl
    exact ⟨rfl, ⟨hmode, RendererOptions.hasInk_of_update hr⟩, hfields⟩

theorem update_ok {o p : AnyOptions} {given : Entries} (h : o.update given = .ok p) :
    o.assign given = .ok p := by
  unfold update at h
  split at h
  · exact h
  · cases h

theorem ofMapping_ok {kind : OptionsKind} {p : AnyOptions} {given : Entries}
    (h : ofMapping kind given = .ok p) : (default kind).assign given = .ok p := by
  unfold ofMapping at h
  dsimp only at h
  split at h
  · exact h
  · split at h
    · cases h
    · cases h

end AnyOptions

theorem filled_nil (fields : List (String × Value)) : filled fields [] = fields := by
  simp [filled, Value.field?, Value.lookup?]

namespace OptionsStep

/-! ### One step -/

/-- The values that a step gives to fields. -/
def given : OptionsStep → Entries
  | defaults => []
  | mapping entries | change entries => entries

/-- A step that does not look at the current options. -/
def StartsAnew : OptionsStep → Prop
  | defaults | mapping _ => True
  | change _ => False

/-- The options that a step takes its values into. -/
def base? (kind : OptionsKind) (current : Option AnyOptions) : OptionsStep → Option AnyOptions
  | defaults | mapping _ => some (.default kind)
  | change _ => current

variable {kind : OptionsKind} {current : Option AnyOptions} {step : OptionsStep} {p : AnyOptions}

/-- **What a step comes to when it succeeds.** -/
theorem result_ok (h : step.result kind current = .ok p) : ∃ b, step.base? kind current = some b ∧
    p.kind = b.kind ∧ p.Valid ∧ p.fields = filled b.fields step.given := by
  cases step with
  | defaults =>
    obtain rfl := Except.ok.inj h
    exact ⟨_, rfl, rfl, AnyOptions.default_valid kind, (filled_nil _).symm⟩
  | mapping entries => exact ⟨_, rfl, AnyOptions.assign_ok (AnyOptions.ofMapping_ok h)⟩
  | change entries =>
    cases current with
    | none => cases h
    | some o => exact ⟨o, rfl, AnyOptions.assign_ok (AnyOptions.update_ok h)⟩

theorem current?_concat (kind : OptionsKind) (steps : List OptionsStep) (step : OptionsStep) :
    current? kind (steps ++ [step]) = step.next kind (current? kind steps) := by
  unfold current?
  rw [List.foldl_append]
  rfl

/-- A further step is answered with what it comes to on the current options. -/
theorem results_concat (kind : OptionsKind) (steps : List OptionsStep) (step : OptionsStep) :
    results kind none (steps ++ [step]) =
      results kind none steps ++ [step.result kind (current? kind steps)] := by
  unfold current?
  generalize (none : Option AnyOptions) = current
  induction steps generalizing current with
  | nil => rfl
  | cons first steps ih =>
    rw [List.cons_append, results, results, ih, List.foldl_cons, List.cons_append]

/-- A step that succeeds makes the current options. -/
theorem current?_concat_of_ok {steps : List OptionsStep}
    (h : step.result kind (current? kind steps) = .ok p) :
    current? kind (steps ++ [step]) = some p := by
  rw [current?_concat, next, h]

/-- A step that fails leaves the current options as they are. -/
theorem current?_concat_of_error {steps : List OptionsStep} {e : Failure}
    (h : step.result kind (current? kind steps) = .error e) :
    current? kind (steps ++ [step]) = current? kind steps := by
  rw [current?_concat, next, h]

/-! ### What was written last -/

/-- The step at a place succeeds with the options that are current there. -/
def SucceedsAt (kind : OptionsKind) (steps : List OptionsStep) (i : Nat) (step : OptionsStep) :
    Prop :=
  steps[i]? = some step ∧ ∃ p, step.result kind (current? kind (steps.take i)) = .ok p

/-- **A value was last written to a field** by a step that succeeded and gives it, if none of the
steps behind it that succeeded starts anew or gives a value to the field. -/
def LastWritten (kind : OptionsKind) (steps : List OptionsStep) (name : String) (v : Value) :
    Prop :=
  ∃ i step, SucceedsAt kind steps i step ∧ Value.field? name step.given = some v ∧
    ∀ j later, i < j → SucceedsAt kind steps j later →
      ¬ later.StartsAnew ∧ Value.field? name later.given = none

variable {steps : List OptionsStep} {name : String} {v : Value}

theorem SucceedsAt.lt {i : Nat} (h : SucceedsAt kind steps i step) : i < steps.length :=
  (List.getElem?_eq_some_iff.mp h.1).1

/-- What succeeds after one more step is what succeeded before, and that step if it does. -/
theorem succeedsAt_concat_iff {last : OptionsStep} {i : Nat} :
    SucceedsAt kind (steps ++ [last]) i step ↔ SucceedsAt kind steps i step ∨
      i = steps.length ∧ step = last ∧ ∃ p, last.result kind (current? kind steps) = .ok p := by
  unfold SucceedsAt
  rcases Nat.lt_trichotomy i steps.length with hi | rfl | hi
  · have hne : i ≠ steps.length := Nat.ne_of_lt hi
    rw [List.getElem?_append_left hi, List.take_append_of_le_length (Nat.le_of_lt hi)]
    simp only [hne, false_and, or_false]
  · have hnone : steps[steps.length]? = none := List.getElem?_eq_none (Nat.le_refl _)
    rw [List.getElem?_concat_length, List.take_left, hnone, Option.some.injEq]
    simp only [reduceCtorEq, false_and, true_and, false_or]
    constructor
    · rintro ⟨rfl, h⟩
      exact ⟨rfl, h⟩
    · rintro ⟨rfl, h⟩
      exact ⟨rfl, h⟩
  · have hne : i ≠ steps.length := Nat.ne_of_gt hi
    have hnone : (steps ++ [last])[i]? = none := by
      apply List.getElem?_eq_none
      rw [List.length_append, List.length_singleton]
      omega
    rw [hnone, List.getElem?_eq_none (Nat.le_of_lt hi)]
    simp only [reduceCtorEq, hne, false_and, or_self]

/-- A step that fails writes nothing. -/
theorem lastWritten_concat_of_error {e : Failure}
    (h : step.result kind (current? kind steps) = .error e) :
    LastWritten kind (steps ++ [step]) name v ↔ LastWritten kind steps name v := by
  have hsame : ∀ i s, SucceedsAt kind (steps ++ [step]) i s ↔ SucceedsAt kind steps i s := by
    intro i s
    rw [succeedsAt_concat_iff, h]
    simp
  simp only [LastWritten, hsame]

/-- A step that succeeds writes the values it gives; it leaves the others as they were written, or
forgets them when it starts anew. -/
theorem lastWritten_concat_iff (h : step.result kind (current? kind steps) = .ok p) :
    LastWritten kind (steps ++ [step]) name v ↔ Value.field? name step.given = some v ∨
      Value.field? name step.given = none ∧ ¬ step.StartsAnew ∧ LastWritten kind steps name v := by
  have hlast : SucceedsAt kind (steps ++ [step]) steps.length step :=
    succeedsAt_concat_iff.mpr (.inr ⟨rfl, rfl, p, h⟩)
  constructor
  · rintro ⟨i, s, hs, hv, hlater⟩
    obtain hs | ⟨rfl, rfl, -⟩ := succeedsAt_concat_iff.mp hs
    · obtain ⟨hanew, hnone⟩ := hlater _ _ hs.lt hlast
      refine .inr ⟨hnone, hanew, i, s, hs, hv, fun j later hij hj => ?_⟩
      exact hlater j later hij (succeedsAt_concat_iff.mpr (.inl hj))
    · exact .inl hv
  · rintro (hv | ⟨hnone, hanew, i, s, hs, hv, hlater⟩)
    · refine ⟨_, step, hlast, hv, fun j later hij hj => ?_⟩
      have hlt := hj.lt
      rw [List.length_append, List.length_singleton] at hlt
      omega
    · refine ⟨i, s, succeedsAt_concat_iff.mpr (.inl hs), hv, fun j later hij hj => ?_⟩
      obtain hj | ⟨rfl, rfl, -⟩ := succeedsAt_concat_iff.mp hj
      · exact hlater j later hij hj
      · exact ⟨hanew, hnone⟩

/-! ### Any steps -/

/-- **Options follow from steps** when they are valid options of the stage with all of its fields,
and every field has the value that was last written to it, or else its default. -/
structure Follows (kind : OptionsKind) (steps : List OptionsStep) (o : AnyOptions) : Prop where
  kind_eq : o.kind = kind
  valid : o.Valid
  names : o.fields.map Prod.fst = (AnyOptions.default kind).fields.map Prod.fst
  written : ∀ name v w, (name, v) ∈ o.fields → LastWritten kind steps name w → v = w
  unwritten : ∀ name v, (name, v) ∈ o.fields → (∀ w, ¬ LastWritten kind steps name w) →
    (name, v) ∈ (AnyOptions.default kind).fields

theorem names_filled (fields : List (String × Value)) (entries : Entries) :
    (filled fields entries).map Prod.fst = fields.map Prod.fst := by
  simp [filled]

theorem default_kind (kind : OptionsKind) : (AnyOptions.default kind).kind = kind := by
  cases kind <;> rfl

/-- A step that succeeds leads from options that follow to options that follow. -/
theorem follows_concat (h : step.result kind (current? kind steps) = .ok p)
    (ih : ∀ o, current? kind steps = some o → Follows kind steps o) :
    Follows kind (steps ++ [step]) p := by
  obtain ⟨b, hbase, hkind, hvalid, hfields⟩ := result_ok h
  have hb : (step.StartsAnew ∧ b = .default kind) ∨ (¬ step.StartsAnew ∧ Follows kind steps b) := by
    cases step with
    | defaults | mapping entries => exact .inl ⟨trivial, (Option.some.inj hbase).symm⟩
    | change entries => exact .inr ⟨id, ih b hbase⟩
  have hmem : ∀ {name v}, (name, v) ∈ p.fields → ∃ u, (name, u) ∈ b.fields ∧
      v = (Value.field? name step.given).getD u := by
    intro name v hv
    rw [hfields] at hv
    obtain ⟨⟨_, u⟩, hu, heq⟩ := List.mem_map.mp hv
    obtain ⟨rfl, rfl⟩ := Prod.mk.inj heq
    exact ⟨u, hu, rfl⟩
  refine ⟨?_, hvalid, ?_, fun name v w hv hw => ?_, fun name v hv hno => ?_⟩
  · obtain ⟨-, rfl⟩ | ⟨-, hb⟩ := hb
    · exact hkind.trans (default_kind kind)
    · exact hkind.trans hb.kind_eq
  · rw [hfields, names_filled]
    obtain ⟨-, rfl⟩ | ⟨-, hb⟩ := hb
    · rfl
    · exact hb.names
  · obtain ⟨u, hu, rfl⟩ := hmem hv
    obtain hgiven | ⟨hgiven, hanew, hw⟩ := (lastWritten_concat_iff h).mp hw
    · rw [hgiven, Option.getD_some]
    · obtain ⟨habsurd, -⟩ | ⟨-, hb⟩ := hb
      · exact absurd habsurd hanew
      · rw [hgiven, Option.getD_none]
        exact hb.written name u w hu hw
  · obtain ⟨u, hu, rfl⟩ := hmem hv
    have hgiven : Value.field? name step.given = none := by
      cases hg : Value.field? name step.given with
      | none => rfl
      | some w => exact absurd ((lastWritten_concat_iff h).mpr (.inl hg)) (hno w)
    rw [hgiven, Option.getD_none]
    obtain ⟨-, rfl⟩ | ⟨hanew, hb⟩ := hb
    · exact hu
    · refine hb.unwritten name u hu fun w hw => hno w ?_
      exact (lastWritten_concat_iff h).mpr (.inr ⟨hgiven, hanew, hw⟩)

/-- A step that fails changes nothing of what follows. -/
theorem Follows.concat_of_error {o : AnyOptions} {e : Failure} (ho : Follows kind steps o)
    (h : step.result kind (current? kind steps) = .error e) :
    Follows kind (steps ++ [step]) o := by
  obtain ⟨hkind, hvalid, hnames, hwritten, hunwritten⟩ := ho
  refine ⟨hkind, hvalid, hnames, fun name v w hv hw => ?_, fun name v hv hno => ?_⟩
  · exact hwritten name v w hv ((lastWritten_concat_of_error h).mp hw)
  · exact hunwritten name v hv fun w hw => hno w ((lastWritten_concat_of_error h).mpr hw)

theorem current?_follows (kind : OptionsKind) (steps : List OptionsStep) :
    ∀ o, current? kind steps = some o → Follows kind steps o := by
  induction steps using List.reverseRecOn with
  | nil =>
    intro o ho
    cases ho
  | append_singleton steps step ih =>
    intro o ho
    cases hresult : step.result kind (current? kind steps) with
    | ok p =>
      rw [current?_concat_of_ok hresult] at ho
      obtain rfl := Option.some.inj ho
      exact follows_concat hresult ih
    | error e =>
      rw [current?_concat_of_error hresult] at ho
      exact (ih o ho).concat_of_error hresult

/-- **The last writer wins**: after any steps, of which any may have failed, the current options are
valid and every field has the value of the last step that succeeded and gives it one, if no step
that started anew succeeded since, and else its default. A further step is answered with what it
comes to on them, and leaves them as they are when it fails. -/
theorem last_writer_wins (kind : OptionsKind) (steps : List OptionsStep) :
    (∀ o, current? kind steps = some o → Follows kind steps o) ∧
      ∀ step, results kind none (steps ++ [step]) =
          results kind none steps ++ [step.result kind (current? kind steps)] ∧
        ∀ e, step.result kind (current? kind steps) = .error e →
          current? kind (steps ++ [step]) = current? kind steps :=
  ⟨current?_follows kind steps, fun step =>
    ⟨results_concat kind steps step, fun _ => current?_concat_of_error⟩⟩

/-- Options are built, and changed three times; one of the changes is refused. -/
def widthSteps : List OptionsStep :=
  [.mapping [(.str "escape_special", .bool true), (.str "image_width", .str "1cm")],
    .change [(.str "block_separator", .str "\n"), (.str "escape_special", .bool false)],
    .change [(.str "block_separator", .str ""), (.str "image_width", .str " ")],
    .change [(.str "unsupported_image_mode", .str "skip")]]

/-- The width is still the one that the options were built with, the separator the one of the change
before the refused one; another mode is refused as well. -/
theorem last_writer_wins_width :
    let o : AnyOptions := .renderer
      { escapeSpecial := .bool false, imageWidth := .str "1cm", imageMode := .skip,
        blockSeparator := .str "\n" }
    let drop : OptionsStep := .change [(.str "unsupported_image_mode", .str "drop")]
    current? .renderer widthSteps = some o ∧ Follows .renderer widthSteps o ∧
      drop.result .renderer (some o) = .error (.rejection (.imageMode (.str "drop"))) ∧
      current? .renderer (widthSteps ++ [drop]) = some o := by
  intro o drop
  have hcurrent : current? .renderer widthSteps = some o := rfl
  have hdrop : drop.result .renderer (some o) = .error (.rejection (.imageMode (.str "drop"))) :=
    rfl
  obtain ⟨hfollows, hfailed⟩ := last_writer_wins .renderer widthSteps
  refine ⟨hcurrent, hfollows o hcurrent, hdrop, ?_⟩
  rw [(hfailed drop).2 _ (by rw [hcurrent]; exact hdrop), hcurrent]

end OptionsStep

end Manuscript
