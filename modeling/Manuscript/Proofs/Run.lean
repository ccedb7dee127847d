import Manuscript.Log

/-!
Runs form a lawful monad, and a run over a list stops at the first failure:

* `mapM_succeeds_iff`: it succeeds iff every element does;
* `mapM_error_iff`: it fails iff some element does, with what the first failing one says.
-/

namespace Manuscript.Run

variable {α β γ : Type}

/-! ### Laws -/

@[ext] theorem ext {r s : Run α} (ho : r.outcome = s.outcome) (hl : r.log = s.log) : r = s := by
  cases r; cases s
  simp only at ho hl
  rw [ho, hl]

theorem bind_of_ok {r : Run α} {a : α} (h : r.outcome = .ok a) (f : α → Run β) :
    r >>= f = ⟨(f a).outcome, r.log ++ (f a).log⟩ := by
  show Run.bind r f = _
  unfold Run.bind
  rw [h]

theorem bind_of_error {r : Run α} {e : Failure} (h : r.outcome = .error e) (f : α → Run β) :
    r >>= f = ⟨.error e, r.log⟩ := by
  show Run.bind r f = _
  unfold Run.bind
  rw [h]

instance : LawfulMonad Run := LawfulMonad.mk' Run
  (by
    intro α r
    show Run.bind r (fun a => Run.pure a) = r
    cases h : r.outcome with
    | ok a => ext1 <;> simp [Run.bind, Run.pure, h]
    | error e => ext1 <;> simp [Run.bind, h])
  (by intro α β a f; rfl)
  (by
    intro α β γ r f g
    cases h : r.outcome with
    | error e =>
      have hr : (r >>= f).outcome = .error e := by rw [bind_of_error h f]
      rw [bind_of_error hr g, bind_of_error h f, bind_of_error h]
    | ok a =>
      rw [bind_of_ok h fun x => f x >>= g]
      cases hf : (f a).outcome with
      | error e =>
        have hr : (r >>= f).outcome = .error e := by rw [bind_of_ok h f, hf]
        rw [bind_of_error hr g, bind_of_error hf g, bind_of_ok h f]
      | ok b =>
        have hr : (r >>= f).outcome = .ok b := by rw [bind_of_ok h f, hf]
        rw [bind_of_ok hr g, bind_of_ok hf g, bind_of_ok h f, List.append_assoc])

@[simp] theorem outcome_pure (a : α) : (Pure.pure a : Run α).outcome = .ok a := rfl

@[simp] theorem log_pure (a : α) : (Pure.pure a : Run α).log = [] := rfl

@[simp] theorem outcome_map (f : α → β) (r : Run α) : (f <$> r).outcome = r.outcome.map f := by
  rw [← bind_pure_comp]
  cases h : r.outcome with
  | ok a => rw [bind_of_ok h]; rfl
  | error e => rw [bind_of_error h]; rfl

@[simp] theorem log_map (f : α → β) (r : Run α) : (f <$> r).log = r.log := by
  rw [← bind_pure_comp]
  cases h : r.outcome with
  | ok a => rw [bind_of_ok h]; exact List.append_nil _
  | error e => rw [bind_of_error h]

theorem outcome_bind (r : Run α) (f : α → Run β) :
    (r >>= f).outcome = r.outcome >>= fun a => (f a).outcome := by
  cases h : r.outcome with
  | ok a => rw [bind_of_ok h]; rfl
  | error e => rw [bind_of_error h]; rfl

theorem bind_ok_iff {r : Run α} {f : α → Run β} {b : β} :
    (r >>= f).outcome = .ok b ↔ ∃ a, r.outcome = .ok a ∧ (f a).outcome = .ok b := by
  cases h : r.outcome with
  | ok a => rw [bind_of_ok h]; simp
  | error e => rw [bind_of_error h]; simp

theorem bind_error_iff {r : Run α} {f : α → Run β} {e : Failure} :
    (r >>= f).outcome = .error e ↔
      r.outcome = .error e ∨ ∃ a, r.outcome = .ok a ∧ (f a).outcome = .error e := by
  cases h : r.outcome with
  | ok a => rw [bind_of_ok h]; simp
  | error e' => rw [bind_of_error h]; simp

/-! ### Runs over a list -/

theorem mapM_map_comp (g : β → γ) (f : α → Run β) (as : List α) :
    (as.mapM fun a => g <$> f a) = List.map g <$> as.mapM f := by
  induction as with
  | nil => rfl
  | cons a as ih =>
    rw [List.mapM_cons, List.mapM_cons, ih]
    simp only [bind_map_left, map_bind, map_pure, List.map_cons]

theorem mapM_succeeds_iff {f : α → Run β} : ∀ {l : List α},
    (∃ bs, (l.mapM f).outcome = .ok bs) ↔ ∀ a ∈ l, ∃ b, (f a).outcome = .ok b
  | [] => by simp
  | a :: as => by
    rw [List.mapM_cons, List.forall_mem_cons, ← mapM_succeeds_iff]
    simp only [bind_ok_iff, outcome_pure, Except.ok.injEq]
    constructor
    · rintro ⟨-, b, hb, bs, hbs, -⟩
      exact ⟨⟨b, hb⟩, bs, hbs⟩
    · rintro ⟨⟨b, hb⟩, bs, hbs⟩
      exact ⟨b :: bs, b, hb, bs, hbs, rfl⟩

theorem mapM_error_iff {f : α → Run β} {e : Failure} : ∀ {l : List α},
    (l.mapM f).outcome = .error e ↔ ∃ before a after, l = before ++ a :: after ∧
      (∀ b ∈ before, ∃ x, (f b).outcome = .ok x) ∧ (f a).outcome = .error e
  | [] => by simp
  | a :: as => by
    rw [List.mapM_cons, bind_error_iff]
    simp only [bind_error_iff, mapM_error_iff (l := as), outcome_pure, reduceCtorEq, and_false,
      exists_false, or_false]
    constructor
    · rintro (h | ⟨x, hx, before, b, after, rfl, hbefore, hb⟩)
      · exact ⟨[], a, as, rfl, by simp, h⟩
      · refine ⟨a :: before, b, after, rfl, ?_, hb⟩
        intro c hc
        rcases List.mem_cons.mp hc with rfl | hc
        · exact ⟨x, hx⟩
        · exact hbefore c hc
    · rintro ⟨before, b, after, heq, hbefore, hb⟩
      rcases before with _ | ⟨c, before⟩
      · obtain ⟨rfl, rfl⟩ := List.cons.inj heq
        exact .inl hb
      · obtain ⟨rfl, rfl⟩ := List.cons.inj heq
        obtain ⟨x, hx⟩ := hbefore a (by simp)
        exact .inr ⟨x, hx, before, b, after, rfl, fun d hd => hbefore d (by simp [hd]), hb⟩

end Manuscript.Run
