import Manuscript.Fault

/-!
# What an outcome yields

A property of its result, and the kinds of faults it can fail with. Both are carried along
sequences and loops together (`Yields`), so that one induction over a recursive builder tells the
shape of what it builds and what it complains of. Where the faults do not matter, it is enough to
say what an outcome ensures of its result (`Ensures`). Where all that can go wrong is known
beforehand, in order, it tells whether an outcome fails and with what (`StopsAt`).
-/

namespace Manuscript

variable {α β : Type}

namespace Outcome

variable {r : Outcome α} {e : Failure}

theorem map_eq_ok_iff {f : α → β} {b : β} : r.map f = .ok b ↔ ∃ a, r = .ok a ∧ f a = b := by
  cases r <;> simp [Except.map]

theorem map_eq_error_iff {f : α → β} : r.map f = .error e ↔ r = .error e := by
  cases r <;> simp [Except.map]

theorem bind_eq_error_iff {f : α → Outcome β} :
    (r >>= f) = .error e ↔ r = .error e ∨ ∃ a, r = .ok a ∧ f a = .error e := by
  cases r <;> simp [bind, Except.bind]

/-- An outcome that is settled, or else breaks down in a way that is told, is settled exactly if
there is no such way, and it breaks down in no other. -/
theorem settled_iff_of_cases {settled : Prop} {breaks : Breakdown → Prop}
    (hcases : settled ∨ ∃ b, breaks b) (hsettled : settled → ∀ b, r ≠ .error (.breakdown b))
    (hbreaks : ∀ b, breaks b → r = .error (.breakdown b)) :
    (settled ↔ ∀ b, ¬ breaks b) ∧ ∀ b, r = .error (.breakdown b) ↔ breaks b := by
  refine ⟨⟨fun h b hb => hsettled h b (hbreaks b hb), hcases.resolve_right ∘ not_exists.mpr⟩,
    fun b => ⟨fun hr => ?_, hbreaks b⟩⟩
  obtain h | ⟨c, hc⟩ := hcases
  · exact absurd hr (hsettled h b)
  · cases hr.symm.trans (hbreaks c hc)
    exact hc

end Outcome

/-- **An outcome yields `p`**: a result satisfies it, and a fault is of one of the kinds.
Rejections and breakdowns are no faults. -/
structure Yields (kinds : List FaultKind) (p : α → Prop) (r : Outcome α) : Prop where
  onOk {a : α} : r = .ok a → p a
  onFault {f : Fault} : r = .error (.fault f) → f.kind ∈ kinds

namespace Yields

variable {kinds : List FaultKind} {p : α → Prop} {q : β → Prop} {r : Outcome α}

theorem ok {a : α} (h : p a) : Yields kinds p (.ok a) where
  onOk ha := by
    obtain rfl := Except.ok.inj ha
    exact h
  onFault hf := by cases hf

theorem fault {f : Fault} (h : f.kind ∈ kinds) : Yields kinds p (.error (.fault f)) where
  onOk ha := by cases ha
  onFault hf := by
    obtain rfl := Failure.fault.inj (Except.error.inj hf)
    exact h

theorem breakdown (b : Breakdown) : Yields kinds p (.error (.breakdown b)) where
  onOk ha := by cases ha
  onFault hf := by cases hf

theorem rejection (x : Rejection) : Yields kinds p (.error (.rejection x)) where
  onOk ha := by cases ha
  onFault hf := by cases hf

/-- A failure says nothing about results. -/
theorem of_error {e : Failure} (h : Yields kinds p (.error e)) : Yields kinds q (.error e) where
  onOk hb := by cases hb
  onFault hf := by
    obtain rfl := Except.error.inj hf
    exact h.onFault rfl

/-- A fault of another kind does not come up. -/
theorem ne_fault (h : Yields kinds p r) {f : Fault} (hf : f.kind ∉ kinds) :
    r ≠ .error (.fault f) := fun hr => hf (h.onFault hr)

theorem widen {wider : List FaultKind} (h : Yields kinds p r) (hk : ∀ k ∈ kinds, k ∈ wider) :
    Yields wider p r where
  onOk ha := h.onOk ha
  onFault hf := hk _ (h.onFault hf)

theorem bind {f : α → Outcome β} (h : Yields kinds p r) (hf : ∀ a, p a → Yields kinds q (f a)) :
    Yields kinds q (r >>= f) := by
  cases r with
  | ok a => exact hf a (h.onOk rfl)
  | error e => exact h.of_error

theorem map {f : α → β} (h : Yields kinds p r) (hf : ∀ a, p a → q (f a)) :
    Yields kinds q (r.map f) := by
  cases r with
  | ok a => exact ok (hf a (h.onOk rfl))
  | error e => exact h.of_error

theorem mapM {f : α → Outcome β} : ∀ {l : List α}, (∀ a ∈ l, Yields kinds q (f a)) →
    Yields kinds (∀ b ∈ ·, q b) (l.mapM f)
  | [], _ => ok (by simp)
  | a :: l, h => by
    rw [List.mapM_cons]
    refine (h a (by simp)).bind fun b hb => ?_
    refine (mapM fun c hc => h c (by simp [hc])).bind fun bs hbs => ok ?_
    exact List.forall_mem_cons.mpr ⟨hb, hbs⟩

end Yields

/-- **An outcome ensures `p`**: a result satisfies it. -/
def Ensures (p : α → Prop) (r : Outcome α) : Prop := ∀ a, r = .ok a → p a

namespace Ensures

variable {p : α → Prop} {q : β → Prop} {r : Outcome α}

theorem ok {a : α} (h : p a) : Ensures p (.ok a) := by
  intro b hb
  obtain rfl := Except.ok.inj hb
  exact h

theorem error (e : Failure) : Ensures p (.error e) := by
  intro a ha
  cases ha

theorem bind {f : α → Outcome β} (h : Ensures p r) (hf : ∀ a, p a → Ensures q (f a)) :
    Ensures q (r >>= f) := by
  cases r with
  | ok a => exact hf a (h a rfl)
  | error e => exact error e

/-- The result of a first step need not be known. -/
theorem of_forall_bind {f : α → Outcome β} (hf : ∀ a, Ensures q (f a)) : Ensures q (r >>= f) := by
  cases r with
  | ok a => exact hf a
  | error e => exact error e

theorem of_forall_map {f : α → β} (hf : ∀ a, q (f a)) : Ensures q (r.map f) := by
  cases r with
  | ok a => exact ok (hf a)
  | error e => exact error e

theorem mapM {f : α → Outcome β} : ∀ {l : List α}, (∀ a ∈ l, Ensures q (f a)) →
    Ensures (∀ b ∈ ·, q b) (l.mapM f)
  | [], _ => ok (by simp)
  | a :: l, h => by
    rw [List.mapM_cons]
    refine (h a List.mem_cons_self).bind fun b hb => ?_
    refine (mapM fun c hc => h c (List.mem_cons_of_mem _ hc)).bind fun bs hbs => ok ?_
    exact List.forall_mem_cons.mpr ⟨hb, hbs⟩

end Ensures

/-- **An outcome stops at the first of some things** when it fails as the first of them does, and
has a result if there are none. -/
def StopsAt {ι : Type} (failure : ι → Failure) (things : List ι) (r : Outcome α) : Prop :=
  match things with
  | [] => ∃ a, r = .ok a
  | i :: _ => r = .error (failure i)

namespace StopsAt

variable {ι : Type} {failure : ι → Failure} {things more : List ι} {r : Outcome α}

theorem ok (a : α) : StopsAt failure [] (.ok a : Outcome α) := ⟨a, rfl⟩

theorem bind {f : α → Outcome β} (h : StopsAt failure things r)
    (hf : ∀ a, StopsAt failure more (f a)) : StopsAt failure (things ++ more) (r >>= f) := by
  cases things with
  | nil =>
    obtain ⟨a, rfl⟩ := h
    exact hf a
  | cons i things =>
    obtain rfl : r = .error (failure i) := h
    rfl

theorem append_nil (h : StopsAt failure things r) : StopsAt failure (things ++ []) r := by
  rwa [List.append_nil]

/-- What comes after the last of the things does not fail. -/
theorem andThen {f : α → Outcome β} (h : StopsAt failure things r)
    (hf : ∀ a, StopsAt failure [] (f a)) : StopsAt failure things (r >>= f) := by
  rw [← List.append_nil things]
  exact h.bind hf

/-- Things that fail alike can be told by another list. -/
theorem of_map {κ : Type} {other : κ → Failure} {g : κ → ι} {others : List κ}
    (h : StopsAt failure (others.map g) r) (hg : ∀ k, failure (g k) = other k) :
    StopsAt other others r := by
  cases others with
  | nil => exact h
  | cons k others => exact (show r = .error (failure (g k)) from h).trans (by rw [hg])

theorem map {f : α → β} (h : StopsAt failure things r) : StopsAt failure things (r.map f) :=
  h.andThen fun a => ok (f a)

theorem mapM {γ : Type} {g : γ → List ι} {f : γ → Outcome α} {l : List γ}
    (h : ∀ c ∈ l, StopsAt failure (g c) (f c)) : StopsAt failure (l.flatMap g) (l.mapM f) := by
  induction l with
  | nil => exact ok []
  | cons c l ih =>
    obtain ⟨hc, hl⟩ := List.forall_mem_cons.mp h
    rw [List.mapM_cons, List.flatMap_cons]
    exact hc.bind fun a => (ih hl).andThen fun _ => ok _

theorem error_iff (h : StopsAt failure things r) {e : Failure} :
    r = .error e ↔ ∃ i, things.head? = some i ∧ failure i = e := by
  cases things with
  | nil =>
    obtain ⟨a, rfl⟩ := h
    simp
  | cons i things =>
    obtain rfl : r = .error (failure i) := h
    simp

theorem ok_iff (h : StopsAt failure things r) : (∃ a, r = .ok a) ↔ things = [] := by
  cases things with
  | nil => exact iff_of_true h rfl
  | cons i things =>
    obtain rfl : r = .error (failure i) := h
    simp

end StopsAt

end Manuscript
