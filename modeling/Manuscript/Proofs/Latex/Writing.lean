import Manuscript.Latex.Renderer
import Manuscript.Proofs.Run
import Mathlib.Tactic.Convert

/-!
Steps that only add to the page. `Writes step r` says that `step` puts pieces in front of whatever
the page holds, that the pieces join to the text of the run `r`, and that it logs and fails as `r`
does. Steps of this kind are closed under sequence, capture and repetition along a list, and such a
step is told by what it does alone, on an empty page (`Writes.alone_eq`).
-/

namespace Manuscript.Latex

open Writing

variable {α β : Type}

/-! ### Running steps -/

theorem bind_of_ok {x : Writing α} {p q : Page} {a : α} (h : x p = .ok a q) (f : α → Writing β) :
    (x >>= f) p = f a q := by
  show EStateM.bind x f p = _
  unfold EStateM.bind
  rw [h]

theorem bind_of_error {x : Writing α} {p q : Page} {e : Failure} (h : x p = .error e q)
    (f : α → Writing β) : (x >>= f) p = .error e q := by
  show EStateM.bind x f p = _
  unfold EStateM.bind
  rw [h]

theorem joinPieces_append {newer older : List Value} {s t : String}
    (hs : joinPieces older = some s) (ht : joinPieces newer = some t) :
    joinPieces (newer ++ older) = some (s ++ t) := by
  induction newer generalizing t with
  | nil =>
    obtain rfl : "" = t := Option.some.inj ht
    simpa using hs
  | cons v newer ih =>
    cases v with
    | str u =>
      obtain ⟨t', ht', rfl⟩ := Option.map_eq_some_iff.mp ht
      simp only [List.cons_append, joinPieces, ih ht', Option.map_some, String.append_assoc]
    | _ => simp [joinPieces] at ht

theorem gather_of_joinPieces {p : Page} {s : String} (h : joinPieces p.output = some s) :
    gather p = .ok s p := by
  have hp : (get : Writing Page) p = .ok p p := rfl
  unfold gather
  rw [bind_of_ok hp]
  simp only [h]
  rfl

theorem gather_of_joinPieces_none {p : Page} (h : joinPieces p.output = none) :
    gather p = .error (.breakdown .wrongType) p := by
  unfold gather
  rw [bind_of_ok (show (get : Writing Page) p = .ok p p from rfl)]
  simp only [h]
  rfl

/-- What a step comes to on an empty page. -/
def alone (step : Writing Unit) : Run String :=
  match (do step; gather) ⟨[], []⟩ with
  | .ok s p => ⟨.ok s, p.log⟩
  | .error e p => ⟨.error e, p.log⟩

/-! ### Steps that only add to the page -/

/-- **A step writes a run**: whatever the page, it puts the pieces of the run's text in front of the
output and the run's records behind the log, and fails as the run does. -/
structure Writes (step : Writing Unit) (r : Run String) : Prop where
  onOk {s : String} : r.outcome = .ok s → ∃ pieces, joinPieces pieces = some s ∧
    ∀ p, step p = .ok () ⟨pieces ++ p.output, p.log ++ r.log⟩
  onError {e : Failure} : r.outcome = .error e → ∃ pieces,
    ∀ p, step p = .error e ⟨pieces ++ p.output, p.log ++ r.log⟩

namespace Writes

variable {step next : Writing Unit} {r t : Run String}

theorem nothing : Writes (pure ()) (pure "") where
  onOk h := by
    obtain rfl := Except.ok.inj h
    refine ⟨[], rfl, fun p => ?_⟩
    show EStateM.Result.ok () p = _
    simp
  onError h := by cases h

theorem piece (s : String) : Writes (emit (.str s)) (pure s) where
  onOk h := by
    obtain rfl := Except.ok.inj h
    refine ⟨[.str s], by simp [joinPieces], fun p => ?_⟩
    show EStateM.Result.ok () { p with output := .str s :: p.output } = _
    simp
  onError h := by cases h

theorem text (s : String) : Writes (emitText s) (pure s) := piece s

theorem failure (e : Failure) : Writes (throw e) (Run.fail e) where
  onOk h := by cases h
  onError h := by
    obtain rfl := Except.error.inj h
    refine ⟨[], fun p => ?_⟩
    show EStateM.Result.error e p = _
    simp [Run.fail]

theorem record (x : Record) : Writes (ofRun (Run.write x)) ⟨.ok "", [x]⟩ where
  onOk h := by
    obtain rfl := Except.ok.inj h
    exact ⟨[], rfl, fun p => rfl⟩
  onError h := by cases h

/-- A run whose text is written as one piece. -/
theorem ofRun (r : Run String) : Writes (do emitText (← Writing.ofRun r)) r where
  onOk {s} h := by
    refine ⟨[.str s], by simp [joinPieces], fun p => ?_⟩
    have hr : Writing.ofRun r p = .ok s { p with log := p.log ++ r.log } := by
      simp only [Writing.ofRun, h]
    exact bind_of_ok hr _
  onError {e} h := by
    refine ⟨[], fun p => ?_⟩
    have hr : Writing.ofRun r p = .error e { p with log := p.log ++ r.log } := by
      simp only [Writing.ofRun, h]
    exact bind_of_error hr _

theorem seq (ha : Writes step r) (hb : Writes next t) :
    Writes (step >>= fun _ => next) (do let s ← r; let u ← t; pure (s ++ u)) := by
  cases hr : r.outcome with
  | error e =>
    obtain ⟨pieces, hstep⟩ := ha.onError hr
    rw [Run.bind_of_error hr]
    refine ⟨fun h => (by cases h), fun h => ?_⟩
    obtain rfl := Except.error.inj h
    exact ⟨pieces, fun p => bind_of_error (hstep p) _⟩
  | ok s =>
    obtain ⟨pieces, hjoin, hstep⟩ := ha.onOk hr
    rw [Run.bind_of_ok hr]
    cases ht : t.outcome with
    | error e =>
      obtain ⟨more, hnext⟩ := hb.onError ht
      rw [Run.bind_of_error ht]
      refine ⟨fun h => (by cases h), fun h => ?_⟩
      obtain rfl := Except.error.inj h
      refine ⟨more ++ pieces, fun p => ?_⟩
      rw [bind_of_ok (hstep p), hnext]
      simp only [List.append_assoc]
    | ok u =>
      obtain ⟨more, hmore, hnext⟩ := hb.onOk ht
      rw [Run.bind_of_ok ht]
      refine ⟨fun h => ?_, fun h => by cases h⟩
      obtain rfl := Except.ok.inj h
      refine ⟨more ++ pieces, joinPieces_append hjoin hmore, fun p => ?_⟩
      rw [bind_of_ok (hstep p), hnext]
      simp [List.append_assoc]

/-- A step that starts on an empty output, its pieces gathered at the end, ends as the run does. -/
theorem gathered (h : Writes step r) (p : Page) :
    ∃ out, (do step; gather : Writing String) { p with output := [] } =
      match r.outcome with
      | .ok s => .ok s ⟨out, p.log ++ r.log⟩
      | .error e => .error e ⟨out, p.log ++ r.log⟩ := by
  cases hr : r.outcome with
  | ok s =>
    obtain ⟨pieces, hjoin, hstep⟩ := h.onOk hr
    refine ⟨pieces ++ [], ?_⟩
    rw [bind_of_ok (hstep _), gather_of_joinPieces (by simpa using hjoin)]
  | error e =>
    obtain ⟨pieces, hstep⟩ := h.onError hr
    exact ⟨pieces ++ [], bind_of_error (hstep _) _⟩

/-- **A step that writes a run comes to that run on an empty page.** -/
theorem alone_eq (h : Writes step r) : alone step = r := by
  obtain ⟨out, hp⟩ := h.gathered ⟨[], []⟩
  unfold alone
  rw [hp]
  cases hr : r.outcome <;> ext1 <;> simp [hr]

/-- A step that writes any run at all writes what it comes to alone. -/
theorem self (h : Writes step r) : Writes step (alone step) := h.alone_eq.symm ▸ h

/-- What was captured on a page of its own goes to the page around it as one piece; the output that
was put aside comes back unchanged. -/
theorem captured (h : Writes step r) (f : String → String) :
    Writes (do let s ← capture step; emitText (f s)) (f <$> r) where
  onOk {s'} hs := by
    cases hr : r.outcome with
    | error e => simp [hr, Except.map] at hs
    | ok s =>
      obtain rfl : f s = s' := by simpa [hr, Except.map] using hs
      refine ⟨[.str (f s)], by simp [joinPieces], fun p => ?_⟩
      have hc : capture step p = .ok s { p with log := p.log ++ r.log } := by
        obtain ⟨out, hp⟩ := h.gathered p
        simp only [hr] at hp
        simp only [capture, hp]
      rw [bind_of_ok hc, Run.log_map]
      rfl
  onError {e} he := by
    cases hr : r.outcome with
    | ok s => simp [hr, Except.map] at he
    | error e' =>
      obtain rfl : e' = e := by simpa [hr, Except.map] using he
      refine ⟨[], fun p => ?_⟩
      have hc : capture step p = .error e' { p with log := p.log ++ r.log } := by
        obtain ⟨out, hp⟩ := h.gathered p
        simp only [hr] at hp
        simp only [capture, hp]
      rw [bind_of_error hc, Run.log_map]
      rfl

/-- A loop over a list writes the runs of its elements one after the other. -/
theorem each {f : α → Writing Unit} {g : α → Run String} {loop : List α → Writing Unit}
    (nil : loop [] = pure ()) (cons : ∀ a as, loop (a :: as) = f a >>= fun _ => loop as) :
    ∀ {l : List α}, (∀ a ∈ l, Writes (f a) (g a)) →
      Writes (loop l) (String.join <$> l.mapM g)
  | [], _ => by
    rw [nil, List.mapM_nil, map_pure, String.join_nil]
    exact nothing
  | a :: as, h => by
    have ha := h a (by simp)
    have has := each nil cons (l := as) fun b hb => h b (by simp [hb])
    rw [cons]
    convert ha.seq has using 1
    simp only [List.mapM_cons, map_bind, map_pure, String.join_cons, bind_map_left]

end Writes

end Manuscript.Latex
