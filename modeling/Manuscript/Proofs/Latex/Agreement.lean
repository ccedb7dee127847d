import Manuscript.Proofs.Latex.Reuse

/-!
# Renderings that come to the same

What a rendering comes to is the text of the pieces on its page, or a failure; how the text was cut
into pieces does not count, nor what was logged on the way. So two pages are `Alike` when they join
to the same text, and two steps agree (`Agree`) when on pages that are alike they end alike.

* `Local.agree`: a step that does not look at the page agrees with itself;
* `Agree.seq`, `Agree.captured`, `Agree.each`: sequence, capture and repetition keep agreement;
* `Agree.outcome_eq`: trees whose steps agree come to the same text or the same failure.
-/

namespace Manuscript.Latex

open Writing

variable {o : RendererOptions} {α β : Type}

/-! ### Pages and endings -/

/-- Pages that are alike: their pieces join to the same text, or to none on either. -/
def Page.Alike (p q : Page) : Prop := joinPieces p.output = joinPieces q.output

theorem joinPieces_append_congr {older older' : List Value}
    (h : joinPieces older = joinPieces older') :
    ∀ newer : List Value, joinPieces (newer ++ older) = joinPieces (newer ++ older')
  | [] => h
  | .str s :: newer => by
    simp only [List.cons_append, joinPieces, joinPieces_append_congr h newer]
  | .null :: _ | .bool _ :: _ | .int _ :: _ | .float _ :: _ | .bytes _ :: _ | .date _ :: _
  | .time _ :: _ | .datetime _ _ :: _ | .list _ :: _ | .tuple _ :: _ | .set _ :: _ | .map _ :: _
  | .type _ :: _ => rfl

/-- Endings that are alike: the same result on pages that are alike, or the same failure. -/
inductive SameEnd : EStateM.Result Failure Page α → EStateM.Result Failure Page α → Prop where
  | ok {a : α} {p q : Page} (h : p.Alike q) : SameEnd (.ok a p) (.ok a q)
  | error (e : Failure) (p q : Page) : SameEnd (.error e p) (.error e q)

/-- **Two steps agree**: on pages that are alike they end alike. -/
def Agree (x y : Writing α) : Prop := ∀ p q : Page, p.Alike q → SameEnd (x p) (y q)

/-! ### Steps that agree -/

/-- A step that does not look at the page agrees with itself. -/
theorem Local.agree {step : Writing α} (h : Local step) : Agree step step := by
  obtain ⟨outcome, pieces, log, hstep⟩ := h
  intro p q hpq
  rw [hstep p, hstep q]
  cases outcome with
  | ok a => exact .ok (joinPieces_append_congr hpq pieces)
  | error e => exact .error e _ _

namespace Agree

/-- What a step logs does not count. -/
theorem run {r s : Run α} (h : r.outcome = s.outcome) : Agree (ofRun r) (ofRun s) := by
  intro p q hpq
  simp only [ofRun, h]
  cases s.outcome with
  | ok a => exact .ok hpq
  | error e => exact .error e _ _

theorem gathered : Agree gather gather := by
  intro p q hpq
  cases hp : joinPieces p.output with
  | some s =>
    rw [gather_of_joinPieces hp, gather_of_joinPieces (hpq ▸ hp)]
    exact .ok hpq
  | none =>
    rw [gather_of_joinPieces_none hp, gather_of_joinPieces_none (hpq ▸ hp)]
    exact .error _ _ _

theorem seq {x y : Writing α} {f g : α → Writing β} (hx : Agree x y) (hf : ∀ a, Agree (f a) (g a)) :
    Agree (x >>= f) (y >>= g) := by
  intro p q hpq
  have h := hx p q hpq
  generalize hp : x p = left at h
  generalize hq : y q = right at h
  cases h with
  | @ok a p' q' hpq' =>
    rw [bind_of_ok hp, bind_of_ok hq]
    exact hf a p' q' hpq'
  | error e p' q' =>
    rw [bind_of_error hp, bind_of_error hq]
    exact .error e p' q'

/-- A text that is written as one piece, whatever is logged with it. -/
theorem written {r s : Run String} (h : r.outcome = s.outcome) :
    Agree (do emitText (← ofRun r)) (do emitText (← ofRun s)) :=
  (run h).seq fun t => (Local.piece (.str t)).agree

/-- A step that only logs leaves no trace. -/
theorem logged {r : Run α} {a : α} (h : r.outcome = .ok a) : Agree (ofRun r) (pure a) := by
  intro p q hpq
  simp only [ofRun, h]
  exact .ok hpq

/-- A blank piece leaves no trace, whatever is logged with it. -/
theorem blank {r : Run String} (h : r.outcome = .ok "") :
    Agree (do emitText (← ofRun r)) (pure ()) := by
  intro p q hpq
  have hrun : ofRun r p = .ok "" { p with log := p.log ++ r.log } := by simp only [ofRun, h]
  rw [bind_of_ok hrun]
  refine .ok ?_
  show (joinPieces p.output).map (· ++ "") = joinPieces q.output
  rw [← hpq]
  simp

/-- Captures start on an empty output, so they agree as their steps do, and leave the outputs around
them alike. -/
theorem captured {x y : Writing Unit} (h : Agree x y) : Agree (capture x) (capture y) := by
  intro p q hpq
  have hinner := (h.seq fun _ => gathered) { p with output := [] } { q with output := [] } rfl
  unfold capture
  generalize (x >>= fun _ => gather) { p with output := [] } = left at hinner ⊢
  generalize (y >>= fun _ => gather) { q with output := [] } = right at hinner ⊢
  cases hinner with
  | ok _ => exact .ok hpq
  | error e _ _ => exact .error e _ _

/-- Loops over a list and over its image agree if the steps for each element and its image do. -/
theorem each {γ : Type} (step : γ → Writing Unit) {loop : List γ → Writing Unit} (φ : γ → γ)
    (nil : loop [] = pure ()) (cons : ∀ a as, loop (a :: as) = step a >>= fun _ => loop as) :
    ∀ {l : List γ}, (∀ a ∈ l, Agree (step a) (step (φ a))) → Agree (loop l) (loop (l.map φ))
  | [], _ => by
    rw [List.map_nil, nil]
    exact (Local.done ()).agree
  | a :: as, h => by
    have has : Agree (loop as) (loop (as.map φ)) :=
      each step φ nil cons fun b hb => h b (List.mem_cons_of_mem _ hb)
    rw [List.map_cons, cons, cons]
    exact (h a List.mem_cons_self).seq fun _ => has

/-- **Trees whose steps agree come to the same**, be it a text or a failure. -/
theorem outcome_eq {n m : Node} (h : Agree (visitChild o n) (visitChild o m)) :
    (render o n).outcome = (render o m).outcome := by
  have hends := (h.seq fun _ => gathered) ⟨[], []⟩ ⟨[], []⟩ rfl
  rw [render_eq_alone, render_eq_alone]
  unfold alone
  generalize (visitChild o n >>= fun _ => gather) ⟨[], []⟩ = left at hends ⊢
  generalize (visitChild o m >>= fun _ => gather) ⟨[], []⟩ = right at hends ⊢
  cases hends <;> rfl

end Agree

/-- Nodes that are rendered by the same step agree. -/
theorem visit_agree_of_eq {n m : Node} (h : visit o n = visit o m) :
    Agree (visit o n) (visit o m) := by
  rw [← h]
  exact (visit_isLocal o n).agree

/-- A child that is checked agrees with another as the two rendered unchecked do, if both or neither
are nodes. -/
theorem visitChild_agree {n m : Node} (hkind : n.isNode = true ∧ m.isNode = true ∨ n = m)
    (h : Agree (visit o n) (visit o m)) : Agree (visitChild o n) (visitChild o m) := by
  rcases hkind with ⟨hn, hm⟩ | rfl
  · rwa [visitChild_of_isNode hn, visitChild_of_isNode hm]
  · exact (visitChild_isLocal (visit_isLocal o n)).agree

end Manuscript.Latex
