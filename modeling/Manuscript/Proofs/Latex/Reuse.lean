import Manuscript.Proofs.Latex.Compositional

/-!
# One renderer for many trees

A renderer that is used again and again answers as new ones would (`session_answers`), because every
call starts on an empty output. Within a call, the output that is put aside for the content of a
heading, a link or a list item is found as it was, however that content ends, and the content cannot
see what was written before (`reuse_without_leak`).

The invariant is `Local`: whatever is on the page, a step puts the same pieces in front of it, logs
the same records and ends in the same way. A capture of such a step is `Isolated`, it does not touch
the output at all. Unlike `Writes`, neither asks that the pieces can be put together, so they hold
for every block separator.
-/

namespace Manuscript.Latex

open Writing Node

variable {o : RendererOptions} {α β : Type}

/-! ### Steps that do not look at the page -/

def ended (outcome : Outcome α) (p : Page) : EStateM.Result Failure Page α :=
  match outcome with
  | .ok a => .ok a p
  | .error e => .error e p

/-- **A step is local**: it puts pieces in front of the output and records behind the log, and ends
with an outcome, all of which are the same for every page. -/
def Local (step : Writing α) : Prop :=
  ∃ (outcome : Outcome α) (pieces : List Value) (log : List Record),
    ∀ p : Page, step p = ended outcome ⟨pieces ++ p.output, p.log ++ log⟩

/-- **A step is isolated**: whether it succeeds or fails, it leaves the output exactly as it was,
and neither its outcome nor what it logs depends on the page. -/
def Isolated (step : Writing α) : Prop :=
  ∃ (outcome : Outcome α) (log : List Record),
    ∀ p : Page, step p = ended outcome ⟨p.output, p.log ++ log⟩

theorem Isolated.isLocal {step : Writing α} (h : Isolated step) : Local step := by
  obtain ⟨outcome, log, hstep⟩ := h
  exact ⟨outcome, [], log, hstep⟩

/-- A step that writes a run is local. -/
theorem Writes.isLocal {step : Writing Unit} {r : Run String} (h : Writes step r) : Local step := by
  cases hr : r.outcome with
  | ok s =>
    obtain ⟨pieces, -, hstep⟩ := h.onOk hr
    exact ⟨.ok (), pieces, r.log, hstep⟩
  | error e =>
    obtain ⟨pieces, hstep⟩ := h.onError hr
    exact ⟨.error e, pieces, r.log, hstep⟩

namespace Local

theorem done (a : α) : Local (pure a : Writing α) := by
  refine ⟨.ok a, [], [], fun p => ?_⟩
  rw [List.append_nil]
  rfl

theorem failure (e : Failure) : Local (throw e : Writing α) := by
  refine ⟨.error e, [], [], fun p => ?_⟩
  rw [List.append_nil]
  rfl

theorem piece (v : Value) : Local (emit v) := by
  refine ⟨.ok (), [v], [], fun p => ?_⟩
  rw [List.append_nil]
  rfl

theorem separator : Local (separate o) := by
  unfold separate
  split
  · exact piece o.blockSeparator
  · exact done ()

theorem seq {x : Writing α} {f : α → Writing β} (hx : Local x) (hf : ∀ a, Local (f a)) :
    Local (x >>= f) := by
  obtain ⟨outcome, pieces, log, hstep⟩ := hx
  cases outcome with
  | error e => exact ⟨.error e, pieces, log, fun p => bind_of_error (hstep p) f⟩
  | ok a =>
    obtain ⟨outcome, more, after, hnext⟩ := hf a
    refine ⟨outcome, more ++ pieces, log ++ after, fun p => ?_⟩
    rw [bind_of_ok (hstep p), hnext, List.append_assoc, List.append_assoc]

/-- **What is captured is isolated**: the pieces go to an output of their own, so whether they can
be put together does not depend on the page either. -/
theorem captured {step : Writing Unit} (h : Local step) : Isolated (capture step) := by
  obtain ⟨outcome, pieces, log, hstep⟩ := h
  cases outcome with
  | error e =>
    refine ⟨.error e, log, fun p => ?_⟩
    simp only [capture, bind_of_error (hstep { p with output := [] })]
    rfl
  | ok a =>
    have hgather : ∀ p : Page, (do step; gather : Writing String) { p with output := [] } =
        gather ⟨pieces ++ [], p.log ++ log⟩ :=
      fun p => bind_of_ok (hstep { p with output := [] }) _
    cases hjoin : joinPieces pieces with
    | some s =>
      refine ⟨.ok s, log, fun p => ?_⟩
      simp only [capture, hgather]
      rw [gather_of_joinPieces (by simpa using hjoin)]
      rfl
    | none =>
      refine ⟨.error (.breakdown .wrongType), log, fun p => ?_⟩
      simp only [capture, hgather]
      rw [gather_of_joinPieces_none (by simpa using hjoin)]
      rfl

/-- A loop over a list is local if the step for each element is. -/
theorem each {γ : Type} {f : γ → Writing Unit} {loop : List γ → Writing Unit}
    (nil : loop [] = pure ()) (cons : ∀ a as, loop (a :: as) = f a >>= fun _ => loop as) :
    ∀ {l : List γ}, (∀ a ∈ l, Local (f a)) → Local (loop l)
  | [], _ => by
    rw [nil]
    exact done ()
  | a :: as, h => by
    have has : Local (loop as) := each nil cons fun b hb => h b (List.mem_cons_of_mem _ hb)
    rw [cons]
    exact (h a List.mem_cons_self).seq fun _ => has

end Local

/-! ### Rendering is local -/

theorem visitChild_isLocal {n : Node} (h : Local (visit o n)) : Local (visitChild o n) := by
  by_cases hn : n.isNode = true
  · rwa [visitChild_of_isNode hn]
  · cases n with
    | foreign v =>
      rw [visitChild]
      exact .failure _
    | _ => exact absurd rfl hn

theorem visitInline_isLocal {content : List Node} (h : ∀ n ∈ content, Local (visit o n)) :
    Local (visitInline o content) :=
  .each (by rw [visitInline]) (fun _ _ => by rw [visitInline]) h

theorem visitBlocks_isLocal {cs : List Node} (h : ∀ c ∈ cs, Local (visitChild o c)) :
    Local (visitBlocks o true cs) := by
  have hlater : ∀ {ds : List Node}, (∀ d ∈ ds, Local (visitChild o d)) →
      Local (visitBlocks o false ds) := fun hds =>
    .each (by rw [visitBlocks]) visitBlocks_later fun d hd =>
      Local.separator.seq fun _ => hds d hd
  cases cs with
  | nil =>
    rw [visitBlocks]
    exact .done ()
  | cons c cs =>
    rw [visitBlocks_first]
    exact (h c List.mem_cons_self).seq fun _ => hlater fun d hd => h d (List.mem_cons_of_mem _ hd)

/-- **Rendering is local**: a node writes, logs and ends in the same way on every page. -/
theorem visit_isLocal (o : RendererOptions) (n : Node) : Local (visit o n) := by
  induction n using parts_induction with
  | step n ih =>
    cases n with
    | document cs m =>
      rw [visit]
      exact visitBlocks_isLocal fun c hc => visitChild_isLocal (ih c hc)
    | paragraph cs m | listItem cs t m =>
      rw [visit]
      exact .each (by rw [visitChildren]) (fun _ _ => by rw [visitChildren])
        fun c hc => visitChild_isLocal (ih c hc)
    | heading level cs m | link url cs t m =>
      rw [visit]
      exact (visitInline_isLocal ih).captured.isLocal.seq fun _ => .piece _
    | list ordered items s t m =>
      rw [visit]
      refine (Local.piece _).seq fun _ => Local.seq ?_ fun _ => .piece _
      refine Local.each
        (f := fun c => do let s ← capture (visit o c); emitText (command "item" s ++ "\n"))
        (by rw [visitItems]) (fun c ns => ?_) fun c hc =>
          (ih c hc).captured.isLocal.seq fun _ => .piece _
      rw [visitItems, bind_assoc]
    | foreign v =>
      rw [visit]
      exact .failure _
    | _ => exact (leaf_writes rfl (show assemble? "" _ = none from rfl)).isLocal

/-! ### Using a renderer again -/

namespace Renderer

/-- Uses a renderer for one tree after the other: the answers, and the renderer in the end. -/
def session (r : Renderer) : List Node → List (Run String) × Renderer
  | [] => ([], r)
  | n :: ns =>
    let (answer, next) := r.render n
    let (answers, last) := next.session ns
    (answer :: answers, last)

/-- A call answers as a new renderer would, and leaves what that would leave. -/
theorem render_eq_new (r : Renderer) (n : Node) :
    r.render n = ({ options := r.options } : Renderer).render n := rfl

theorem options_render (r : Renderer) (n : Node) : (r.render n).2.options = r.options := by
  unfold render
  dsimp only
  split <;> rfl

/-- **A renderer that is used again answers as new ones would.** -/
theorem session_answers (r : Renderer) (ns : List Node) :
    (r.session ns).1 = ns.map (Latex.render r.options) := by
  induction ns generalizing r with
  | nil => rfl
  | cons n ns ih =>
    have hfirst : (r.render n).1 = Latex.render r.options n := by rw [render_eq_new]; rfl
    have hrest := ih (r.render n).2
    rw [options_render] at hrest
    rw [session, List.map_cons, ← hfirst, ← hrest]

end Renderer

/-- **A renderer can be used again without a leak**: whatever its output holds, and whichever of its
calls fail, it answers as new ones would. Within a call, what is captured, the content of a heading
or a link or an item of a list, leaves the output around it exactly as it was, whether it
succeeds or fails, and does not depend on it. -/
theorem reuse_without_leak (r : Renderer) :
    (∀ ns, (r.session ns).1 = ns.map (render r.options)) ∧
      (∀ content, Isolated (capture (visitInline r.options content))) ∧
      ∀ item, Isolated (capture (visit r.options item)) :=
  ⟨r.session_answers,
    fun _ => (visitInline_isLocal fun n _ => visit_isLocal r.options n).captured,
    fun item => (visit_isLocal r.options item).captured⟩

end Manuscript.Latex
