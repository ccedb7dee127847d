import Manuscript.Proofs.Latex.Renderable

/-!
# What a rendering fails with

`walk` lists the places that rendering comes to, in the order of the document, and `ailment?`
tells what is wrong at a place itself. A value that is no node is refused by the name of its type
only in a place that is looked at before it is rendered; elsewhere it breaks the rendering down.

* `visitAt_reports`: rendering stops at the first place where something is wrong, and fails with
  that;
* `render_error_iff`: with a text as block separator this is exactly how a rendering fails.

The invariant is `Reports`: a step fails with the first thing that is wrong on its way, and leaves
pieces that can be put together.
-/

namespace Manuscript

/-- Why a run fails, if it does. -/
def Run.failure? {α : Type} (r : Run α) : Option Failure :=
  match r.outcome with
  | .ok _ => none
  | .error e => some e

theorem Run.failure?_eq_some_iff {α : Type} {r : Run α} {e : Failure} :
    r.failure? = some e ↔ r.outcome = .error e := by
  unfold failure?
  cases r.outcome <;> simp

theorem findSome?_cons_or {α β : Type} (f : α → Option β) (a : α) (l : List α) :
    (a :: l).findSome? f = (f a).or (l.findSome? f) := by
  rw [List.findSome?_cons]
  cases f a <;> rfl

theorem findSome?_flatMap {α β γ : Type} (f : β → Option γ) (g : α → List β) (l : List α) :
    (l.flatMap g).findSome? f = l.findSome? fun a => (g a).findSome? f := by
  induction l with
  | nil => rfl
  | cons a l ih => rw [List.flatMap_cons, List.findSome?_append, ih, findSome?_cons_or]

/-! ### The places of a tree -/

namespace Node

/-- Whether the rule of a node looks at its parts before it goes on to them. -/
def checksParts : Node → Bool
  | document .. | paragraph .. | listItem .. => true
  | _ => false

/-- A place that rendering comes to: what stands there, and whether it is looked at first. -/
structure Spot where
  node : Node
  checked : Bool

/-- The places that rendering comes to in a tree, in the order of the document. -/
def walk (checked : Bool) (n : Node) : List Spot :=
  ⟨n, checked⟩ :: n.parts.attach.flatMap fun c => walk n.checksParts c.1
termination_by sizeOf n
decreasing_by exact sizeOf_lt_of_mem_parts c.2

theorem walk_eq (checked : Bool) (n : Node) :
    walk checked n = ⟨n, checked⟩ :: n.parts.flatMap (walk n.checksParts) := by
  rw [walk, List.flatMap_subtype (g := walk n.checksParts) fun _ _ => rfl, List.unattach_attach]

theorem Reaches.exists_mem_walk {n m : Node} (h : n.Reaches m) (checked : Bool) :
    ∃ s ∈ walk checked n, s.node = m := by
  induction h generalizing checked with
  | self n =>
    rw [walk_eq]
    exact ⟨_, List.mem_cons_self, rfl⟩
  | @part n c m hc _ ih =>
    obtain ⟨s, hs, hm⟩ := ih n.checksParts
    rw [walk_eq]
    exact ⟨s, List.mem_cons_of_mem _ (List.mem_flatMap.mpr ⟨c, hc, hs⟩), hm⟩

theorem reaches_of_mem_walk {n : Node} {checked : Bool} {s : Spot} (h : s ∈ walk checked n) :
    n.Reaches s.node := by
  induction n using parts_induction generalizing checked with
  | step n ih =>
    rw [walk_eq] at h
    rcases List.mem_cons.mp h with rfl | h
    · exact .self n
    · obtain ⟨c, hc, hs⟩ := List.mem_flatMap.mp h
      exact .part hc (ih c hc hs)

end Node

namespace Latex

open Writing Node

variable {o : RendererOptions} {sep : String} {α β : Type}

/-- What is wrong at a place itself. A kind with a rule for its parts has nothing wrong of its
own. -/
def ailment? (o : RendererOptions) (s : Spot) : Option Failure :=
  match s.node with
  | .document .. | .heading .. | .paragraph .. | .list .. | .listItem .. | .link .. => none
  | .foreign v =>
    some (if s.checked then .fault (.unknownNodeType v.typeName) else .breakdown .missingAttribute)
  | n => (leafText o n).failure?

/-- The first thing that is wrong on a way through a tree. -/
def firstAilment? (o : RendererOptions) (places : List Spot) : Option Failure :=
  places.findSome? (ailment? o)

theorem firstAilment?_walk (checked : Bool) (n : Node) :
    firstAilment? o (walk checked n) = (ailment? o ⟨n, checked⟩).or
      (n.parts.findSome? fun c => firstAilment? o (walk n.checksParts c)) := by
  unfold firstAilment?
  rw [walk_eq, findSome?_cons_or, findSome?_flatMap]

theorem firstAilment?_of_ailment? {n : Node} {checked : Bool} {e : Failure}
    (h : ailment? o ⟨n, checked⟩ = some e) : firstAilment? o (walk checked n) = some e := by
  rw [firstAilment?_walk, h, Option.some_or]

/-- What is wrong in the first part is met first, unless something is wrong before any part. -/
theorem firstAilment?_of_first_part {n c : Node} {cs : List Node} {checked : Bool} {e : Failure}
    (hn : ailment? o ⟨n, checked⟩ = none) (hparts : n.parts = c :: cs)
    (h : firstAilment? o (walk n.checksParts c) = some e) :
    firstAilment? o (walk checked n) = some e := by
  rw [firstAilment?_walk, hn, Option.none_or, hparts, List.findSome?_cons_of_isSome (h ▸ rfl), h]

/-! ### Steps that report the first thing that is wrong -/

/-- Whether the separator between blocks is a text. -/
def TextSeparator (o : RendererOptions) : Prop := ∃ sep, o.blockSeparator = .str sep

/-- A page whose pieces can be put together. -/
def Page.Joins (p : Page) : Prop := ∃ s, joinPieces p.output = some s

/-- **A step reports `first`**: it succeeds iff `first` is nothing, and fails with it otherwise.
It can fail in another way only where pieces are put together that are not all texts, which a
separator that is a text never brings about. -/
structure Reports (o : RendererOptions) (first : Option Failure) (step : Writing α) : Prop where
  onOk {p q : Page} {a : α} : step p = .ok a q →
    first = none ∧ (TextSeparator o → p.Joins → q.Joins)
  onError {p q : Page} {e : Failure} : step p = .error e q →
    first = some e ∨ e = .breakdown .wrongType ∧ ¬ (TextSeparator o ∧ p.Joins)

namespace Reports

theorem done (a : α) : Reports o none (pure a : Writing α) where
  onOk h := by
    obtain ⟨rfl, rfl⟩ := EStateM.Result.ok.inj h
    exact ⟨rfl, fun _ hp => hp⟩
  onError h := by cases h

theorem piece {v : Value} (hv : TextSeparator o → ∃ s, v = .str s) : Reports o none (emit v) where
  onOk {p q a} h := by
    obtain ⟨-, rfl⟩ : () = a ∧ { p with output := v :: p.output } = q := EStateM.Result.ok.inj h
    refine ⟨rfl, fun ho ⟨t, ht⟩ => ?_⟩
    obtain ⟨s, rfl⟩ := hv ho
    exact ⟨t ++ s, by simp [joinPieces, ht]⟩
  onError h := by cases h

theorem text (s : String) : Reports o none (emitText s) := piece fun _ => ⟨s, rfl⟩

theorem separator : Reports o none (separate o) := by
  unfold separate
  split
  · exact piece id
  · exact done ()

theorem failure (e : Failure) : Reports o (some e) (throw e : Writing α) where
  onOk h := by cases h
  onError h := by
    obtain ⟨rfl, -⟩ := EStateM.Result.error.inj h
    exact .inl rfl

theorem run (r : Run α) : Reports o r.failure? (Writing.ofRun r) where
  onOk {p q a} h := by
    cases hr : r.outcome with
    | ok b =>
      simp only [Writing.ofRun, hr] at h
      obtain ⟨-, rfl⟩ := EStateM.Result.ok.inj h
      exact ⟨by simp only [Run.failure?, hr], fun _ hp => hp⟩
    | error e => simp [Writing.ofRun, hr] at h
  onError {p q e} h := by
    cases hr : r.outcome with
    | ok b => simp [Writing.ofRun, hr] at h
    | error e' =>
      simp only [Writing.ofRun, hr] at h
      obtain ⟨rfl, -⟩ := EStateM.Result.error.inj h
      exact .inl (by simp only [Run.failure?, hr])

theorem gathered : Reports o none gather where
  onOk {p q s} h := by
    cases hj : joinPieces p.output with
    | some t =>
      rw [gather_of_joinPieces hj] at h
      obtain ⟨-, rfl⟩ := EStateM.Result.ok.inj h
      exact ⟨rfl, fun _ hp => hp⟩
    | none => cases (gather_of_joinPieces_none hj).symm.trans h
  onError {p q e} h := by
    cases hj : joinPieces p.output with
    | some t => cases (gather_of_joinPieces hj).symm.trans h
    | none =>
      obtain ⟨rfl, -⟩ := EStateM.Result.error.inj ((gather_of_joinPieces_none hj).symm.trans h)
      refine .inr ⟨rfl, fun ⟨_, t, ht⟩ => ?_⟩
      cases hj.symm.trans ht

theorem seq {x : Writing α} {f : α → Writing β} {first second : Option Failure}
    (hx : Reports o first x) (hf : ∀ a, Reports o second (f a)) :
    Reports o (first.or second) (x >>= f) where
  onOk {p q b} h := by
    cases hr : x p with
    | ok a r =>
      rw [bind_of_ok hr] at h
      obtain ⟨rfl, hpr⟩ := hx.onOk hr
      obtain ⟨rfl, hrq⟩ := (hf a).onOk h
      exact ⟨rfl, fun ho hp => hrq ho (hpr ho hp)⟩
    | error e r =>
      rw [bind_of_error hr] at h
      cases h
  onError {p q e} h := by
    cases hr : x p with
    | ok a r =>
      rw [bind_of_ok hr] at h
      obtain ⟨rfl, hpr⟩ := hx.onOk hr
      rcases (hf a).onError h with rfl | ⟨rfl, hjoins⟩
      · exact .inl rfl
      · exact .inr ⟨rfl, fun ⟨ho, hp⟩ => hjoins ⟨ho, hpr ho hp⟩⟩
    | error e' r =>
      rw [bind_of_error hr] at h
      obtain ⟨rfl, rfl⟩ := EStateM.Result.error.inj h
      rcases hx.onError hr with rfl | hwrong
      · exact .inl rfl
      · exact .inr hwrong

/-- A step that is followed by one with nothing wrong. -/
theorem andThen {x : Writing α} {f : α → Writing β} {first : Option Failure}
    (hx : Reports o first x) (hf : ∀ a, Reports o none (f a)) : Reports o first (x >>= f) := by
  simpa using hx.seq hf

/-- A step that follows one with nothing wrong. -/
theorem after {x : Writing α} {f : α → Writing β} {first : Option Failure}
    (hx : Reports o none x) (hf : ∀ a, Reports o first (f a)) : Reports o first (x >>= f) := by
  simpa using hx.seq hf

/-- An output of its own can be put together from the start, so a capture goes wrong as its step
does; the output around it is as it was. -/
theorem captured {step : Writing Unit} {first : Option Failure} (h : Reports o first step) :
    Reports o first (capture step) where
  onOk {p q s} hs := by
    unfold capture at hs
    split at hs
    · rename_i t r hr
      obtain ⟨-, rfl⟩ := EStateM.Result.ok.inj hs
      exact ⟨((h.andThen fun _ => gathered).onOk hr).1, fun _ hp => hp⟩
    · cases hs
  onError {p q e} he := by
    unfold capture at he
    split at he
    · cases he
    · rename_i e' r hr
      obtain ⟨rfl, -⟩ := EStateM.Result.error.inj he
      rcases (h.andThen fun _ => gathered).onError hr with hfirst | ⟨hwrong, hjoins⟩
      · exact .inl hfirst
      · exact .inr ⟨hwrong, fun ⟨ho, _⟩ => hjoins ⟨ho, "", rfl⟩⟩

/-- A loop over a list reports the first thing that is wrong with an element. -/
theorem each {γ : Type} {f : γ → Writing Unit} {g : γ → Option Failure}
    {loop : List γ → Writing Unit} (nil : loop [] = pure ())
    (cons : ∀ a as, loop (a :: as) = f a >>= fun _ => loop as) :
    ∀ {l : List γ}, (∀ a ∈ l, Reports o (g a) (f a)) → Reports o (l.findSome? g) (loop l)
  | [], _ => by
    rw [nil]
    exact done ()
  | a :: as, h => by
    have has := each nil cons (l := as) fun b hb => h b (by simp [hb])
    rw [cons, findSome?_cons_or]
    exact (h a (by simp)).seq fun _ => has

end Reports

/-! ### Rendering reports the first ailment -/

/-- Rendering what stands at a place. -/
def visitAt (o : RendererOptions) (s : Spot) : Writing Unit :=
  if s.checked then visitChild o s.node else visit o s.node

theorem visitAt_of_isNode {n : Node} (h : n.isNode = true) (checked : Bool) :
    visitAt o ⟨n, checked⟩ = visit o n := by
  cases checked with
  | true => exact visitChild_of_isNode h
  | false => rfl

theorem visitBlocks_reports {g : Node → Option Failure} : ∀ {cs : List Node} (first : Bool),
    (∀ c ∈ cs, Reports o (g c) (visitChild o c)) →
      Reports o (cs.findSome? g) (visitBlocks o first cs)
  | [], first, _ => by
    rw [visitBlocks]
    exact .done ()
  | c :: cs, first, h => by
    have hcs : Reports o (cs.findSome? g) (visitBlocks o false cs) :=
      visitBlocks_reports false fun d hd => h d (by simp [hd])
    have hseq := (h c (by simp)).seq fun _ => hcs
    rw [findSome?_cons_or]
    cases first with
    | true =>
      rw [visitBlocks_first]
      exact hseq
    | false =>
      rw [visitBlocks_later, bind_assoc]
      exact Reports.separator.after fun _ => hseq

/-- A node with parts reports the first of them that does not come out well. -/
theorem visit_parts_reports {n : Node} {g : Node → Option Failure} {put : List String → String}
    (hp : assemble? sep n = some put)
    (h : ∀ c ∈ n.parts, Reports o (g c) (visitAt o ⟨c, n.checksParts⟩)) :
    Reports o (n.parts.findSome? g) (visit o n) := by
  cases n with
  | document cs m =>
    rw [visit]
    exact visitBlocks_reports true h
  | paragraph cs m | listItem cs t m =>
    rw [visit]
    exact Reports.each (by rw [visitChildren]) (fun _ _ => by rw [visitChildren]; rfl) h
  | heading level cs m | link url cs t m =>
    rw [visit]
    refine Reports.andThen (Reports.captured ?_) fun _ => .text _
    exact Reports.each (by rw [visitInline]) (fun _ _ => by rw [visitInline]; rfl) h
  | list ordered items s t m =>
    rw [visit]
    refine Reports.after (.text _) fun _ => Reports.andThen ?_ fun _ => .text _
    refine Reports.each
      (f := fun c => do let s ← capture (visit o c); emitText (command "item" s ++ "\n"))
      (by rw [visitItems]) (fun c ns => ?_) fun c hc => (h c hc).captured.andThen fun _ => .text _
    rw [visitItems, bind_assoc]
  | _ => simp [assemble?] at hp

theorem visit_leaf_reports {n : Node} (hn : n.isNode = true) (hl : assemble? sep n = none) :
    Reports o (leafText o n).failure? (visit o n) := by
  cases n with
  | document | paragraph | heading | list | listItem | link => simp [assemble?] at hl
  | foreign v => cases hn
  | codeBlock content language d m | image url alt t m | code content m =>
    rw [visit]
    exact (Reports.run _).andThen fun _ => .text _
  | mathBlock content m | text content m | mathInline content m =>
    rw [visit]
    exact .text _
  | htmlBlock content m =>
    rw [visit]
    show Reports o none _
    exact .run (Run.write _)
  | htmlInline content m =>
    rw [visit]
    exact .done ()
  | _ =>
    simp only [visit]
    exact .failure _

theorem ailment?_of_assemble? {n : Node} {put : List String → String} {checked : Bool}
    (hp : assemble? sep n = some put) : ailment? o ⟨n, checked⟩ = none := by
  cases n with
  | document | paragraph | heading | list | listItem | link => rfl
  | _ => cases hp

theorem ailment?_leaf {n : Node} {checked : Bool} (hn : n.isNode = true)
    (hl : assemble? sep n = none) : ailment? o ⟨n, checked⟩ = (leafText o n).failure? := by
  cases n with
  | document | paragraph | heading | list | listItem | link => simp [assemble?] at hl
  | foreign v => cases hn
  | _ => rfl

theorem parts_leaf {n : Node} (hl : assemble? sep n = none) : n.parts = [] := by
  cases n with
  | document | paragraph | heading | list | listItem | link => simp [assemble?] at hl
  | _ => rfl

/-- **Rendering reports the first ailment** of the places it comes to, in the order of the
document. -/
theorem visitAt_reports (n : Node) (checked : Bool) :
    Reports o (firstAilment? o (walk checked n)) (visitAt o ⟨n, checked⟩) := by
  induction n using parts_induction generalizing checked with
  | step n ih =>
    rw [firstAilment?_walk]
    cases hp : assemble? "" n with
    | some put =>
      have hn : n.isNode = true := by cases n <;> first | rfl | cases hp
      rw [ailment?_of_assemble? hp, Option.none_or, visitAt_of_isNode hn]
      exact visit_parts_reports hp fun c hc => ih c hc n.checksParts
    | none =>
      rw [parts_leaf hp, List.findSome?_nil, Option.or_none]
      by_cases hn : n.isNode = true
      · rw [ailment?_leaf hn hp, visitAt_of_isNode hn]
        exact visit_leaf_reports hn hp
      · cases n with
        | foreign v =>
          cases checked with
          | true =>
            show Reports o _ (visitChild o (.foreign v))
            rw [visitChild]
            exact .failure _
          | false =>
            show Reports o _ (visit o (.foreign v))
            rw [visit]
            exact .failure _
        | _ => exact absurd rfl hn

/-! ### Whole renderings -/

theorem render_reports (n : Node) :
    ((∃ s, (render o n).outcome = .ok s) → firstAilment? o (walk true n) = none) ∧
    ∀ e, (render o n).outcome = .error e → firstAilment? o (walk true n) = some e ∨
      e = .breakdown .wrongType ∧ ¬ TextSeparator o := by
  have hreports : Reports o (firstAilment? o (walk true n))
      (do visitChild o n; gather : Writing String) :=
    (visitAt_reports n true).andThen fun _ => .gathered
  rw [render_eq_alone]
  unfold alone
  cases hr : (do visitChild o n; gather : Writing String) ⟨[], []⟩ with
  | ok s p => exact ⟨fun _ => (hreports.onOk hr).1, by simp⟩
  | error e p =>
    refine ⟨by simp, fun e' he => ?_⟩
    obtain rfl := Except.error.inj he
    rcases hreports.onError hr with hfirst | ⟨hwrong, hjoins⟩
    · exact .inl hfirst
    · exact .inr ⟨hwrong, fun ho => hjoins ⟨ho, "", rfl⟩⟩

/-- **How a rendering fails**, with a text between blocks: with the first ailment of the tree. -/
theorem render_error_iff (hs : o.blockSeparator = .str sep) {n : Node} {e : Failure} :
    (render o n).outcome = .error e ↔ firstAilment? o (walk true n) = some e := by
  obtain ⟨hok, herror⟩ := @render_reports o n
  constructor
  · intro he
    rcases herror e he with hfirst | ⟨-, hno⟩
    · exact hfirst
    · exact absurd ⟨sep, hs⟩ hno
  · intro hfirst
    cases hr : (render o n).outcome with
    | ok s => cases hfirst.symm.trans (hok ⟨s, hr⟩)
    | error e' =>
      rcases herror e' hr with hfirst' | ⟨-, hno⟩
      · rw [Option.some.inj (hfirst.symm.trans hfirst')]
      · exact absurd ⟨sep, hs⟩ hno

end Latex

end Manuscript
