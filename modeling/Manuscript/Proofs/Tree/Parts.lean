import Manuscript.Tree.Node

/-!
The parts of a node, which rendering goes on to, and the nodes reached through them at any depth.
Whatever holds of a node once it holds of its parts holds of every tree (`parts_induction`).
-/

namespace Manuscript.Node

/-- The parts of a node that rendering goes on to. A kind that holds others but has no rule of its
own is refused as a whole, so it has none. -/
def parts : Node → List Node
  | document children _ => children
  | heading _ content _ => content
  | paragraph content _ => content
  | list _ items _ _ _ => items
  | listItem children _ _ => children
  | link _ content _ _ => content
  | _ => []

/-- Whether a value in the place of a node is one. -/
def isNode : Node → Bool
  | foreign _ => false
  | _ => true

theorem sizeOf_lt_of_mem_parts {n c : Node} (h : c ∈ n.parts) : sizeOf c < sizeOf n := by
  cases n with
  | document cs m | paragraph cs m | heading k cs m | listItem cs t m | link u cs t m
  | list o cs s t m =>
    have := List.sizeOf_lt_of_mem (show c ∈ cs from h)
    simp only [document.sizeOf_spec, paragraph.sizeOf_spec, heading.sizeOf_spec,
      listItem.sizeOf_spec, link.sizeOf_spec, list.sizeOf_spec]
    omega
  | _ => simp [parts] at h

/-- **Induction over the parts of a node.** -/
@[elab_as_elim]
theorem parts_induction {motive : Node → Prop}
    (step : ∀ n : Node, (∀ c ∈ n.parts, motive c) → motive n) (n : Node) : motive n :=
  step n fun c _ => parts_induction step c
termination_by sizeOf n
decreasing_by exact sizeOf_lt_of_mem_parts ‹_›

/-- A node is reached from another when it is that node or reached from one of its parts. -/
inductive Reaches : Node → Node → Prop where
  | self (n : Node) : Reaches n n
  | part {n c m : Node} (hc : c ∈ n.parts) (hm : Reaches c m) : Reaches n m

theorem forall_reaches_iff {p : Node → Prop} {n : Node} :
    (∀ m, n.Reaches m → p m) ↔ p n ∧ ∀ c ∈ n.parts, ∀ m, c.Reaches m → p m := by
  constructor
  · intro h
    exact ⟨h n (.self n), fun c hc m hm => h m (.part hc hm)⟩
  · rintro ⟨hn, hparts⟩ m hm
    cases hm with
    | self => exact hn
    | part hc hm => exact hparts _ hc m hm

/-- A tree with a node in every place that rendering reaches. -/
def AllNodes (n : Node) : Prop := ∀ m, n.Reaches m → m.isNode = true

theorem allNodes_iff {n : Node} : n.AllNodes ↔ n.isNode = true ∧ ∀ c ∈ n.parts, c.AllNodes :=
  forall_reaches_iff

/-- Whether a tree holds a node in every place can be decided from the root. -/
def allNodes? (n : Node) : Bool := n.isNode && n.parts.attach.all fun c => allNodes? c.1
termination_by sizeOf n
decreasing_by exact sizeOf_lt_of_mem_parts c.2

theorem allNodes?_iff (n : Node) : n.allNodes? = true ↔ n.AllNodes := by
  induction n using parts_induction with
  | step n ih =>
    rw [allNodes?, allNodes_iff, Bool.and_eq_true, List.all_eq_true]
    refine and_congr_right fun _ => ⟨fun h c hc => ?_, fun h c _ => ?_⟩
    · exact (ih c hc).mp (h ⟨c, hc⟩ (List.mem_attach _ _))
    · exact (ih c.1 c.2).mpr (h c.1 c.2)

instance : DecidablePred AllNodes := fun n => decidable_of_iff _ (allNodes?_iff n)

end Manuscript.Node
