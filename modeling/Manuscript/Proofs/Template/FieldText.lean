import Manuscript.Proofs.Outcome
import Manuscript.Template.Field

/-!
# The text of a metadata value

Lists and tuples are opened at every depth, so the text of a value is told by its leaves: it is one
join of their texts, however they are nested, and there is none iff one of them is a mapping
(`fieldText_of_leaves`). An empty list or tuple is a leaf itself, which keeps its place between two
commas, and what is inside a set or a mapping is never looked at.

* `mem_leaves_iff`: the leaves are what is reached and cannot be opened;
* `intercalate_flatMap`: a join of joins is one join, since every value has a leaf.
-/

namespace Manuscript

namespace Value

/-! ### The leaves of a value -/

/-- What a list or a tuple holds; other values are not opened. -/
def elements : Value → List Value
  | list items | tuple items => items
  | _ => []

/-- A value is reached from another through lists and tuples only. -/
inductive Reaches : Value → Value → Prop where
  | self (v : Value) : Reaches v v
  | element {v c w : Value} (hc : c ∈ v.elements) (hw : Reaches c w) : Reaches v w

mutual

/-- **The leaves of a value**, from left to right. -/
def leaves : Value → List Value
  | list items => if items.isEmpty then [list items] else leavesOf items
  | tuple items => if items.isEmpty then [tuple items] else leavesOf items
  | v => [v]

def leavesOf : List Value → List Value
  | [] => []
  | v :: vs => leaves v ++ leavesOf vs

end

theorem leavesOf_eq_flatMap : ∀ vs : List Value, leavesOf vs = vs.flatMap leaves
  | [] => rfl
  | v :: vs => by rw [leavesOf, leavesOf_eq_flatMap vs, List.flatMap_cons]

/-- A value without elements is its only leaf; the leaves of another are those of its elements. -/
theorem leaves_eq (v : Value) :
    v.leaves = if v.elements.isEmpty then [v] else v.elements.flatMap leaves := by
  cases v with
  | list items | tuple items => rw [leaves, leavesOf_eq_flatMap, elements]
  | _ => simp only [leaves, elements, List.isEmpty_nil, if_true]

theorem sizeOf_lt_of_mem_elements {v c : Value} (h : c ∈ v.elements) : sizeOf c < sizeOf v := by
  cases v with
  | list items | tuple items =>
    have := List.sizeOf_lt_of_mem (show c ∈ items from h)
    simp only [list.sizeOf_spec, tuple.sizeOf_spec]
    omega
  | _ => simp [elements] at h

/-- Induction over the elements of a value. -/
@[elab_as_elim]
theorem elements_induction {motive : Value → Prop}
    (step : ∀ v : Value, (∀ c ∈ v.elements, motive c) → motive v) (v : Value) : motive v :=
  step v fun c _ => elements_induction step c
termination_by sizeOf v
decreasing_by exact sizeOf_lt_of_mem_elements ‹_›

theorem leaves_ne_nil (v : Value) : v.leaves ≠ [] := by
  induction v using elements_induction with
  | step v ih =>
    rw [leaves_eq]
    cases hv : v.elements with
    | nil => simp
    | cons c cs =>
      have hc : c.leaves ≠ [] := ih c (by simp [hv])
      simp [hc]

/-- **The leaves are what is reached and has no elements.** -/
theorem mem_leaves_iff {v w : Value} : w ∈ v.leaves ↔ v.Reaches w ∧ w.elements = [] := by
  induction v using elements_induction with
  | step v ih =>
    rw [leaves_eq]
    by_cases hv : v.elements = []
    · rw [if_pos (List.isEmpty_iff.mpr hv), List.mem_singleton]
      constructor
      · rintro rfl
        exact ⟨.self _, hv⟩
      · rintro ⟨hreach, -⟩
        cases hreach with
        | self => rfl
        | element hc _ => simp [hv] at hc
    · rw [if_neg fun h => hv (List.isEmpty_iff.mp h), List.mem_flatMap]
      constructor
      · rintro ⟨c, hc, hw⟩
        obtain ⟨hreach, hleaf⟩ := (ih c hc).mp hw
        exact ⟨.element hc hreach, hleaf⟩
      · rintro ⟨hreach, hleaf⟩
        cases hreach with
        | self => exact absurd hleaf hv
        | element hc hreach => exact ⟨_, hc, (ih _ hc).mpr ⟨hreach, hleaf⟩⟩

end Value

namespace Template

open Value

/-- A join of joins is one join, if nothing that is joined is empty. -/
theorem intercalate_flatMap {α : Type} (sep : String) {f : α → List String} :
    ∀ {l : List α}, (∀ a ∈ l, f a ≠ []) →
      sep.intercalate (l.map fun a => sep.intercalate (f a)) = sep.intercalate (l.flatMap f)
  | [], _ => rfl
  | [a], _ => by simp
  | a :: b :: l, h => by
    have ih := intercalate_flatMap sep (l := b :: l) fun c hc => h c (List.mem_cons_of_mem _ hc)
    have hrest : (b :: l).flatMap f ≠ [] := by simp [h b (by simp)]
    rw [List.map_cons, String.intercalate_cons_of_ne_nil (by simp), ih, List.flatMap_cons (x := a),
      String.intercalate_append_of_ne_nil (h a List.mem_cons_self) hrest]

/-! ### The text of a value is told by its leaves -/

/-- **The text of a leaf.** -/
def leafText : Value → String
  | .null | .list _ | .tuple _ => ""
  | .bool b => if b then "true" else "false"
  | .str s => s
  | v => v.text

def isMap : Value → Bool
  | .map _ => true
  | _ => false

def joined (leaves : List Value) : String := ",".intercalate (leaves.map leafText)

/-- What can be said with leaves: no mapping has a text. -/
def unlessMap {α : Type} (name : String) (leaves : List Value) (said : α) : Outcome α :=
  if leaves.any isMap then .error (.fault (.template (.mappingField name))) else .ok said

theorem unlessMap_map {α β : Type} (name : String) (ls : List Value) (a : α) (f : α → β) :
    (unlessMap name ls a).map f = unlessMap name ls (f a) := by
  unfold unlessMap
  cases ls.any isMap <;> rfl

theorem unlessMap_append {α β γ : Type} (name : String) (ls ms : List Value) (a : α) (b : β)
    (f : α → β → γ) : unlessMap name (ls ++ ms) (f a b) =
      (do let x ← unlessMap name ls a; let y ← unlessMap name ms b; return f x y) := by
  unfold unlessMap
  rw [List.any_append]
  cases ls.any isMap <;> cases ms.any isMap <;> rfl

/-- The elements of a list have texts unless one of their leaves is a mapping. -/
theorem fieldTexts_of_leaves {name : String} : ∀ {vs : List Value},
    (∀ v ∈ vs, fieldText name v = unlessMap name v.leaves (joined v.leaves)) →
      fieldTexts name vs = unlessMap name (vs.flatMap leaves) (vs.map fun v => joined v.leaves)
  | [], _ => rfl
  | v :: vs, h => by
    have ih : fieldTexts name vs = _ :=
      fieldTexts_of_leaves fun w hw => h w (List.mem_cons_of_mem _ hw)
    rw [fieldTexts, h v List.mem_cons_self, ih, List.flatMap_cons, List.map_cons,
      unlessMap_append name v.leaves (vs.flatMap leaves) (joined v.leaves)]

/-- The texts of the elements, joined, are the texts of their leaves, joined. -/
theorem joined_flatMap (vs : List Value) :
    ",".intercalate (vs.map fun v => joined v.leaves) = joined (vs.flatMap leaves) := by
  have h := intercalate_flatMap "," (f := fun v : Value => v.leaves.map leafText) (l := vs)
    fun v _ => by simpa using leaves_ne_nil v
  rw [joined, List.map_flatMap]
  exact h

/-- The text of a list or a tuple, once its elements are told by their leaves. -/
theorem collectionText_of_leaves {name : String} {v : Value} {items : List Value}
    (hv : v.elements = items) (hleaf : leafText v = "") (hmap : isMap v = false)
    (h : ∀ c ∈ items, fieldText name c = unlessMap name c.leaves (joined c.leaves)) :
    (fieldTexts name items).map (",".intercalate ·) =
      unlessMap name v.leaves (joined v.leaves) := by
  rw [fieldTexts_of_leaves h, unlessMap_map, joined_flatMap, leaves_eq, hv]
  cases items with
  | nil => simp [unlessMap, joined, hleaf, hmap]
  | cons c cs => rw [List.isEmpty_cons, if_neg Bool.false_ne_true]

/-- **The text of a value is told by its leaves.** -/
theorem fieldText_eq (name : String) (v : Value) :
    fieldText name v = unlessMap name v.leaves (joined v.leaves) := by
  induction v using elements_induction with
  | step v ih =>
    cases v with
    | list items | tuple items =>
      rw [fieldText]
      exact collectionText_of_leaves rfl rfl rfl ih
    | _ => simp [fieldText, leaves, unlessMap, joined, leafText, isMap]

/-- A leaf is a mapping iff a mapping is reached. -/
theorem any_isMap_leaves (v : Value) :
    v.leaves.any isMap = true ↔ ∃ entries, v.Reaches (.map entries) := by
  rw [List.any_eq_true]
  constructor
  · rintro ⟨w, hw, hmap⟩
    cases w with
    | map entries => exact ⟨entries, (mem_leaves_iff.mp hw).1⟩
    | _ => cases hmap
  · rintro ⟨entries, hreach⟩
    exact ⟨_, mem_leaves_iff.mpr ⟨hreach, rfl⟩, rfl⟩

/-- **The text of a metadata value**: there is none iff a mapping is reached from it through lists
and tuples, and the fault then names the field; otherwise it is the texts of its leaves from left
to right, with commas between. -/
theorem fieldText_of_leaves (name : String) (v : Value) :
    (∀ e, fieldText name v = .error e ↔ (∃ entries, v.Reaches (.map entries)) ∧
      e = .fault (.template (.mappingField name))) ∧
    ∀ s, fieldText name v = .ok s ↔ (¬ ∃ entries, v.Reaches (.map entries)) ∧
      s = ",".intercalate (v.leaves.map leafText) := by
  rw [fieldText_eq, unlessMap]
  by_cases hmap : v.leaves.any isMap = true
  · have hreach := (any_isMap_leaves v).mp hmap
    simp only [if_pos hmap, hreach]
    simp [eq_comm]
  · have hreach := mt (any_isMap_leaves v).mpr hmap
    simp only [if_neg hmap, eq_false hreach]
    simp [joined, eq_comm]

/-- Empty lists and nulls keep their places. -/
example : fieldText "k" (.list [.str "a", .list [], .tuple [.null, .bool true]]) = .ok "a,,,true" :=
  rfl

end Template

end Manuscript
