import Manuscript.Yaml.Construct
import Mathlib.Tactic.SplitIfs

/-!
# The keys of a mapping

A mapping that is put together of pairs has no key twice (`keysDistinct_ofPairs`), so the value that
is found under a name is the only one (`field?_eq_some_iff`). The mappings that are read from a YAML
text are put together in this way (`keysDistinct_of_load`).
-/

namespace Manuscript

namespace Value

variable {entries : Entries} {name : String} {k v : Value}

/-- **No key comes twice** in a mapping. -/
def KeysDistinct (entries : Entries) : Prop :=
  entries.Pairwise fun e e' => sameKey e.1 e'.1 = false

/-- Writing a value brings in no other key. -/
theorem fst_of_mem_insertKey {e : Value × Value} (h : e ∈ insertKey k v entries) :
    e.1 = k ∨ ∃ e' ∈ entries, e'.1 = e.1 := by
  induction entries with
  | nil =>
    obtain rfl := List.mem_singleton.mp h
    exact .inl rfl
  | cons first rest ih =>
    rw [insertKey] at h
    split at h
    · rcases List.mem_cons.mp h with rfl | h
      · exact .inr ⟨first, List.mem_cons_self, rfl⟩
      · exact .inr ⟨e, List.mem_cons_of_mem _ h, rfl⟩
    · rcases List.mem_cons.mp h with rfl | h
      · exact .inr ⟨_, List.mem_cons_self, rfl⟩
      · rcases ih h with hk | ⟨e', he', heq⟩
        · exact .inl hk
        · exact .inr ⟨e', List.mem_cons_of_mem _ he', heq⟩

theorem keysDistinct_insertKey (h : KeysDistinct entries) :
    KeysDistinct (insertKey k v entries) := by
  induction entries with
  | nil => exact List.pairwise_singleton _ _
  | cons first rest ih =>
    obtain ⟨hfirst, hrest⟩ := List.pairwise_cons.mp h
    rw [insertKey]
    split
    · -- the key is there: its value alone is another one
      exact List.pairwise_cons.mpr ⟨hfirst, hrest⟩
    · rename_i hother
      refine List.pairwise_cons.mpr ⟨fun e he => ?_, ih hrest⟩
      rcases fst_of_mem_insertKey he with hk | ⟨e', he', heq⟩
      · rw [hk]
        exact eq_false_of_ne_true hother
      · rw [← heq]
        exact hfirst e' he'

theorem keysDistinct_ofPairs (pairs : List (Value × Value)) : KeysDistinct (ofPairs pairs) := by
  have written : ∀ (ps : List (Value × Value)) {es : Entries}, KeysDistinct es →
      KeysDistinct (ps.foldl (fun entries p => insertKey p.1 p.2 entries) es) := by
    intro ps
    induction ps with
    | nil => exact id
    | cons p ps ih => exact fun h => ih (keysDistinct_insertKey h)
  exact written pairs .nil

/-! ### Looking up a name -/

/-- A name is the same key as no other value. -/
theorem sameKey_str_iff : sameKey k (.str name) = true ↔ k = .str name := by
  cases k with
  | str s => simp [sameKey]
  | _ => simp [sameKey, sameNumber, number?]

/-- **What is found under a name** is the value of its only entry. -/
theorem field?_eq_some_iff (h : KeysDistinct entries) :
    field? name entries = some v ↔ (.str name, v) ∈ entries := by
  unfold field?
  induction entries with
  | nil => simp [lookup?]
  | cons first rest ih =>
    obtain ⟨key, value⟩ := first
    obtain ⟨hfirst, hrest⟩ := List.pairwise_cons.mp h
    rw [lookup?, List.mem_cons]
    split
    · rename_i hsame
      obtain rfl := sameKey_str_iff.mp hsame
      have hnot : (.str name, v) ∉ rest := by
        intro hmem
        have hdiffers := hfirst _ hmem
        rw [sameKey_str_iff.mpr rfl] at hdiffers
        cases hdiffers
      simp [hnot, eq_comm]
    · rename_i hother
      have hkey : Value.str name ≠ key := fun heq => hother (sameKey_str_iff.mpr heq.symm)
      rw [ih hrest]
      simp [hkey]

theorem field?_eq_none_iff : field? name entries = none ↔ ∀ e ∈ entries, e.1 ≠ .str name := by
  unfold field?
  induction entries with
  | nil => simp [lookup?]
  | cons first rest ih =>
    rw [lookup?, List.forall_mem_cons, ← ih]
    split
    · rename_i hsame
      simp [sameKey_str_iff.mp hsame]
    · rename_i hother
      have hkey : first.1 ≠ .str name := fun heq => hother (sameKey_str_iff.mpr heq)
      simp [hkey]

end Value

namespace Yaml

open Value (KeysDistinct keysDistinct_ofPairs)

variable {α : Type} {node : Tree} {entries : Entries}

/-! ### Values that are no mappings -/

/-- The reading does not come to a mapping. -/
def NoMap (r : Reading Value) : Prop := ∀ entries, r ≠ .ok (.map entries)

namespace NoMap

theorem ok {v : Value} (h : ∀ entries, v ≠ .map entries) : NoMap (.ok v) :=
  fun entries heq => h entries (Except.ok.inj heq)

theorem error (p : Problem) : NoMap (.error p) := nofun

theorem bind {r : Reading α} {f : α → Reading Value} (h : ∀ a, NoMap (f a)) : NoMap (r >>= f) := by
  intro entries heq
  obtain ⟨a, -, ha⟩ := Reading.bind_eq_ok.mp heq
  exact h a entries ha

end NoMap

theorem noMap_momentValue (text : String) : NoMap (momentValue text) := by
  unfold momentValue
  split
  · exact .error _
  · unfold MomentText.value
    dsimp only
    split
    · split
      · exact .ok nofun
      · exact .error _
    · refine .bind fun offset => ?_
      split
      · exact .ok nofun
      · exact .error _

theorem noMap_momentOf (node : Tree) : NoMap (momentOf node) := by
  unfold momentOf
  split
  · exact noMap_momentValue _
  · exact .bind fun _ => .error _

theorem noMap_binaryValue (text : String) : NoMap (binaryValue text) := by
  unfold binaryValue
  split
  · exact .error _
  · split
    · exact .ok nofun
    · exact .error _

/-- A scalar is no mapping. -/
theorem noMap_scalarValue (node : Tree) : NoMap (scalarValue node) := by
  unfold scalarValue
  dsimp only
  split_ifs
  · exact .bind fun _ => .ok nofun
  · exact .bind fun _ => .bind fun _ => .ok nofun
  · exact .bind fun _ => .bind fun _ => .ok nofun
  · exact .bind fun _ => .bind fun _ => .ok nofun
  · exact noMap_momentOf node
  · exact .bind fun _ => .ok nofun
  · exact .bind noMap_binaryValue
  · exact .error _

/-! ### Mappings that are read -/

theorem keysDistinct_of_build (h : build node = .ok (.map entries)) : KeysDistinct entries := by
  cases node with
  | scalar tag text =>
    rw [build] at h
    split at h
    · cases h
    · exact absurd h (noMap_scalarValue _ entries)
  | sequence tag items =>
    have hlist : ∀ {r : Reading (List Value)}, NoMap (do return .list (← r)) := by
      refine .bind fun vs => .ok fun es heq => ?_
      cases heq
    rw [build] at h
    split at h
    · exact absurd h (hlist entries)
    split at h
    · exact absurd h (hlist entries)
    split at h
    · cases h
    · exact absurd h (noMap_scalarValue _ entries)
  | mapping tag pairs =>
    rw [build] at h
    split at h
    · split at h
      · cases h
      · obtain ⟨built, -, h⟩ := Reading.bind_eq_ok.mp h
        dsimp only at h
        split at h
        · obtain rfl := Value.map.inj (Except.ok.inj h)
          exact keysDistinct_ofPairs built
        · cases h
    split at h
    · cases h
    · exact absurd h (noMap_scalarValue _ entries)

/-- **A mapping that is read has no key twice.** -/
theorem keysDistinct_of_load {text : String} (h : load text = .ok (.map entries)) :
    KeysDistinct entries := by
  unfold load at h
  obtain ⟨tree?, -, h⟩ := Reading.bind_eq_ok.mp h
  cases tree? with
  | none => cases h
  | some tree =>
    dsimp only at h
    unfold construct at h
    split at h
    · rename_i v hv
      obtain rfl := Except.ok.inj h
      exact keysDistinct_of_build hv
    · split at h <;> cases h

end Yaml

end Manuscript
