import Manuscript.Text.LetterCase

/-!
# Texts with an ASCII word for their small form

Of the letters beyond ASCII, the Kelvin sign comes to a plain `k`, and the capital I with a dot to
an `i` and a dot above it; the small forms of all others stay beyond ASCII. So a word of small
letters without `k` is the small form of those texts only that are the word up to ASCII case
(`lowerFrom_eq_iff`, `toLower_eq_iff`).
-/

namespace Manuscript.Text

/-! ### The runs of letters with a small counterpart -/

namespace CaseRun

/-- Whether a run lies beyond ASCII and leads to letters beyond ASCII, unless it is for one letter
that comes to a `k`. -/
def isBeyond (r : CaseRun) : Bool :=
  128 ≤ r.first && (128 ≤ r.target r.first || r.first == r.last && r.target r.first == 'k'.toNat)

variable {r : CaseRun} {n : Nat}

theorem isBeyond_iff : r.isBeyond = true ↔ 128 ≤ r.first ∧
    (128 ≤ r.target r.first ∨ r.first = r.last ∧ r.target r.first = 'k'.toNat) := by
  simp only [isBeyond, Bool.and_eq_true, Bool.or_eq_true, decide_eq_true_eq, beq_iff_eq]

theorem bounds_of_covers (h : r.covers n = true) : r.first ≤ n ∧ n ≤ r.last := by
  simp only [covers, Bool.and_eq_true, decide_eq_true_eq] at h
  exact h.1

theorem target_mono (r : CaseRun) {m n : Nat} (h : m ≤ n) : r.target m ≤ r.target n := by
  unfold target
  omega

/-- The first run is the one for the capital letters of ASCII. -/
theorem lowerRuns_eq_cons : lowerRuns = ⟨65, 90, 1, 32⟩ :: lowerRuns.tail := rfl

theorem isBeyond_of_mem_tail (h : r ∈ lowerRuns.tail) : r.isBeyond = true := by
  have hall : lowerRuns.tail.all isBeyond = true := by decide +kernel
  exact List.all_eq_true.mp hall r h

theorem map_lowerRuns_of_lt (h : n < 128) :
    map lowerRuns n = if 65 ≤ n ∧ n ≤ 90 then n + 32 else n := by
  have htail : lowerRuns.tail.find? (·.covers n) = none := by
    refine List.find?_eq_none.mpr fun r hr hcovers => ?_
    have hfirst := (isBeyond_iff.mp (isBeyond_of_mem_tail hr)).1
    have hbounds := bounds_of_covers hcovers
    omega
  have hcovers : (⟨65, 90, 1, 32⟩ : CaseRun).covers n = decide (65 ≤ n ∧ n ≤ 90) := by
    simp [covers, Nat.mod_one]
  rw [map, lowerRuns_eq_cons, List.find?_cons, htail, hcovers]
  by_cases hcapital : 65 ≤ n ∧ n ≤ 90
  · simp only [hcapital, and_self, decide_true, if_true, target]
    omega
  · simp [hcapital]

theorem map_lowerRuns_of_ge (h : 128 ≤ n) :
    128 ≤ map lowerRuns n ∨ map lowerRuns n = 'k'.toNat := by
  unfold map
  split
  · rename_i r hr
    have hcovers := List.find?_some hr
    have hbounds := bounds_of_covers hcovers
    have hmem := List.mem_of_find?_eq_some hr
    rw [lowerRuns_eq_cons] at hmem
    rcases List.mem_cons.mp hmem with rfl | hmem
    · dsimp only at hbounds
      omega
    rcases (isBeyond_iff.mp (isBeyond_of_mem_tail hmem)).2 with htarget | ⟨hsingle, htarget⟩
    · exact .inl (Nat.le_trans htarget (r.target_mono hbounds.1))
    · obtain rfl : r.first = n := by omega
      exact .inr htarget
  · exact .inl h

end CaseRun

/-! ### Letters -/

section Letters

variable {c d : Char}

theorem toNat_toLower (c : Char) :
    c.toLower.toNat = if 65 ≤ c.toNat ∧ c.toNat ≤ 90 then c.toNat + 32 else c.toNat := by
  unfold Char.toLower
  simp only [ge_iff_le, UInt32.le_iff_toNat_le, Char.reduceVal, UInt32.reduceToNat, Char.toNat_val]
  split
  · rw [← Char.toNat_val, UInt32.toNat_add, Char.toNat_val]
    exact Nat.mod_eq_of_lt (show c.toNat + 32 < 2 ^ 32 by omega)
  · rfl

theorem isLower_iff : c.isLower = true ↔ 97 ≤ c.toNat ∧ c.toNat ≤ 122 := by
  show (decide ('a'.val ≤ c.val) && decide (c.val ≤ 'z'.val)) = true ↔ _
  simp [UInt32.le_iff_toNat_le, ← Char.toNat_val]

/-- A small ASCII letter that no letter beyond ASCII comes to. -/
def IsPlainSmall (d : Char) : Prop := d.isLower = true ∧ d ≠ 'k'

instance : DecidablePred IsPlainSmall := fun d =>
  inferInstanceAs (Decidable (d.isLower = true ∧ d ≠ 'k'))

theorem not_isPlainSmall_ofNat {n : Nat} (h : 128 ≤ n ∨ n = 'k'.toNat) :
    ¬ IsPlainSmall (Char.ofNat n) := by
  rcases h with h | rfl
  · rintro ⟨hlower, -⟩
    rw [isLower_iff, Char.ofNat] at hlower
    by_cases hvalid : n.isValidChar
    · rw [dif_pos hvalid] at hlower
      have hle : n ≤ 122 := hlower.2
      omega
    -- a number that is no code point stands for the null character
    · rw [dif_neg hvalid] at hlower
      exact absurd hlower.1 (by decide)
  · decide

theorem lowerChar_of_ascii (h : c.toNat < 128) : lowerChar c = [c.toLower] := by
  rw [lowerChar, if_neg (by omega), CaseRun.map_lowerRuns_of_lt h, ← toNat_toLower,
    Char.ofNat_toNat]

theorem exists_mem_lowerChar (h : 128 ≤ c.toNat) : ∃ d ∈ lowerChar c, ¬ IsPlainSmall d := by
  unfold lowerChar
  split
  · exact ⟨Char.ofNat 775, by simp, by decide⟩
  · exact ⟨_, List.mem_singleton_self _, not_isPlainSmall_ofNat (CaseRun.map_lowerRuns_of_ge h)⟩

end Letters

/-! ### Texts -/

section Texts

variable {before cs : List Char} {c : Char}

theorem lowerFrom_cons_of_ascii (h : c.toNat < 128) :
    lowerFrom before (c :: cs) = c.toLower :: lowerFrom (c :: before) cs := by
  rw [lowerFrom, if_neg (by omega), lowerChar_of_ascii h, List.singleton_append]

theorem exists_mem_lowerFrom_cons (h : 128 ≤ c.toNat) (before cs : List Char) :
    ∃ d ∈ lowerFrom before (c :: cs), ¬ IsPlainSmall d := by
  rw [lowerFrom]
  split
  -- a capital sigma has two small forms
  · refine ⟨_, List.mem_append_left _ (List.mem_singleton_self _), not_isPlainSmall_ofNat (.inl ?_)⟩
    split <;> decide
  · obtain ⟨d, hd, hnot⟩ := exists_mem_lowerChar h
    exact ⟨d, List.mem_append_left _ hd, hnot⟩

def IsPlainWord (word : List Char) : Prop := ∀ d ∈ word, IsPlainSmall d

instance : DecidablePred IsPlainWord := fun word => List.decidableBAll _ word

/-- **A word of plain small letters is the small form of its ASCII variants**, and of no other
text. -/
theorem lowerFrom_eq_iff {word : List Char} (hword : IsPlainWord word) :
    lowerFrom before cs = word ↔ cs.map Char.toLower = word := by
  induction cs generalizing before word with
  | nil => rw [lowerFrom, List.map_nil]
  | cons c cs ih =>
    rw [List.map_cons]
    by_cases hc : c.toNat < 128
    · rw [lowerFrom_cons_of_ascii hc]
      cases word with
      | nil => simp
      | cons d word => rw [List.cons.injEq, List.cons.injEq, ih (List.forall_mem_cons.mp hword).2]
    · refine iff_of_false (fun h => ?_) fun h => ?_
      · obtain ⟨d, hd, hnot⟩ := exists_mem_lowerFrom_cons (Nat.le_of_not_lt hc) before cs
        exact hnot (hword d (h ▸ hd))
      -- a letter beyond ASCII is its own variant only, and the word has none
      · have hlower := isLower_iff.mp (hword c.toLower (h ▸ List.mem_cons_self)).1
        rw [toNat_toLower, if_neg (by omega)] at hlower
        omega

/-- The Kelvin sign is the reason why the word must be without `k`. -/
example : lowerFrom [] [Char.ofNat 8490] = ['k'] := by decide +kernel

theorem toLower_eq_iff {s word : String} (hword : IsPlainWord word.toList) :
    toLower s = word ↔ s.toList.map Char.toLower = word.toList := by
  rw [toLower, ← lowerFrom_eq_iff hword, ← String.toList_inj, String.toList_ofList]

end Texts

end Manuscript.Text
