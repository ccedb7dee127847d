import Manuscript.Files.Text

/-!
# What writing to one file leaves as it was

Two trees agree but for a file (`AgreeBut`) when nothing else differs and the file is a folder in
neither. Adding to a file makes such a tree (`agreeBut_append`), and a path that does not lead to
the file leads to the same content in both (`AgreeBut.content?_eq`).
-/

namespace Manuscript.FileTree

variable {t u v : FileTree} {log loc here : Location} {p : Path}

/-! ### Entries -/

theorem lookup_cons_ite (k l : Location) (e : FileEntry) (entries : List (Location × FileEntry)) :
    ((k, e) :: entries).lookup l = if l = k then some e else entries.lookup l := by
  by_cases hl : l = k
  · simp [hl]
  · rw [List.lookup_cons, beq_false_of_ne hl, if_neg hl]

theorem lookup_replaced (entries : List (Location × FileEntry)) (loc l : Location) (e : FileEntry) :
    (entries.map fun (k, old) => if k = loc then (k, e) else (k, old)).lookup l =
      if l = loc then (entries.lookup l).map fun _ => e else entries.lookup l := by
  induction entries with
  | nil => simp
  | cons entry entries ih =>
    obtain ⟨k, old⟩ := entry
    rw [List.map_cons]
    dsimp only
    by_cases hk : k = loc
    · rw [if_pos hk, lookup_cons_ite, lookup_cons_ite, ih, hk]
      by_cases hl : l = loc
      · rw [if_pos hl, if_pos hl, if_pos hl, Option.map_some]
      · rw [if_neg hl, if_neg hl, if_neg hl, if_neg hl]
    · rw [if_neg hk, lookup_cons_ite, lookup_cons_ite, ih]
      by_cases hl : l = k
      · rw [if_pos hl, if_pos hl, if_neg fun h => hk (hl.symm.trans h)]
      · rw [if_neg hl, if_neg hl]

theorem lookup_append_single (entries : List (Location × FileEntry)) (loc l : Location)
    (e : FileEntry) (h : entries.lookup loc = none) :
    (entries ++ [(loc, e)]).lookup l = if l = loc then some e else entries.lookup l := by
  rw [List.lookup_append, lookup_cons_ite, List.lookup_nil]
  by_cases hl : l = loc
  · rw [if_pos hl, if_pos hl, hl, h, Option.none_or]
  · rw [if_neg hl, if_neg hl, Option.or_none]

/-- What is found after an entry was put at a location. -/
theorem find?_put (t : FileTree) (loc l : Location) (e : FileEntry) :
    (t.put loc e).find? l = if l = loc then some e else t.find? l := by
  unfold put
  cases hfound : t.find? loc with
  | none => exact lookup_append_single t.entries loc l e hfound
  | some old =>
    refine (lookup_replaced t.entries loc l e).trans ?_
    by_cases hl : l = loc
    · subst hl
      simp [show t.entries.lookup l = some old from hfound]
    · rw [if_neg hl, if_neg hl]
      rfl

/-! ### Trees that agree but for a file -/

/-- **Trees agree but for a file**: all else is the same, and the file is no folder before and is
there afterwards. -/
structure AgreeBut (log : Location) (t u : FileTree) : Prop where
  find?_eq : ∀ loc, loc ≠ log → u.find? loc = t.find? loc
  notFolder : t.isFolder log = false
  isFile : (u.contentAt? log).isSome = true

theorem isFolder_eq_false_of_contentAt? (h : (t.contentAt? loc).isSome = true) :
    t.isFolder loc = false := by
  unfold contentAt? at h
  unfold isFolder
  cases hfound : t.find? loc with
  | none => rfl
  | some e =>
    cases e with
    | folder => simp [hfound] at h
    | file data => rfl

theorem agreeBut_append (h : t.isFolder log = false) (data : ByteArray) :
    AgreeBut log t (t.append log data) where
  find?_eq loc hloc := by rw [append, find?_put, if_neg hloc]
  notFolder := h
  isFile := by simp [contentAt?, append, find?_put]

namespace AgreeBut

theorem trans (htu : AgreeBut log t u) (huv : AgreeBut log u v) : AgreeBut log t v where
  find?_eq loc hloc := (huv.find?_eq loc hloc).trans (htu.find?_eq loc hloc)
  notFolder := htu.notFolder
  isFile := huv.isFile

theorem contentAt?_eq (h : AgreeBut log t u) (hloc : loc ≠ log) :
    u.contentAt? loc = t.contentAt? loc := by
  unfold contentAt?
  rw [h.find?_eq loc hloc]

theorem isFolder_eq (h : AgreeBut log t u) (loc : Location) : u.isFolder loc = t.isFolder loc := by
  by_cases hloc : loc = log
  · rw [hloc, h.notFolder, isFolder_eq_false_of_contentAt? h.isFile]
  · unfold isFolder
    rw [h.find?_eq loc hloc]

end AgreeBut

/-! ### Where paths lead -/

/-- The location that a path leads to. -/
def locate? (t : FileTree) (here : Location) (p : Path) : Option Location :=
  let first : Location := match p.start with
    | .here => here
    | _ => [""]
  t.walk? first p.names

theorem content?_eq_bind (t : FileTree) (here : Location) (p : Path) :
    t.content? here p = (t.locate? here p).bind t.contentAt? := rfl

namespace AgreeBut

theorem walk?_eq (h : AgreeBut log t u) : ∀ (names : List String) (loc : Location),
    u.walk? loc names = t.walk? loc names
  | [], loc => rfl
  | name :: names, loc => by rw [walk?, walk?, h.isFolder_eq, h.walk?_eq names]

theorem locate?_eq (h : AgreeBut log t u) (here : Location) (p : Path) :
    u.locate? here p = t.locate? here p := h.walk?_eq _ _

/-- A path that does not lead to the file leads to the same content in both trees. -/
theorem content?_eq (h : AgreeBut log t u) (hp : u.locate? here p ≠ some log) :
    u.content? here p = t.content? here p := by
  rw [content?_eq_bind, content?_eq_bind, ← h.locate?_eq]
  cases hlocated : u.locate? here p with
  | none => rfl
  | some loc =>
    refine h.contentAt?_eq fun hloc => hp ?_
    rw [hlocated, hloc]

end AgreeBut

end Manuscript.FileTree
