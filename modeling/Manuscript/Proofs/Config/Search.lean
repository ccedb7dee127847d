import Manuscript.Config.Search
import Manuscript.Proofs.Config.Load
import Manuscript.Proofs.Frontmatter.Refusal
import Manuscript.Proofs.Run
import Mathlib.Data.Prod.Lex
import Mathlib.Order.Bounds.Basic

/-!
# Which configuration file is found

The places where a configuration file may be are ordered: by how many folders up from the start a
place is, and in one folder by the rank of the name (`Place`). At each place the search finds a file
that counts, breaks down, or passes on (`Stops`, `Passes`), and it ends with the first place that it
does not pass (`find?_cases`). From this:

* `find?_breakdown_iff`, `find?_succeeds_iff`: the search breaks down exactly with an examined
  project file whose section cannot be looked for;
* `least_candidate_found`: otherwise it finds the candidate at the least place, and that file can be
  loaded;
* `settled_iff`: when looking for a configuration file and loading one come to an end of their own.
-/

namespace Manuscript

namespace Location

theorem upward_append_singleton (loc : Location) (name : String) :
    upward (loc ++ [name]) = (loc ++ [name]) :: upward loc := by
  induction loc with
  | nil => rfl
  | cons first rest ih =>
    rw [List.cons_append, upward, ih, List.map_cons, List.cons_append, upward]

/-- **The folders around a location** are what walking from folder to folder comes to. -/
theorem getElem?_upward (loc : Location) (steps : ℕ) :
    loc.upward[steps]? = if steps < loc.length then some (parent^[steps] loc) else none := by
  induction loc using List.reverseRecOn generalizing steps with
  | nil => simp [upward]
  | append_singleton loc name ih =>
    rw [upward_append_singleton]
    cases steps with
    | zero => simp
    | succ steps =>
      rw [List.getElem?_cons_succ, ih, Function.iterate_succ_apply]
      cases loc with
      | nil => simp
      | cons first rest =>
        have hparent : parent (first :: rest ++ [name]) = first :: rest := by
          rw [parent, if_neg (by simp), List.dropLast_concat]
        rw [hparent]
        simp

end Location

namespace Config

/-! ### Places -/

/-- The names of configuration files in the order of preference; that of a project file is last. -/
def candidateNames : List String := fileNames ++ [projectName]

/-- A file at a location counts as a configuration file: any file but a project file, and that if
its section has entries. -/
def Counts (t : FileTree) (loc : Location) : Prop :=
  ∃ data, t.contentAt? loc = some data ∧
    (loc.getLast? = some projectName → ∃ entries, entries ≠ [] ∧ HoldsSection data entries)

/-- Looking for the section of the project file at a location breaks down. -/
def Breaks (t : FileTree) (loc : Location) (b : Breakdown) : Prop :=
  loc.getLast? = some projectName ∧ ∃ data, t.contentAt? loc = some data ∧ SectionBreaks data b

/-- What ends the search at a location. -/
inductive Stops (t : FileTree) (loc : Location) : Outcome (Option Location) → Prop
  | found (h : Counts t loc) : Stops t loc (.ok (some loc))
  | broken {b : Breakdown} (h : Breaks t loc b) : Stops t loc (.error (.breakdown b))

/-- The search goes on behind a location. -/
def Passes (t : FileTree) (loc : Location) : Prop := ∀ r, ¬ Stops t loc r

section Folder

variable {t : FileTree} {folder loc : Location}

theorem ne_projectName_of_mem {name : String} (h : name ∈ fileNames) : name ≠ projectName := by
  rintro rfl
  revert h
  decide

theorem counts_own_iff {name : String} (h : name ∈ fileNames) :
    Counts t (folder ++ [name]) ↔ (t.contentAt? (folder ++ [name])).isSome = true := by
  simp [Counts, Option.isSome_iff_exists, ne_projectName_of_mem h]

theorem passes_own_iff {name : String} (h : name ∈ fileNames) :
    Passes t (folder ++ [name]) ↔ (t.contentAt? (folder ++ [name])).isSome = false := by
  rw [← Bool.not_eq_true, ← counts_own_iff h]
  refine ⟨fun hp hc => hp _ (.found hc), fun hc r hr => ?_⟩
  cases hr with
  | found hcounts => exact hc hcounts
  | broken hbreaks => exact ne_projectName_of_mem h (by simpa using hbreaks.1)

theorem passes_of_contentAt?_eq_none (h : t.contentAt? loc = none) : Passes t loc := by
  rintro r (⟨data, hdata, -⟩ | ⟨-, data, hdata, -⟩)
  · cases h.symm.trans hdata
  · cases h.symm.trans hdata

theorem counts_project_iff {data : ByteArray} (h : loc.getLast? = some projectName)
    (hdata : t.contentAt? loc = some data) : Counts t loc ↔
      ∃ entries, entries ≠ [] ∧ projectSection (Location.text loc) data = .ok entries := by
  simp only [Counts, hdata, Option.some.injEq, exists_eq_left', h, true_imp_iff]
  refine exists_congr fun entries => and_congr_right fun hne => ?_
  exact (projectSection_ok_iff hne).symm

theorem breaks_project_iff {data : ByteArray} (h : loc.getLast? = some projectName)
    (hdata : t.contentAt? loc = some data) {b : Breakdown} : Breaks t loc b ↔
      projectSection (Location.text loc) data = .error (.breakdown b) := by
  simp only [Breaks, h, hdata, Option.some.injEq, exists_eq_left', true_and,
    projectSection_breakdown_iff]

/-- What the search makes of the project file at a location. -/
theorem projectCounts_cases (h : loc.getLast? = some projectName) :
    ((projectCounts t loc).outcome = .ok true ∧ Counts t loc) ∨
      ((projectCounts t loc).outcome = .ok false ∧ Passes t loc) ∨
      ∃ b, (projectCounts t loc).outcome = .error (.breakdown b) ∧ Breaks t loc b := by
  unfold projectCounts
  cases hdata : t.contentAt? loc with
  | none => exact .inr (.inl ⟨rfl, passes_of_contentAt?_eq_none hdata⟩)
  | some data =>
    have hcounts := counts_project_iff h hdata
    have hbreaks := @breaks_project_iff t loc data h hdata
    dsimp only
    obtain ⟨entries, hok, -⟩ | ⟨cause, hinvalid, -⟩ | ⟨b, herror, -⟩ :=
      projectSection_judged (Location.text loc) data
    · rw [hok] at hcounts hbreaks ⊢
      cases entries with
      | nil =>
        refine .inr (.inl ⟨rfl, ?_⟩)
        rintro r (hfound | hbroken)
        · simpa using hcounts.mp hfound
        · simpa using hbreaks.mp hbroken
      | cons entry rest => exact .inl ⟨rfl, hcounts.mpr ⟨_, by simp, rfl⟩⟩
    · rw [hinvalid] at hcounts hbreaks ⊢
      refine .inr (.inl ⟨rfl, ?_⟩)
      rintro r (hfound | hbroken)
      · obtain ⟨entries, -, hok⟩ := hcounts.mp hfound
        cases hok
      · cases hbreaks.mp hbroken
    · rw [herror] at hbreaks ⊢
      exact .inr (.inr ⟨b, rfl, hbreaks.mpr rfl⟩)

/-- **What the search makes of a folder**: it stops at the first name where it has to. -/
theorem inFolder?_cases (t : FileTree) (folder : Location) :
    (∃ (rank : ℕ) (name : String), candidateNames[rank]? = some name ∧
        Stops t (folder ++ [name]) (inFolder? t folder).outcome ∧
        ∀ k < rank, ∀ n, candidateNames[k]? = some n → Passes t (folder ++ [n])) ∨
      ((inFolder? t folder).outcome = .ok none ∧
        ∀ (k : ℕ) n, candidateNames[k]? = some n → Passes t (folder ++ [n])) := by
  unfold inFolder?
  cases hown : ownFile? t folder with
  | some loc =>
    obtain ⟨hsome, i, hi, hget, hbefore⟩ := List.find?_eq_some_iff_getElem.mp hown
    rw [List.length_map] at hi
    obtain rfl : folder ++ [fileNames[i]] = loc := by rw [← hget, List.getElem_map]
    refine .inl ⟨i, fileNames[i], ?_, .found ((counts_own_iff (by simp)).mpr hsome),
      fun k hk n hn => ?_⟩
    · rw [candidateNames, List.getElem?_append_left hi, List.getElem?_eq_getElem hi]
    · have hk' : k < fileNames.length := hk.trans hi
      rw [candidateNames, List.getElem?_append_left hk', List.getElem?_eq_getElem hk'] at hn
      obtain rfl := Option.some.inj hn
      refine (passes_own_iff (by simp)).mpr ?_
      simpa using hbefore k hk
  | none =>
    have hpass : ∀ name ∈ fileNames, Passes t (folder ++ [name]) := fun name hname => by
      have habsent := List.find?_eq_none.mp hown _ (List.mem_map_of_mem hname)
      exact (passes_own_iff hname).mpr (by simpa using habsent)
    have hlast : (folder ++ [projectName]).getLast? = some projectName := by simp
    have hrank : candidateNames[fileNames.length]? = some projectName := by decide
    have hbefore : ∀ k < fileNames.length, ∀ n, candidateNames[k]? = some n →
        Passes t (folder ++ [n]) := fun k hk n hn => by
      rw [candidateNames, List.getElem?_append_left hk] at hn
      exact hpass n (List.mem_of_getElem? hn)
    dsimp only
    obtain ⟨hrun, hcounts⟩ | ⟨hrun, hpasses⟩ | ⟨b, hrun, hbreaks⟩ :=
      projectCounts_cases (t := t) hlast
    · refine .inl ⟨_, _, hrank, ?_, hbefore⟩
      rw [Run.bind_of_ok hrun]
      exact .found hcounts
    · refine .inr ⟨by rw [Run.bind_of_ok hrun]; rfl, fun k n hn => ?_⟩
      obtain hmem | rfl : n ∈ fileNames ∨ n = projectName := by
        simpa [candidateNames] using List.mem_of_getElem? hn
      · exact hpass n hmem
      · exact hpasses
    · refine .inl ⟨_, _, hrank, ?_, hbefore⟩
      rw [Run.bind_of_error hrun]
      exact .broken hbreaks

end Folder

/-! ### Searching the folders -/

/-- The places where a configuration file may be, by how many folders up it is and by the rank of
its name. Nearer places come first, and of one folder those of preferred names. -/
abbrev Place : Type := ℕ ×ₗ ℕ

/-- The place a number of folders up, under the name of a rank. -/
abbrev place (steps rank : ℕ) : Place := toLex (steps, rank)

/-- A location lies at a place in a list of folders. -/
def LiesIn (folders : List Location) (p : Place) (loc : Location) : Prop :=
  ∃ folder name, folders[(ofLex p).1]? = some folder ∧
    candidateNames[(ofLex p).2]? = some name ∧ loc = folder ++ [name]

section Folders

variable {t : FileTree} {folder loc : Location} {folders : List Location}

theorem not_liesIn_nil {p : Place} : ¬ LiesIn [] p loc := by
  rintro ⟨folder, name, h, -⟩
  simp at h

theorem liesIn_zero {rank : ℕ} : LiesIn (folder :: folders) (place 0 rank) loc ↔
    ∃ name, candidateNames[rank]? = some name ∧ loc = folder ++ [name] := by
  simp [LiesIn]

theorem liesIn_succ {steps rank : ℕ} :
    LiesIn (folder :: folders) (place (steps + 1) rank) loc ↔
      LiesIn folders (place steps rank) loc := by
  simp [LiesIn]

theorem place_lt_place_iff {steps steps' rank rank' : ℕ} :
    place steps rank < place steps' rank' ↔ steps < steps' ∨ steps = steps' ∧ rank < rank' :=
  Prod.Lex.toLex_lt_toLex

/-- **What the search makes of folders**: it stops at the first place where it has to. -/
theorem inFolders?_cases (t : FileTree) : ∀ folders : List Location,
    (∃ p loc, LiesIn folders p loc ∧ Stops t loc (inFolders? t folders).outcome ∧
        ∀ q < p, ∀ l, LiesIn folders q l → Passes t l) ∨
      ((inFolders? t folders).outcome = .ok none ∧ ∀ q l, LiesIn folders q l → Passes t l)
  | [] => .inr ⟨rfl, fun q l hl => absurd hl not_liesIn_nil⟩
  | folder :: folders => by
    rw [inFolders?]
    obtain ⟨rank, name, hname, hstops, hbefore⟩ | ⟨hrun, hpasses⟩ := inFolder?_cases t folder
    · refine .inl ⟨place 0 rank, folder ++ [name], liesIn_zero.mpr ⟨name, hname, rfl⟩, ?_, ?_⟩
      · generalize hr : (inFolder? t folder).outcome = r at hstops
        cases hstops with
        | found hcounts =>
          rw [Run.bind_of_ok hr]
          exact .found hcounts
        | broken hbreaks =>
          rw [Run.bind_of_error hr]
          exact .broken hbreaks
      · rintro ⟨steps, k⟩ hq l hl
        obtain hlt | ⟨rfl, hk⟩ := place_lt_place_iff.mp hq
        · omega
        · obtain ⟨n, hn, rfl⟩ := liesIn_zero.mp hl
          exact hbefore k hk n hn
    · -- nothing stops the search in this folder, so the places of the others come next
      rw [Run.bind_of_ok hrun]
      have hnear : ∀ k l, LiesIn (folder :: folders) (place 0 k) l → Passes t l := fun k l hl => by
        obtain ⟨n, hn, rfl⟩ := liesIn_zero.mp hl
        exact hpasses k n hn
      obtain ⟨⟨steps, rank⟩, loc, hlies, hstops, hbefore⟩ | ⟨hnone, hall⟩ :=
        inFolders?_cases t folders
      · refine .inl ⟨place (steps + 1) rank, loc, liesIn_succ.mpr hlies, hstops, ?_⟩
        rintro ⟨steps' | steps', k⟩ hq l hl
        · exact hnear k l hl
        · refine hbefore (place steps' k) ?_ l (liesIn_succ.mp hl)
          have := place_lt_place_iff.mp hq
          exact place_lt_place_iff.mpr (by omega)
      · refine .inr ⟨hnone, ?_⟩
        rintro ⟨steps' | steps', k⟩ l hl
        · exact hnear k l hl
        · exact hall (place steps' k) l (liesIn_succ.mp hl)

end Folders

/-! ### Walking up from a start -/

/-- A location lies at a place seen from a start, in the folder that is so many steps up. -/
def LiesAt (start : Location) (p : Place) (loc : Location) : Prop :=
  (ofLex p).1 < start.length ∧ ∃ name, candidateNames[(ofLex p).2]? = some name ∧
    loc = Location.parent^[(ofLex p).1] start ++ [name]

/-- A file that counts, at a place seen from a start. -/
def Candidate (t : FileTree) (start : Location) (p : Place) (loc : Location) : Prop :=
  LiesAt start p loc ∧ Counts t loc

/-- The search comes to a place: it passes all places before. -/
def Reached (t : FileTree) (start : Location) (p : Place) : Prop :=
  ∀ q < p, ∀ l, LiesAt start q l → Passes t l

/-- The search examines a project file: it comes to its place, and the file is there. -/
def Examined (t : FileTree) (start : Location) (project : Location) : Prop :=
  ∃ p, LiesAt start p project ∧ Reached t start p ∧ project.getLast? = some projectName ∧
    (t.contentAt? project).isSome = true

section Start

variable {t : FileTree} {start loc : Location} {p q : Place} {b : Breakdown}

theorem liesIn_upward_iff : LiesIn start.upward p loc ↔ LiesAt start p loc := by
  unfold LiesIn LiesAt
  rw [Location.getElem?_upward]
  constructor
  · rintro ⟨folder, name, hfolder, hname, rfl⟩
    split_ifs at hfolder with hlt
    obtain rfl := Option.some.inj hfolder
    exact ⟨hlt, name, hname, rfl⟩
  · rintro ⟨hlt, name, hname, rfl⟩
    exact ⟨_, name, by rw [if_pos hlt], hname, rfl⟩

theorem LiesAt.unique {l l' : Location} (h : LiesAt start p l) (h' : LiesAt start p l') :
    l = l' := by
  obtain ⟨-, name, hname, rfl⟩ := h
  obtain ⟨-, name', hname', rfl⟩ := h'
  rw [Option.some.inj (hname.symm.trans hname')]

/-- A file does not count where looking for its section breaks down. -/
theorem Counts.not_breaks (h : Counts t loc) : ¬ Breaks t loc b := by
  rintro ⟨hproject, data, hdata, hb⟩
  obtain ⟨entries, -, hok⟩ := (counts_project_iff hproject hdata).mp h
  cases hok.symm.trans (projectSection_of_sectionBreaks _ hb)

theorem Breaks.unique {c : Breakdown} (hb : Breaks t loc b) (hc : Breaks t loc c) : b = c := by
  obtain ⟨hproject, data, hdata, hb⟩ := hb
  have hc := (breaks_project_iff hproject hdata).mp hc
  cases hc.symm.trans (projectSection_of_sectionBreaks _ hb)
  rfl

/-- **The search ends with the first place that it does not pass**, if there is one. -/
theorem find?_cases (t : FileTree) (start : Location) :
    (∃ p loc, LiesAt start p loc ∧ Reached t start p ∧ Stops t loc (find? t start).outcome) ∨
      ((find? t start).outcome = .ok none ∧ ∀ q l, LiesAt start q l → Passes t l) := by
  have hcases := inFolders?_cases t start.upward
  simp only [liesIn_upward_iff] at hcases
  obtain ⟨p, loc, hlies, hstops, hbefore⟩ | hnone := hcases
  · exact .inl ⟨p, loc, hlies, hbefore, hstops⟩
  · exact .inr hnone

/-- A place that the search comes to and does not pass is where it ends. -/
theorem find?_of_stops {r : Outcome (Option Location)} (hlies : LiesAt start p loc)
    (hreached : Reached t start p) (hstops : Stops t loc r) : (find? t start).outcome = r := by
  obtain ⟨q, l, hl, hq, hend⟩ | ⟨-, hall⟩ := find?_cases t start
  · obtain hlt | rfl | hlt := lt_trichotomy p q
    · exact absurd hstops (hq p hlt loc hlies r)
    · obtain rfl := hlies.unique hl
      generalize (find? t start).outcome = r' at hend
      cases hstops with
      | found hcounts =>
        cases hend with
        | found _ => rfl
        | broken hbreaks => exact absurd hbreaks hcounts.not_breaks
      | broken hb =>
        cases hend with
        | found hcounts => exact absurd hb hcounts.not_breaks
        | broken hb' => rw [hb.unique hb']
    · exact absurd hend (hreached q hlt l hl _)
  · exact absurd hstops (hall p loc hlies r)

/-- **What the search breaks down with.** -/
theorem find?_breakdown_iff : (find? t start).outcome = .error (.breakdown b) ↔
    ∃ project, Examined t start project ∧ Breaks t project b := by
  constructor
  · intro h
    obtain ⟨p, loc, hlies, hreached, hstops⟩ | ⟨hnone, -⟩ := find?_cases t start
    · rw [h] at hstops
      cases hstops with
      | broken hbreaks =>
        obtain ⟨hproject, data, hdata, -⟩ := id hbreaks
        exact ⟨loc, ⟨p, hlies, hreached, hproject, by simp [hdata]⟩, hbreaks⟩
    · cases h.symm.trans hnone
  · rintro ⟨project, ⟨p, hlies, hreached, -, -⟩, hbreaks⟩
    exact find?_of_stops hlies hreached (.broken hbreaks)

/-- The search comes to a result unless it breaks down. -/
theorem find?_ok_or_breakdown (t : FileTree) (start : Location) :
    (∃ found, (find? t start).outcome = .ok found) ∨
      ∃ b, (find? t start).outcome = .error (.breakdown b) := by
  obtain ⟨p, loc, -, -, hstops⟩ | ⟨hnone, -⟩ := find?_cases t start
  · generalize (find? t start).outcome = r at hstops
    cases hstops with
    | found _ => exact .inl ⟨_, rfl⟩
    | broken _ => exact .inr ⟨_, rfl⟩
  · exact .inl ⟨none, hnone⟩

/-- **The search comes to a result** iff looking for a section breaks down in no project file that
it examines. -/
theorem find?_succeeds_iff : (∃ found, (find? t start).outcome = .ok found) ↔
    ∀ project b, Examined t start project → ¬ Breaks t project b := by
  constructor
  · rintro ⟨found, hfound⟩ project b hexamined hbreaks
    cases hfound.symm.trans (find?_breakdown_iff.mpr ⟨project, hexamined, hbreaks⟩)
  · intro h
    obtain hok | ⟨b, hb⟩ := find?_ok_or_breakdown t start
    · exact hok
    · obtain ⟨project, hexamined, hbreaks⟩ := find?_breakdown_iff.mp hb
      exact absurd hbreaks (h project b hexamined)

/-! ### The nearest configuration file -/

theorem exists_formatOf? {name : String} (h : name ∈ candidateNames) :
    ∃ format, formatOf? name = some format := by
  have hall : ∀ n ∈ candidateNames, (formatOf? n).isSome = true := by decide +kernel
  exact Option.isSome_iff_exists.mp (hall name h)

/-- A file that was found is not refused for what it is, and a project file gives its section. -/
structure Loadable (t : FileTree) (here loc : Location) : Prop where
  accepted : ∀ cause, RefusesFile cause → load t here (.found loc) ≠ invalid cause
  sectionOf : loc.getLast? = some projectName → ∃ data entries, t.contentAt? loc = some data ∧
    HoldsSection data entries ∧ entries ≠ [] ∧ load t here (.found loc) = .ok entries

theorem Candidate.loadable (h : Candidate t start p loc) (here : Location) :
    Loadable t here loc := by
  obtain ⟨⟨-, name, hname, rfl⟩, data, hdata, hcounts⟩ := h
  set loc := Location.parent^[(ofLex p).1] start ++ [name] with hloc
  have hlast : (ConfigFile.found loc).name = name := by simp [ConfigFile.name, hloc]
  obtain ⟨format, hformat⟩ := exists_formatOf? (List.mem_of_getElem? hname)
  rw [← hlast] at hformat
  have hcontent : (ConfigFile.found loc).content? t here = some data := hdata
  refine ⟨fun cause hcause hrefused => ?_, fun hproject => ?_⟩
  · obtain ⟨entries, hok, -⟩ | ⟨cause', hinvalid, hcause'⟩ | ⟨b, herror, -⟩ :=
      loadWith_judged hcontent hformat
    · cases hrefused.symm.trans hok
    · cases hrefused.symm.trans hinvalid
      exact hcause' hcause
    · cases hrefused.symm.trans herror
  · obtain ⟨entries, hne, hholds⟩ := hcounts hproject
    refine ⟨data, entries, hdata, hholds, hne, ?_⟩
    have hformat : formatOf? (ConfigFile.found loc).name = some .project := by
      rw [ConfigFile.name, hproject, Option.getD_some]
      decide
    rw [load, loadWith_of_format hcontent hformat, decodeWith,
      projectSection_of_holdsSection _ hholds]
    rfl

/-- A place where the search finds a file is the least one of a candidate. -/
theorem isLeast_of_reached (hreached : Reached t start p) (h : Candidate t start p loc) :
    IsLeast {q | ∃ l, Candidate t start q l} p := by
  refine ⟨⟨loc, h⟩, fun q hq => ?_⟩
  obtain ⟨l, hlies, hcounts⟩ := hq
  exact not_lt.mp fun hlt => hreached q hlt l hlies _ (.found hcounts)

theorem discover?_of_value {env : Environment} {s : String} (h : env.value? variableName = some s)
    (t : FileTree) (start : Location) :
    discover? t env start = pure (some (.named (Path.ofText s))) := by
  simp only [discover?, h]

/-- **The nearest configuration file is found**, unless an examined project file is neither sound
nor refused: the candidate at the least place, none iff there is no candidate, and what is found can
be loaded. A file that the environment names is taken whatever the tree holds. -/
theorem least_candidate_found (t : FileTree) (start here : Location) :
    ((∀ project data, Examined t start project → t.contentAt? project = some data →
        Validated (fun _ => True) (projectSection (Location.text project) data)) →
      ∃ found, (find? t start).outcome = .ok found ∧
        (∀ loc, found = some loc ↔
          ∃ p, IsLeast {q | ∃ l, Candidate t start q l} p ∧ Candidate t start p loc) ∧
        (found = none ↔ ∀ p loc, ¬ Candidate t start p loc) ∧
        ∀ loc, found = some loc → Loadable t here loc) ∧
    ∀ (env : Environment) (s : String), env.lookup variableName = some s → s ≠ "" →
      discover? t env start = pure (some (.named (Path.ofText s))) := by
  refine ⟨fun hsound => ?_,
    fun env s h hs => discover?_of_value (Environment.value?_of_lookup h hs) t start⟩
  obtain ⟨p, loc, hlies, hreached, hstops⟩ | ⟨hnone, hpasses⟩ := find?_cases t start
  · generalize hr : (find? t start).outcome = r at hstops
    cases hstops with
    | found hcounts =>
      have hcandidate : Candidate t start p loc := ⟨hlies, hcounts⟩
      have hleast := isLeast_of_reached hreached hcandidate
      refine ⟨some loc, rfl, fun l => ?_, ?_, ?_⟩
      · constructor
        · intro hl
          obtain rfl := Option.some.inj hl
          exact ⟨p, hleast, hcandidate⟩
        · rintro ⟨q, hq, hl⟩
          obtain rfl := hleast.unique hq
          rw [hlies.unique hl.1]
      · exact iff_of_false (by simp) fun hno => hno p loc hcandidate
      · rintro l hl
        obtain rfl := Option.some.inj hl
        exact hcandidate.loadable here
    | broken hbreaks =>
      obtain ⟨hproject, data, hdata, hb⟩ := hbreaks
      have hvalid := hsound loc data ⟨p, hlies, hreached, hproject, by simp [hdata]⟩ hdata
      exact absurd hb (not_sectionBreaks_of_validated hvalid)
  · have hno : ∀ q l, ¬ Candidate t start q l := fun q l hl => hpasses q l hl.1 _ (.found hl.2)
    refine ⟨none, hnone, fun l => ?_, iff_of_true rfl hno, by simp⟩
    exact iff_of_false (by simp) fun ⟨q, _, hl⟩ => hno q l hl

end Start

theorem fromUTF8?_toUTF8 (s : String) : String.fromUTF8? s.toUTF8 = some s := by
  unfold String.fromUTF8?
  exact dif_pos s.isValidUTF8

theorem mem_entries_of_contentAt? {t : FileTree} {loc : Location} {data : ByteArray}
    (h : t.contentAt? loc = some data) : (loc, .file data) ∈ t.entries := by
  unfold FileTree.contentAt? FileTree.find? at h
  split at h
  · rename_i data' hlookup
    obtain rfl := Option.some.inj h
    obtain ⟨before, after, heq, -⟩ := List.lookup_eq_some_iff.mp hlookup
    simp [heq]
  · cases h

/-- Two projects, one in the other; the section of the inner one is a number. -/
def nestedProjects : FileTree where
  entries := [([""], .folder), (["", "outer"], .folder), (["", "outer", "inner"], .folder),
    (["", "outer", "pyproject.toml"], .file "[tool.md2latex.latex]\n".toUTF8),
    (["", "outer", "inner", "pyproject.toml"], .file "[tool]\nmd2latex = 1\n".toUTF8)]

/-- Whether decoded data is that of the outer project. -/
def isOuterContent : Option Entries → Bool
  | some [(.str "tool", .map [(.str "md2latex", .map [(.str "latex", .map [])])])] => true
  | _ => false

/-- Whether decoded data is that of the inner project. -/
def isInnerContent : Option Entries → Bool
  | some [(.str "tool", .map [(.str "md2latex", .int 1)])] => true
  | _ => false

theorem holdsSection_outer :
    HoldsSection "[tool.md2latex.latex]\n".toUTF8 [(.str "latex", .map [])] := by
  have hread : isOuterContent (Toml.read? "[tool.md2latex.latex]\n") = true := by decide +kernel
  unfold isOuterContent at hread
  split at hread
  next h => exact ⟨_, _, _, fromUTF8?_toUTF8 _, h, rfl, rfl⟩
  next => cases hread

theorem projectSection_inner (shown : String) :
    projectSection shown "[tool]\nmd2latex = 1\n".toUTF8 =
      invalid (.projectNotTable shown "int") := by
  have hread : isInnerContent (Toml.read? "[tool]\nmd2latex = 1\n") = true := by decide +kernel
  unfold isInnerContent at hread
  split at hread
  next h =>
    simp only [projectSection, fromUTF8?_toUTF8, h]
    rfl
  next => cases hread

theorem find?_nestedProjects : (find? nestedProjects ["", "outer", "inner"]).outcome =
    .ok (some ["", "outer", "pyproject.toml"]) := by
  have hinner : (inFolder? nestedProjects ["", "outer", "inner"]).outcome = .ok none := by
    have hown : ownFile? nestedProjects ["", "outer", "inner"] = none := by decide
    have hdata : nestedProjects.contentAt? ["", "outer", "inner", "pyproject.toml"] =
        some "[tool]\nmd2latex = 1\n".toUTF8 := rfl
    have hcounts : (projectCounts nestedProjects ["", "outer", "inner", "pyproject.toml"]).outcome =
        .ok false := by
      simp only [projectCounts, hdata, projectSection_inner]
      rfl
    simp only [inFolder?, hown]
    exact Run.bind_ok_iff.mpr ⟨false, hcounts, rfl⟩
  have houter : (inFolder? nestedProjects ["", "outer"]).outcome =
      .ok (some ["", "outer", "pyproject.toml"]) := by
    have hown : ownFile? nestedProjects ["", "outer"] = none := by decide
    have hdata : nestedProjects.contentAt? ["", "outer", "pyproject.toml"] =
        some "[tool.md2latex.latex]\n".toUTF8 := rfl
    have hcounts : (projectCounts nestedProjects ["", "outer", "pyproject.toml"]).outcome =
        .ok true := by
      simp only [projectCounts, hdata, projectSection_of_holdsSection _ holdsSection_outer]
      rfl
    simp only [inFolder?, hown]
    exact Run.bind_ok_iff.mpr ⟨true, hcounts, rfl⟩
  exact Run.bind_ok_iff.mpr ⟨none, hinner, Run.bind_ok_iff.mpr ⟨_, houter, rfl⟩⟩

/-- From the inner project the section of the outer one is found. -/
theorem least_candidate_found_outer :
    (∀ project data, Examined nestedProjects ["", "outer", "inner"] project →
        nestedProjects.contentAt? project = some data →
        Validated (fun _ => True) (projectSection (Location.text project) data)) ∧
      (∃ p, IsLeast {q | ∃ l, Candidate nestedProjects ["", "outer", "inner"] q l} p ∧
        Candidate nestedProjects ["", "outer", "inner"] p ["", "outer", "pyproject.toml"]) ∧
      Loadable nestedProjects [""] ["", "outer", "pyproject.toml"] := by
  have hsound : ∀ project data, Examined nestedProjects ["", "outer", "inner"] project →
      nestedProjects.contentAt? project = some data →
      Validated (fun _ => True) (projectSection (Location.text project) data) := by
    intro project data _ hdata
    have hmem := mem_entries_of_contentAt? hdata
    simp only [nestedProjects, List.mem_cons, Prod.mk.injEq, reduceCtorEq, and_false, false_or,
      FileEntry.file.injEq, List.not_mem_nil, or_false] at hmem
    obtain ⟨-, rfl⟩ | ⟨-, rfl⟩ := hmem
    · rw [projectSection_of_holdsSection _ holdsSection_outer]
      exact .ok trivial
    · rw [projectSection_inner]
      exact .fault _
  obtain ⟨found, hfound, hleast, -, hload⟩ :=
    (least_candidate_found nestedProjects ["", "outer", "inner"] [""]).1 hsound
  obtain rfl := Except.ok.inj (find?_nestedProjects.symm.trans hfound)
  exact ⟨hsound, (hleast _).mp rfl, hload _ rfl⟩

/-- **When a configuration file is found, and when it is loaded or refused**, whatever the loader of
YAML. The search comes to a result unless looking for a section breaks down in a project file that
it examines; a file is loaded or refused unless loading it breaks down. -/
theorem settled_iff {α : Type} (l : Yaml.Loader α) (t : FileTree) (start here : Location)
    (f : ConfigFile) :
    (((∃ found, (find? t start).outcome = .ok found) ↔
          ∀ project b, Examined t start project → ¬ Breaks t project b) ∧
        ∀ b, (find? t start).outcome = .error (.breakdown b) ↔
          ∃ project, Examined t start project ∧ Breaks t project b) ∧
      (Validated (fun _ => True) (loadWith l t here f) ↔ ∀ b, ¬ LoadingBreaks l t here f b) ∧
        ∀ b, loadWith l t here f = .error (.breakdown b) ↔ LoadingBreaks l t here f b :=
  ⟨⟨find?_succeeds_iff, fun _ => find?_breakdown_iff⟩, validated_loadWith_iff l t here f⟩

/-- A project file of one byte that is no text, and a file with a month that no year has. -/
def brokenFiles : FileTree where
  entries := [([""], .folder), (["", "pyproject.toml"], .file ⟨#[0xff]⟩),
    (["", "dates.yaml"], .file "a: 2024-13-45\n".toUTF8)]

/-- Bytes that are no text are neither passed over nor refused, and neither is a month that no year
has. -/
theorem broken_files_not_settled :
    (¬ ∃ found, (find? brokenFiles [""]).outcome = .ok found) ∧
      ¬ Validated (fun _ => True) (load brokenFiles [""] (.found ["", "pyproject.toml"])) ∧
      ¬ Validated (fun _ => True) (load brokenFiles [""] (.named (Path.ofText "dates.yaml"))) := by
  have hbroken : SectionBreaks ⟨#[0xff]⟩ .undecodableBytes := .undecodable (by decide)
  have hfind : (find? brokenFiles [""]).outcome = .error (.breakdown .undecodableBytes) := by
    have hown : ownFile? brokenFiles [""] = none := by decide
    have hdata : brokenFiles.contentAt? ["", "pyproject.toml"] = some ⟨#[0xff]⟩ := rfl
    have hcounts : (projectCounts brokenFiles ["", "pyproject.toml"]).outcome =
        .error (.breakdown .undecodableBytes) := by
      simp only [projectCounts, hdata, projectSection_of_sectionBreaks _ hbroken]
      rfl
    refine Run.bind_error_iff.mpr (.inl ?_)
    simp only [inFolder?, hown]
    exact Run.bind_error_iff.mpr (.inl hcounts)
  have hproject : LoadingBreaks .usual brokenFiles [""] (.found ["", "pyproject.toml"])
      .undecodableBytes := ⟨_, .project, rfl, by decide, .project hbroken⟩
  have htext : textOfBytes? "a: 2024-13-45\n".toUTF8 = some "a: 2024-13-45\n" := by
    rw [textOfBytes?, fromUTF8?_toUTF8]
    decide
  have hload : Yaml.Loader.usual.loadFile "a: 2024-13-45\n".toUTF8 =
      .error (.breakdown .impossibleValue) := by
    simp only [Yaml.Loader.usual, htext, load_thirteenth_month]
    rfl
  have hdates : LoadingBreaks .usual brokenFiles [""] (.named (Path.ofText "dates.yaml"))
      .impossibleValue := ⟨_, .yaml, by decide, by decide, .yaml hload⟩
  refine ⟨?_, fun h => ?_, fun h => ?_⟩
  · rintro ⟨found, hfound⟩
    cases hfound.symm.trans hfind
  · exact h.ne_breakdown _ (loadWith_of_loadingBreaks hproject)
  · exact h.ne_breakdown _ (loadWith_of_loadingBreaks hdates)

end Config

end Manuscript
