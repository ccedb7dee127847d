import Manuscript.Config.Build
import Manuscript.Proofs.Config.Search
import Manuscript.Proofs.Files.Tree

/-!
# Which files the configuration depends on

The configuration is read off the file that the environment names, or else off the project files
that the search examines and the file that it finds (`ReadsConfig`). Trees that agree but for a file
that is none of these give the same configuration (`discovered_congr`): no place that the search
comes to is that of the file (`not_reached`), since it would have been examined or found there.
-/

namespace Manuscript.Config

/-- A file is read for the configuration. -/
inductive ReadsConfig (t : FileTree) (here : Location) (env : Environment) (start : Location)
    (loc : Location) : Prop
  | named {s : String} (given : env.value? variableName = some s)
      (located : t.locate? here (Path.ofText s) = some loc)
  | examined (unnamed : env.value? variableName = none) (project : Examined t start loc)
  | found (unnamed : env.value? variableName = none)
      (nearest : (find? t start).outcome = .ok (some loc))

section Agreement

variable {t u : FileTree} {log loc here start : Location} {env : Environment}
  {r : Outcome (Option Location)} {p : Place}

/-! ### The search -/

theorem stops_congr (h : t.contentAt? loc = u.contentAt? loc) (hstops : Stops t loc r) :
    Stops u loc r := by
  cases hstops with
  | found hcounts =>
    obtain ⟨data, hdata, hsection⟩ := hcounts
    exact .found ⟨data, h.symm.trans hdata, hsection⟩
  | broken hbreaks =>
    obtain ⟨hproject, data, hdata, hb⟩ := hbreaks
    exact .broken ⟨hproject, data, h.symm.trans hdata, hb⟩

theorem passes_congr (h : t.contentAt? loc = u.contentAt? loc) (hpasses : Passes t loc) :
    Passes u loc := fun r hr => hpasses r (stops_congr h.symm hr)

theorem Reached.mono {q : Place} (h : Reached t start p) (hq : q ≤ p) : Reached t start q :=
  fun q' hlt => h q' (hlt.trans_le hq)

/-- **The search does not come to the place of a file** that it neither examines nor finds. -/
theorem not_reached (hfile : (t.contentAt? loc).isSome = true) (hexamined : ¬ Examined t start loc)
    (hfound : (find? t start).outcome ≠ .ok (some loc)) (hlies : LiesAt start p loc) :
    ¬ Reached t start p := by
  intro hreached
  obtain ⟨-, name, hname, hloc⟩ := id hlies
  obtain hown | rfl : name ∈ fileNames ∨ name = projectName := by
    simpa [candidateNames] using List.mem_of_getElem? hname
  · rw [hloc] at hfile
    refine hfound (find?_of_stops hlies hreached (.found ?_))
    rw [hloc]
    exact (counts_own_iff hown).mpr hfile
  · exact hexamined ⟨p, hlies, hreached, by rw [hloc, List.getLast?_concat], hfile⟩

theorem find?_congr (h : FileTree.AgreeBut log t u) (hexamined : ¬ Examined u start log)
    (hfound : (find? u start).outcome ≠ .ok (some log)) :
    (find? u start).outcome = (find? t start).outcome := by
  -- where the search comes in one tree, the other one holds the same
  have hsame : ∀ q l, Reached u start q → LiesAt start q l → u.contentAt? l = t.contentAt? l := by
    intro q l hreached hlies
    refine h.contentAt?_eq fun hl => ?_
    subst hl
    exact not_reached h.isFile hexamined hfound hlies hreached
  obtain ⟨p, loc, hlies, hreached, hstops⟩ | ⟨hnone, hpasses⟩ := find?_cases u start
  · refine (find?_of_stops hlies (fun q hlt l hl => ?_) ?_).symm
    · exact passes_congr (hsame q l (hreached.mono hlt.le) hl) (hreached q hlt l hl)
    · exact stops_congr (hsame p loc hreached hlies) hstops
  · obtain ⟨p, loc, hlies, -, hstops⟩ | ⟨hnone', -⟩ := find?_cases t start
    · have hreached : Reached u start p := fun q _ => hpasses q
      exact absurd (stops_congr (hsame p loc hreached hlies).symm hstops) (hpasses p loc hlies _)
    · rw [hnone, hnone']

/-- A file that is read for the configuration, and not named by the environment, has one of the
names of configuration files. -/
theorem ReadsConfig.liesAt (h : ReadsConfig t here env start loc)
    (unnamed : env.value? variableName = none) : ∃ p, LiesAt start p loc := by
  cases h with
  | named given _ => cases given.symm.trans unnamed
  | examined _ project =>
    obtain ⟨p, hlies, -⟩ := project
    exact ⟨p, hlies⟩
  | found _ nearest =>
    obtain ⟨p, l, hlies, -, hstops⟩ | ⟨hnone, -⟩ := find?_cases t start
    · rw [nearest] at hstops
      cases hstops with
      | found _ => exact ⟨p, hlies⟩
    · cases nearest.symm.trans hnone

/-! ### The configuration -/

theorem discover?_of_unnamed (h : env.value? variableName = none) (t : FileTree)
    (start : Location) :
    (discover? t env start).outcome = (find? t start).outcome.map (Option.map .found) := by
  simp only [discover?, h]
  exact Run.outcome_map (Option.map ConfigFile.found) (find? t start)

theorem load_congr {f : ConfigFile} (h : f.content? u here = f.content? t here) :
    load u here f = load t here f := by
  simp only [load, loadWith, h]

/-- What the configuration comes to, without what is logged on the way. -/
theorem discovered_outcome (t : FileTree) (here : Location) (env : Environment)
    (start : Location) : (discovered t here env start).outcome =
      (discover? t env start).outcome >>= fun
        | none => .ok {}
        | some f => load t here f >>= build := by
  unfold discovered
  cases hfile : (discover? t env start).outcome with
  | error e => rw [Run.bind_of_error hfile]; rfl
  | ok file =>
    rw [Run.bind_of_ok hfile]
    cases file with
    | none => rfl
    | some f =>
      simp only [bind, Run.bind, Run.write, Run.ofOutcome, Except.bind]
      cases load t here f <;> rfl

/-- **Trees that agree but for a file that is not read for it give the same configuration.** -/
theorem discovered_congr (h : FileTree.AgreeBut log t u)
    (hlog : ¬ ReadsConfig u here env start log) :
    (discovered u here env start).outcome = (discovered t here env start).outcome := by
  rw [discovered_outcome, discovered_outcome]
  cases hvalue : env.value? variableName with
  | some s =>
    rw [discover?_of_value hvalue, discover?_of_value hvalue]
    have hcontent : u.content? here (Path.ofText s) = t.content? here (Path.ofText s) :=
      h.content?_eq fun hs => hlog (.named hvalue hs)
    show load u here _ >>= build = load t here _ >>= build
    rw [load_congr (f := .named (Path.ofText s)) hcontent]
  | none =>
    have hfound : (find? u start).outcome ≠ .ok (some log) := fun hf => hlog (.found hvalue hf)
    have hsame := find?_congr h (fun he => hlog (.examined hvalue he)) hfound
    rw [discover?_of_unnamed hvalue, discover?_of_unnamed hvalue, ← hsame]
    cases hfind : (find? u start).outcome with
    | error e => rfl
    | ok file =>
      cases file with
      | none => rfl
      | some loc =>
        have hne : loc ≠ log := by
          rintro rfl
          exact hfound hfind
        show load u here (.found loc) >>= build = load t here (.found loc) >>= build
        rw [load_congr (f := .found loc) (h.contentAt?_eq hne)]

end Agreement

end Manuscript.Config
