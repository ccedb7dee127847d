import Manuscript.Proofs.Run
import Manuscript.Version.Installation
import Mathlib.Tactic.Push
import Mathlib.Tactic.Tauto

/-!
# All that a component lacks, reported at once

Where the host can judge the installed versions (`Judges`) and knows of every package whether it can
be loaded (`Decides`), each needed package is missing, unmet or neither, and this depends on the
package alone (`status_eq`). So one pass over the list of packages finds all that is missing and all
that is unmet, in order (`missing_survey`, `mismatches_survey`), and there is something of either
iff a package is not as it should be (`nothing_wrong_iff`). The message names the same packages as
the two lists (`message_dependency`). A package that the host breaks down in loading ends the pass
(`survey_of_broken`).
-/

namespace Manuscript

/-- What a missing package is reported as. -/
def Package.requirement (p : Package) : Requirement := ⟨p.name, p.spec⟩

def Mismatch.requirement (m : Mismatch) : Requirement := ⟨m.name, m.spec⟩

/-- How a requirement is written when it is to be installed. -/
def Requirement.argument (r : Requirement) : String :=
  if r.spec = "" then r.name else "\"" ++ r.name ++ r.spec ++ "\""

namespace Host

variable {h : Host} {packages : List Package} {p : Package}

/-! ### What can be said about a package -/

/-- A package that can be loaded. -/
def Loads (h : Host) (p : Package) : Prop := (h.loads p.module).toOption = some true

/-- The version that a package is installed in. -/
def installedVersion (h : Host) (p : Package) : Option String := (h.version? p.name).toOption.join

/-- A package that is installed in a version within its requirement. -/
def Meets (h : Host) (p : Package) : Prop :=
  ∃ installed ∈ h.installedVersion p, (h.admits p.spec installed).toOption = some true

/-- **A package that is as it should be**: it can be loaded, and its requirement, if it has one, is
met. -/
def Satisfies (h : Host) (p : Package) : Prop := h.Loads p ∧ (p.spec ≠ "" → h.Meets p)

/-- A package that can be loaded and whose requirement is not met. -/
def Unmet (h : Host) (p : Package) : Prop := h.Loads p ∧ p.spec ≠ "" ∧ ¬ h.Meets p

instance : DecidablePred h.Loads := fun _ => inferInstanceAs (Decidable (_ = _))

instance : DecidablePred h.Meets := fun p =>
  inferInstanceAs (Decidable (∃ installed ∈ h.installedVersion p, _))

instance : DecidablePred h.Satisfies := fun _ => inferInstanceAs (Decidable (_ ∧ _))

instance : DecidablePred h.Unmet := fun _ => inferInstanceAs (Decidable (_ ∧ _))

/-- What an unmet package is reported as. -/
def mismatch (h : Host) (p : Package) : Mismatch :=
  ⟨p.name, p.spec, (h.installedVersion p).getD "unknown"⟩

/-- Whether a requirement admits the version that its package is installed in can be told: both are
valid. -/
def Judges (h : Host) (packages : List Package) : Prop :=
  ∀ p ∈ packages, p.spec ≠ "" → ∃ found, h.version? p.name = .ok found ∧
    ∀ installed ∈ found, ∃ meets, h.admits p.spec installed = .ok meets

/-- It is known of each package whether it can be loaded. -/
def Decides (h : Host) (packages : List Package) : Prop :=
  ∀ p ∈ packages, ∃ loaded, h.loads p.module = .ok loaded

theorem Judges.of_subset {some : List Package} (judged : h.Judges packages)
    (hsome : some ⊆ packages) : h.Judges some := fun p hp => judged p (hsome hp)

/-- Checking a package tells whether it is met, and the installed version. -/
theorem Judges.check_eq (judged : h.Judges packages) (hp : p ∈ packages) (hspec : p.spec ≠ "") :
    h.check p.name p.spec = .ok (decide (h.Meets p), h.installedVersion p) := by
  obtain ⟨found, hfound, hadmits⟩ := judged p hp hspec
  have hversion : h.installedVersion p = found := by
    rw [installedVersion, hfound]
    rfl
  unfold check
  rw [hfound, hversion]
  cases found with
  | none => simp [Meets, hversion]
  | some installed =>
    obtain ⟨meets, hmeets⟩ := hadmits installed rfl
    simp [Meets, hversion, hmeets, Except.toOption]

/-- What can be said about a package, if anything can. -/
def statusOf (h : Host) (p : Package) : Status :=
  if ¬ h.Loads p then .missing
  else if h.Satisfies p then .met
  else .unmet (h.installedVersion p)

/-- The status of a package depends on nothing but the package. -/
theorem Judges.status_eq (judged : h.Judges packages) (hp : p ∈ packages)
    (hloads : ∃ loaded, h.loads p.module = .ok loaded) : h.status p = .ok (h.statusOf p) := by
  obtain ⟨loaded, hloads⟩ := hloads
  have hloaded : h.Loads p ↔ loaded = true := by simp [Loads, hloads, Except.toOption]
  unfold status statusOf
  rw [hloads]
  cases loaded with
  | false =>
    dsimp only
    rw [if_pos (by simp [hloaded])]
  | true =>
    replace hloaded : h.Loads p := hloaded.mpr rfl
    rw [if_neg (not_not.mpr hloaded)]
    dsimp only
    by_cases hspec : p.spec = ""
    · rw [if_pos (by simp [hspec]), if_pos ⟨hloaded, fun hne => absurd hspec hne⟩]
    rw [if_neg (by simpa using hspec), judged.check_eq hp hspec]
    by_cases hmeets : h.Meets p
    · rw [if_pos ⟨hloaded, fun _ => hmeets⟩]
      simp [Except.map, hmeets]
    · rw [if_neg fun hsatisfied => hmeets (hsatisfied.2 hspec)]
      simp [Except.map, hmeets]

/-! ### What a survey finds -/

/-- A survey tells the status of each package. -/
theorem Judges.survey_eq (judged : h.Judges packages) (decided : h.Decides packages) :
    h.survey packages = .ok (packages.map fun p => (p, h.statusOf p)) := by
  have hall : ∀ p ∈ packages, h.status p = .ok (h.statusOf p) :=
    fun p hp => judged.status_eq hp (decided p hp)
  clear judged decided
  unfold survey
  induction packages with
  | nil => rfl
  | cons p packages ih =>
    obtain ⟨hp, hrest⟩ := List.forall_mem_cons.mp hall
    rw [List.mapM_cons, hp, ih hrest]
    rfl

/-- A survey ends with the first package that loading breaks down with. -/
theorem Judges.survey_of_broken {before after : List Package} {b : Breakdown}
    (judged : h.Judges before) (decided : h.Decides before)
    (hbroken : h.loads p.module = .error b) :
    h.survey (before ++ p :: after) = .error (.breakdown b) := by
  have hbefore : before.mapM (fun p => (h.status p).map fun s => (p, s)) = _ :=
    judged.survey_eq decided
  have hp : h.status p = .error (.breakdown b) := by rw [status, hbroken]
  unfold survey
  rw [List.mapM_append, hbefore, List.mapM_cons, hp]
  rfl

/-- **Exactly the packages that cannot be loaded are missing**, in order. -/
theorem missing_survey (h : Host) (packages : List Package) :
    missing (packages.map fun p => (p, h.statusOf p)) =
      (packages.filter fun p => ¬ h.Loads p).map Package.requirement := by
  unfold missing
  induction packages with
  | nil => rfl
  | cons p packages ih =>
    rw [List.map_cons, List.filterMap_cons, ih, List.filter_cons, statusOf]
    by_cases hloads : h.Loads p
    · by_cases hsatisfied : h.Satisfies p <;> simp [hloads, hsatisfied]
    · simp [hloads, Package.requirement]

/-- **Exactly the packages that can be loaded and are not met are mismatches**, in order. -/
theorem mismatches_survey (h : Host) (packages : List Package) :
    mismatches (packages.map fun p => (p, h.statusOf p)) =
      (packages.filter fun p => h.Unmet p).map h.mismatch := by
  unfold mismatches
  induction packages with
  | nil => rfl
  | cons p packages ih =>
    have hunmet : h.Unmet p ↔ h.Loads p ∧ ¬ h.Satisfies p := by
      unfold Unmet Satisfies
      tauto
    rw [List.map_cons, List.filterMap_cons, ih, List.filter_cons, statusOf]
    by_cases hloads : h.Loads p
    · by_cases hsatisfied : h.Satisfies p <;> simp [hunmet, hloads, hsatisfied, mismatch]
    · simp [hunmet, hloads]

/-- Nothing is missing and nothing is unmet iff all packages are as they should be. -/
theorem nothing_wrong_iff (h : Host) (packages : List Package) :
    ((packages.filter fun p => ¬ h.Loads p).map Package.requirement = [] ∧
      (packages.filter fun p => h.Unmet p).map h.mismatch = []) ↔
        ∀ p ∈ packages, h.Satisfies p := by
  have hsatisfies : ∀ p, h.Satisfies p ↔ h.Loads p ∧ ¬ h.Unmet p := by
    intro p
    unfold Satisfies Unmet
    tauto
  rw [List.map_eq_nil_iff, List.map_eq_nil_iff, List.filter_eq_nil_iff, List.filter_eq_nil_iff]
  simp only [hsatisfies, decide_eq_true_eq, not_not, ← forall_and]

/-- **All that is wrong is reported at once**, in the order of the packages. -/
theorem Judges.require_eq (judged : h.Judges packages) (decided : h.Decides packages)
    (component : String) :
    h.require component packages =
      if ∀ p ∈ packages, h.Satisfies p then .ok ()
      else .error (.fault (.dependency component
        ((packages.filter fun p => ¬ h.Loads p).map Package.requirement)
        ((packages.filter fun p => h.Unmet p).map h.mismatch) none)) := by
  unfold require
  rw [judged.survey_eq decided]
  show (if _ then _ else _) = _
  rw [missing_survey, mismatches_survey]
  refine if_congr ?_ rfl rfl
  rw [Bool.and_eq_true, List.isEmpty_iff, List.isEmpty_iff, nothing_wrong_iff]

end Host

/-! ### What the message says -/

/-- The lines of a dependency message but the last: one about the missing packages and one about
the unmet ones, if there are any. -/
def problemLines (component : String) (missing : List Requirement) (unmet : List Mismatch) :
    List String :=
  (if missing = [] then [] else [component ++ " requires the following packages: " ++
    ", ".intercalate (missing.map fun r => "'" ++ r.name ++ r.spec ++ "'")]) ++
  (if unmet = [] then [] else [component ++ " has version mismatches: " ++
    ", ".intercalate (unmet.map fun m =>
      "'" ++ m.name ++ "' (requires " ++ m.spec ++ ", but " ++ m.installed ++ " is installed)")])

/-- The last line of a dependency message names the missing packages, then the unmet ones. -/
theorem message_dependency (component : String) {missing : List Requirement}
    {unmet : List Mismatch} (h : ¬ (missing = [] ∧ unmet = [])) :
    (Fault.dependency component missing unmet none).message =
      "\n".intercalate (problemLines component missing unmet) ++
        ("\nInstall with: pip install --upgrade " ++ " ".intercalate
          ((missing ++ unmet.map Mismatch.requirement).map Requirement.argument)) := by
  have hneeded : missing ++ unmet.map Mismatch.requirement ≠ [] := by
    rw [Ne, List.append_eq_nil_iff, List.map_eq_nil_iff]
    exact h
  have hhint : Fault.installHint (missing ++ unmet.map Mismatch.requirement) =
      "\nInstall with: pip install --upgrade " ++ " ".intercalate
        ((missing ++ unmet.map Mismatch.requirement).map Requirement.argument) := by
    unfold Fault.installHint
    rw [if_neg (by simpa only [List.isEmpty_iff] using hneeded)]
    simp only [String.isEmpty_iff]
    rfl
  rw [← hhint]
  show Fault.dependencyMessage component missing unmet = _
  unfold Fault.dependencyMessage problemLines
  simp only [List.isEmpty_iff]
  rfl

/-! ### The part that needs the packages -/

namespace Host

variable {h : Host} {packages : List Package} {α : Type}

theorem Satisfies.decided {p : Package} (hp : h.Satisfies p) :
    ∃ loaded, h.loads p.module = .ok loaded := by
  obtain ⟨hloads, -⟩ := hp
  unfold Loads at hloads
  cases hanswer : h.loads p.module with
  | ok loaded => exact ⟨loaded, rfl⟩
  | error b =>
    rw [hanswer] at hloads
    cases hloads

theorem guarded_of_require {component : String} {e : Failure} (part : Run α)
    (hrequire : h.require component packages = .error e) :
    h.guarded component packages part = Run.fail e :=
  Run.bind_of_error (r := Run.ofOutcome (h.require component packages)) hrequire _

/-- An installation whose versions can all be read judges requirements that can be read. -/
theorem judges_host {i : Installation}
    (hversions : ∀ entry ∈ i.versions, ∃ v, Version.ofText? entry.2 = some v)
    (hspecs : ∀ p ∈ packages, ∃ clauses, Version.requirement? p.spec = some clauses) :
    i.host.Judges packages := by
  intro p hp _
  refine ⟨_, rfl, fun installed hinstalled => ?_⟩
  obtain ⟨hlookup, -⟩ := Option.filter_eq_some_iff.mp hinstalled
  obtain ⟨before, after, heq, -⟩ := List.lookup_eq_some_iff.mp hlookup
  obtain ⟨v, hv⟩ := hversions (p.name, installed) (by simp [heq])
  obtain ⟨clauses, hclauses⟩ := hspecs p hp
  refine ⟨Version.satisfies v clauses, ?_⟩
  simp only [Installation.host, Installation.judge, hclauses, hv]

end Host

end Manuscript
