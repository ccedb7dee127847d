import Manuscript.Log

/-!
Checking that the packages a component needs are there. A package that cannot be loaded is missing;
one that can be loaded has to be installed in a version that meets its requirement, if it has one.
All that is wrong is reported at once. What is there, and which versions meet a requirement, is for
the host to say; where it breaks down instead, the check ends with that.
-/

namespace Manuscript

/-- A package that a component needs: the name it is installed under, the name it is loaded by, and
the versions that will do. -/
structure Package where
  name : String
  module : String
  spec : String
  deriving DecidableEq

/-- What a host says about packages, unless it breaks down. -/
structure Host where
  /-- whether a module can be loaded -/
  loads : String → Except Breakdown Bool
  /-- the version that a package is installed in -/
  installed? : String → Except Breakdown (Option String)
  /-- whether a requirement admits a version -/
  admits : (spec version : String) → Except Breakdown Bool

namespace Host

/-- A host that has everything. -/
def complete : Host where
  loads _ := .ok true
  installed? _ := .ok (some "1")
  admits _ _ := .ok true

/-- The version a package is installed in; an empty text counts as none. -/
def version? (h : Host) (name : String) : Except Breakdown (Option String) :=
  (h.installed? name).map (Option.filter fun v => !v.isEmpty)

/-- Whether an installed package meets a requirement, and its version. Without an installed version
the requirement is not looked at. -/
def check (h : Host) (name spec : String) : Outcome (Bool × Option String) :=
  match h.version? name with
  | .error b => .error (.breakdown b)
  | .ok none => .ok (false, none)
  | .ok (some installed) =>
    match h.admits spec installed with
    | .error b => .error (.breakdown b)
    | .ok meets => .ok (meets, some installed)

/-- What can be said about a needed package. -/
inductive Status where
  | met
  | missing
  | unmet (installed : Option String)
  deriving DecidableEq

/-- The status of a package. -/
def status (h : Host) (p : Package) : Outcome Status :=
  match h.loads p.module with
  | .error b => .error (.breakdown b)
  | .ok false => .ok .missing
  | .ok true =>
    if p.spec.isEmpty then .ok .met
    else (h.check p.name p.spec).map fun (meets, installed) =>
      if meets then .met else .unmet installed

/-- The packages with their statuses; the first one that nothing can be said about ends it. -/
def survey (h : Host) (packages : List Package) : Outcome (List (Package × Status)) :=
  packages.mapM fun p => (h.status p).map fun s => (p, s)

/-- The missing ones among surveyed packages. -/
def missing (survey : List (Package × Status)) : List Requirement :=
  survey.filterMap fun
    | (p, .missing) => some ⟨p.name, p.spec⟩
    | _ => none

/-- The surveyed packages whose version will not do. -/
def mismatches (survey : List (Package × Status)) : List Mismatch :=
  survey.filterMap fun
    | (p, .unmet installed) => some ⟨p.name, p.spec, installed.getD "unknown"⟩
    | _ => none

/-- Succeeds if a component has all that it needs. -/
def require (h : Host) (component : String) (packages : List Package) : Outcome Unit := do
  let found ← h.survey packages
  if (missing found).isEmpty && (mismatches found).isEmpty then return ()
  else throw (.fault (.dependency component (missing found) (mismatches found) none))

/-- A part of a component that runs only once the component has all that it needs. -/
def guarded (h : Host) (component : String) (packages : List Package) (part : Run α) : Run α := do
  Run.ofOutcome (h.require component packages)
  part

end Host

end Manuscript
