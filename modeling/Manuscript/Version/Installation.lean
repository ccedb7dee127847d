import Manuscript.Dependency
import Manuscript.Version.Specifier

/-!
A host told by its modules and its installed versions. A module that is not among them cannot be
loaded, and a requirement is judged by the order of versions.
-/

namespace Manuscript

/-- What is there to be loaded, and which versions are installed. -/
structure Installation where
  modules : List String
  versions : List (String × String)

namespace Installation

/-- Whether a requirement admits a version. The requirement is read first. -/
def judge (spec installed : String) : Except Breakdown Bool :=
  match Version.requirement? spec, Version.ofText? installed with
  | none, _ => .error .invalidSpecifier
  | _, none => .error .invalidVersion
  | some clauses, some v => .ok (Version.satisfies v clauses)

def host (i : Installation) : Host where
  loads module := .ok (i.modules.contains module)
  installed? name := .ok (i.versions.lookup name)
  admits := judge

def check (i : Installation) (name spec : String) : Outcome (Bool × Option String) :=
  i.host.check name spec

/-- A part of a component that runs only if the installation has all that it needs. -/
def guarded (i : Installation) (component : String) (packages : List Package) (part : Run α) :
    Run α :=
  i.host.guarded component packages part

end Installation

end Manuscript
