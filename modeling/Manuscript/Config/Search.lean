import Manuscript.Config.Load

/-!
Looking for a configuration file. The folder where the search starts comes first, then the folders
around it; in each folder the names are tried in a fixed order, and last a project file, which
counts only if its section has entries. A file that the environment names is taken without a search.
-/

namespace Manuscript

abbrev Environment := List (String × String)

/-- The value of a variable; an empty one counts as absent. -/
def Environment.value? (env : Environment) (name : String) : Option String :=
  (env.lookup name).filter fun v => !v.isEmpty

theorem Environment.value?_of_lookup {env : Environment} {name s : String}
    (h : env.lookup name = some s) (hs : s ≠ "") : env.value? name = some s := by
  rw [value?, h, Option.filter_some, if_pos (by simpa using hs)]

namespace Config

/-- The names of configuration files in the order of preference. -/
def fileNames : List String :=
  [".md2latex.toml", ".md2latex.yaml", ".md2latex.yml", ".md2latex.json"]

/-- What is logged about a project file that cannot be used. -/
def skippedRecord (loc : Location) : Record :=
  .debug .configuration s!"Skipping unreadable {Location.text loc}"

/-- The first configuration file of a folder by its own name. -/
def ownFile? (t : FileTree) (folder : Location) : Option Location :=
  (fileNames.map fun name => folder ++ [name]).find? fun loc => (t.contentAt? loc).isSome

/-- Whether the project file at a location has a configuration; one that is not valid is passed
over. -/
def projectCounts (t : FileTree) (loc : Location) : Run Bool :=
  match t.contentAt? loc with
  | none => return false
  | some data =>
    match projectSection (Location.text loc) data with
    | .ok entries => return !entries.isEmpty
    | .error (.fault _) => do
      Run.write (skippedRecord loc)
      return false
    | .error e => Run.fail e

/-- The configuration file of a folder. -/
def inFolder? (t : FileTree) (folder : Location) : Run (Option Location) :=
  match ownFile? t folder with
  | some loc => return some loc
  | none => do
    let project := folder ++ [projectName]
    if ← projectCounts t project then return some project else return none

/-- The configuration file of the first folder that has one. -/
def inFolders? (t : FileTree) : List Location → Run (Option Location)
  | [] => return none
  | folder :: rest => do
    match ← inFolder? t folder with
    | some loc => return some loc
    | none => inFolders? t rest

/-- The configuration file nearest to a location. -/
def find? (t : FileTree) (start : Location) : Run (Option Location) := inFolders? t start.upward

def variableName : String := "MD2LATEX_CONFIG"

/-- The configuration file to be used. -/
def discover? (t : FileTree) (env : Environment) (start : Location) : Run (Option ConfigFile) :=
  match env.value? variableName with
  | some s => return some (.named (Path.ofText s))
  | none => do return (← find? t start).map .found

end Config

end Manuscript
