import Manuscript.CommandLine.Session

/-!
The part of a file system that one run of the command may look at: the files that its arguments and
the environment name, and those that may hold its configuration.
-/

namespace Manuscript

/-- The location that an absolute path writes. -/
def Location.ofText (s : String) : Location := "" :: (Path.ofText s).names

namespace FileTree

/-- Puts a file where a path leads, and folders on the way. -/
def plant (t : FileTree) (loc : Location) (data : ByteArray) : List String → FileTree
  | [] => t.put loc (.file data)
  | name :: rest =>
    (t.makeFolder loc).plant (if name = ".." then Location.parent loc else loc ++ [name]) data rest

end FileTree

namespace CommandLine

/-- The paths that arguments and environment name. -/
def namedPaths (env : Environment) (args : List String) : List Path :=
  let files := match Request.ofArguments args with
    | .convert input template => input :: template.toList
    | _ => []
  (files ++ (env.value? Config.variableName).toList).map Path.ofText

/-- The locations that may hold a configuration for a run at a location. -/
def configLocations (here : Location) : List Location :=
  here.upward.flatMap fun folder =>
    (Config.fileNames ++ [Config.projectName]).map fun name => folder ++ [name]

def variableNames : List String :=
  [Config.variableName, LogSettings.levelVariable, LogSettings.fileVariable]

def logFile? (env : Environment) (args : List String) : Option String :=
  match Request.ofArguments args with
  | .convert _ _ => (LogSettings.ofEnvironment env).file
  | _ => none

/-- The file tree that was seen: files along their paths, files at locations, and folders. -/
def snapshot (here : Location) (named : List (Path × ByteArray))
    (found : List (Location × ByteArray)) (folders : List Location) : FileTree :=
  let t : FileTree := (here :: folders).foldl FileTree.makeFolder {}
  let t := found.foldl (fun t (loc, data) => t.write loc data) t
  named.foldl (fun t (p, data) =>
    t.plant (if p.start = .here then here else [""]) data p.names) t

end CommandLine

end Manuscript
