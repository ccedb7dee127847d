import Manuscript.Files.Path

/-!
Trees of files. A location is the list of names that leads to it from the outermost one; the tree
says what is found where. A path is followed name by name, and every location on the way must be a
folder.
-/

namespace Manuscript

/-- The names that lead to a place in a file tree, the outermost first. -/
abbrev Location := List String

namespace Location

def text (loc : Location) : String := if loc = [""] then "/" else "/".intercalate loc

/-- The folder that a location lies in; the folder without a name is its own. -/
def parent (loc : Location) : Location := if loc = [""] then loc else loc.dropLast

/-- A location and the folders around it, the nearest first. -/
def upward (loc : Location) : List Location :=
  match loc with
  | [] => []
  | name :: rest => (upward rest).map (name :: ·) ++ [[name]]

/-- Where names lead without a look at a file tree. -/
def join (loc : Location) (names : List String) : Location :=
  names.foldl (fun l name => if name = ".." then parent l else l ++ [name]) loc

/-- Where a path leads from a location, without a look at a file tree. -/
def follow (loc : Location) (p : Path) : Location :=
  match p.start with
  | .here => loc.join p.names
  | _ => join [""] p.names

end Location

/-- What is found at a location. -/
inductive FileEntry where
  | folder
  | file (data : ByteArray)

/-- What is found where. -/
structure FileTree where
  entries : List (Location × FileEntry) := []

namespace FileTree

def find? (t : FileTree) (loc : Location) : Option FileEntry := t.entries.lookup loc

def isFolder (t : FileTree) (loc : Location) : Bool :=
  match t.find? loc with
  | some .folder => true
  | _ => false

/-- The content of the file at a location. -/
def contentAt? (t : FileTree) (loc : Location) : Option ByteArray :=
  match t.find? loc with
  | some (.file data) => some data
  | _ => none

/-- Follows names from a location; only folders lead on. -/
def walk? (t : FileTree) (loc : Location) : List String → Option Location
  | [] => some loc
  | name :: rest =>
    if t.isFolder loc then t.walk? (if name = ".." then Location.parent loc else loc ++ [name]) rest
    else none

def content? (t : FileTree) (here : Location) (p : Path) : Option ByteArray :=
  let first : Location := match p.start with
    | .here => here
    | _ => [""]
  (t.walk? first p.names).bind t.contentAt?

/-- Whether a file can be written at a location: its folder is there, and it is no folder itself. -/
def canWrite (t : FileTree) (loc : Location) : Bool :=
  t.isFolder (Location.parent loc) && !t.isFolder loc

/-- Puts an entry at a location, in place of what was there. -/
def put (t : FileTree) (loc : Location) (e : FileEntry) : FileTree :=
  if (t.find? loc).isSome then
    ⟨t.entries.map fun (l, old) => if l = loc then (l, e) else (l, old)⟩
  else ⟨t.entries ++ [(loc, e)]⟩

def makeFolder (t : FileTree) (loc : Location) : FileTree :=
  loc.upward.reverse.foldl (fun t l => if (t.find? l).isSome then t else t.put l .folder) t

/-- Writes a file, and makes the folders around it. -/
def write (t : FileTree) (loc : Location) (data : ByteArray) : FileTree :=
  (t.makeFolder (Location.parent loc)).put loc (.file data)

/-- Adds to the end of a file, which is made if it is not there. -/
def append (t : FileTree) (loc : Location) (data : ByteArray) : FileTree :=
  t.put loc (.file ((t.contentAt? loc).getD ByteArray.empty ++ data))

/-- Takes away what is at a location and below it. -/
def remove (t : FileTree) (loc : Location) : FileTree :=
  ⟨t.entries.filter fun (l, _) => !loc.isPrefixOf l⟩

def files (t : FileTree) : List (Location × ByteArray) :=
  t.entries.filterMap fun
    | (l, .file data) => some (l, data)
    | _ => none

end FileTree

end Manuscript
