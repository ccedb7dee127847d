import Manuscript.Files.Text
import Manuscript.Yaml.Construct

/-!
Loading YAML from a text or from the bytes of a file. Only the root of what is loaded is looked at,
so a loader may have mappings of its own kind, such as one that holds itself; those of plain entries
are among them. A loader that reads a file in pieces may come to a problem before bytes that are no
text; the usual one decodes the whole file first.
-/

namespace Manuscript.Yaml

/-- A loader of YAML, whose mappings are of some type: what it makes of a text and of the bytes of a
file. -/
structure Loader (α : Type) where
  /-- a mapping of plain entries -/
  ofEntries : Entries → α
  load : String → Reading (Root α)
  loadFile : ByteArray → Reading (Root α)

namespace Loader

/-- The usual loader. -/
def usual : Loader Entries where
  ofEntries := id
  load text := (Yaml.load text).map Value.root
  loadFile data :=
    match textOfBytes? data with
    | some text => (Yaml.load text).map Value.root
    | none => .error (.breakdown .undecodableBytes)

@[simp] theorem usual_ofEntries (entries : Entries) : usual.ofEntries entries = entries := rfl

@[simp] theorem usual_load (text : String) : usual.load text = (Yaml.load text).map Value.root :=
  rfl

end Loader

end Manuscript.Yaml
