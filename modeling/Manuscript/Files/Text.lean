import Manuscript.Files.Tree
import Manuscript.Log

/-!
Reading text files. The bytes must be UTF-8, and every line break becomes a line feed.
-/

namespace Manuscript

/-- The text that bytes write, with its line breaks made alike. -/
def textOfBytes? (data : ByteArray) : Option String :=
  (String.fromUTF8? data).map fun s => String.ofList (Text.normalizeBreaks s.toList)

namespace FileTree

def readRecord (text : String) (p : Path) : Record :=
  .debug .files s!"Read {text.length} characters from {p.text}"

/-- The text of the file that a path leads to. -/
def readText (t : FileTree) (here : Location) (p : Path) : Run String :=
  match t.content? here p with
  | none => Run.fault (.fileNotFound p.text none)
  | some data =>
    match textOfBytes? data with
    | none => Run.fault (.fileAccess p.text (some s!"Cannot decode {p.text} as utf-8: {detail}"))
    | some text => do
      Run.write (readRecord text p)
      return text

end FileTree

end Manuscript
