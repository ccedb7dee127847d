import Manuscript.Binary64.Basic
import Manuscript.Moment

/-!
Decoded data: what a metadata block or a configuration file holds. Mappings keep the order in which
their keys were first written. The elements of a set are listed in the order in which they are gone
through.
-/

namespace Manuscript

/-- The types that can stand as values themselves. -/
inductive TypeName where
  | parserOptions
  | rendererOptions
  | templateOptions
  | integer
  | text
  deriving DecidableEq

namespace TypeName

/-- The name under which messages show a type. -/
def name : TypeName → String
  | parserOptions => "MarkdownParserOptions"
  | rendererOptions => "LatexRendererOptions"
  | templateOptions => "TemplateOptions"
  | integer => "int"
  | text => "str"

end TypeName

/-- A decoded value. -/
inductive Value where
  | null
  | bool (b : Bool)
  | int (n : Int)
  | float (x : Binary64)
  | str (s : String)
  | bytes (data : List UInt8)
  | date (d : Date)
  | time (t : TimeOfDay)
  | datetime (d : Date) (t : TimeOfDay)
  | list (items : List Value)
  | tuple (items : List Value)
  | set (items : List Value)
  | map (entries : List (Value × Value))
  | type (t : TypeName)
  deriving Inhabited

/-- The entries of a mapping, in the order in which the keys were first written. -/
abbrev Entries := List (Value × Value)

/-- What stands at the root of decoded data, which is meant to be a mapping. -/
inductive Root (α : Type) where
  | mapping (fields : α)
  | nothing
  | other (typeName : String)

namespace Root

/-- The same root with its mapping changed. -/
def map {α β : Type} (f : α → β) : Root α → Root β
  | mapping fields => mapping (f fields)
  | nothing => nothing
  | other typeName => other typeName

end Root

namespace Value

def typeName : Value → String
  | null => "NoneType"
  | bool _ => "bool"
  | int _ => "int"
  | float _ => "float"
  | str _ => "str"
  | bytes _ => "bytes"
  | date _ => "date"
  | time _ => "time"
  | datetime _ _ => "datetime"
  | list _ => "list"
  | tuple _ => "tuple"
  | set _ => "set"
  | map _ => "dict"
  | type _ => "type"

/-- Whether a value counts as true: everything does but null, false, zero and what is empty. -/
def truthy : Value → Bool
  | null => false
  | bool b => b
  | int n => n != 0
  | float x => match x.read with
    | .finite _ m _ => m != 0
    | _ => true
  | str s => !s.isEmpty
  | bytes data => !data.isEmpty
  | date _ | time _ | datetime _ _ | type _ => true
  | list items | tuple items | set items => !items.isEmpty
  | map entries => !entries.isEmpty

/-- A value as a root: mappings are told from nothing and from all else. -/
def root : Value → Root Entries
  | map entries => .mapping entries
  | null => .nothing
  | v => .other v.typeName

end Value

end Manuscript
