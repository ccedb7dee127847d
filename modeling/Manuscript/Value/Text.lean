import Manuscript.Value.Basic
import Manuscript.Binary64.Shortest
import Manuscript.Text.Quoted

/-!
The text of a value. A text is itself; every other value, and every value inside another, is shown
as a literal: texts quoted, lists in brackets, tuples in parentheses, sets and mappings in braces,
dates and times by their fields. An integer is written out whatever its length: no limit is set to
the number of its digits.
-/

namespace Manuscript.Value

/-- The literal of an offset from universal time. -/
def zoneLiteral (minutes : Int) : String :=
  if minutes = 0 then "datetime.timezone.utc"
  else
    let delta :=
      if minutes < 0 then s!"days=-1, seconds={(1440 + minutes) * 60}"
      else s!"seconds={minutes * 60}"
    "datetime.timezone(datetime.timedelta(" ++ delta ++ "))"

/-- The fields of a time that a literal shows: hour and minute always, seconds and microseconds only
up to the last one that is not zero. -/
def clockFields (t : TimeOfDay) : List Nat :=
  [t.hour, t.minute] ++
    (if t.microsecond != 0 then [t.second, t.microsecond]
     else if t.second != 0 then [t.second] else [])

/-- A call with numbers as arguments, and the offset last. -/
def momentLiteral (head : String) (fields : List Nat) (offset : Option Int) : String :=
  let zone := match offset with
    | some m => ", tzinfo=" ++ zoneLiteral m
    | none => ""
  head ++ "(" ++ ", ".intercalate (fields.map toString) ++ zone ++ ")"

/-- The text of an instant: date and time with a space between. -/
def instantText (d : Date) (t : TimeOfDay) : String := d.text ++ " " ++ t.text

def typeLiteral : TypeName → String
  | .integer => "<class 'int'>"
  | .text => "<class 'str'>"
  | .parserOptions => "<class 'md2latex.options.markdown.MarkdownParserOptions'>"
  | .rendererOptions => "<class 'md2latex.options.latex.LatexRendererOptions'>"
  | .templateOptions => "<class 'md2latex.options.template.TemplateOptions'>"

mutual

def literal : Value → String
  | null => "None"
  | bool b => if b then "True" else "False"
  | int n => toString n
  | float x => x.text
  | str s => Text.quoted s
  | bytes data => Text.quotedBytes data
  | date d => momentLiteral "datetime.date" [d.year, d.month, d.day] none
  | time t => momentLiteral "datetime.time" (clockFields t) t.offset
  | datetime d t =>
    momentLiteral "datetime.datetime" ([d.year, d.month, d.day] ++ clockFields t) t.offset
  | list items => "[" ++ ", ".intercalate (literals items) ++ "]"
  | tuple items => match literals items with
    | [one] => "(" ++ one ++ ",)"
    | several => "(" ++ ", ".intercalate several ++ ")"
  | set items =>
    if items.isEmpty then "set()" else "\x7b" ++ ", ".intercalate (literals items) ++ "\x7d"
  | map entries => "\x7b" ++ ", ".intercalate (pairLiterals entries) ++ "\x7d"
  | type t => typeLiteral t

def literals : List Value → List String
  | [] => []
  | v :: vs => literal v :: literals vs

def pairLiterals : List (Value × Value) → List String
  | [] => []
  | (k, v) :: rest => (literal k ++ ": " ++ literal v) :: pairLiterals rest

end

/-- The text of a value. -/
def text : Value → String
  | str s => s
  | date d => d.text
  | time t => t.text
  | datetime d t => instantText d t
  | v => literal v

end Manuscript.Value
