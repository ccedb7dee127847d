import Manuscript.Text.Blank

/-!
The type of a plain scalar, read off its text: truth values, integers in four bases and in base
sixty, floating-point numbers, nulls, moments, the merge key and the default key; anything else is
a text.
-/

namespace Manuscript.Yaml

def coreTag (name : String) : String := "tag:yaml.org,2002:" ++ name

def truthWords : List String :=
  ["yes", "Yes", "YES", "no", "No", "NO", "true", "True", "TRUE", "false", "False", "FALSE",
    "on", "On", "ON", "off", "Off", "OFF"]

def unsigned : List Char → List Char
  | '+' :: rest => rest
  | '-' :: rest => rest
  | cs => cs

def isDigitOrLow (c : Char) : Bool := c.isDigit || c == '_'

/-- Whether a part of a number in base sixty has one digit, or two of which the first is at most
five. -/
def isSixtieth : List Char → Bool
  | [d] => d.isDigit
  | [a, b] => '0' ≤ a && a ≤ '5' && b.isDigit
  | _ => false

def colonParts (cs : List Char) : List (List Char) :=
  match cs with
  | [] => [[]]
  | c :: rest => match colonParts rest with
    | [] => [[c]]
    | p :: ps => if c = ':' then [] :: p :: ps else (c :: p) :: ps

/-- Whether an unsigned text is an integer: in base two, eight, ten, sixteen or sixty. -/
def isUnsignedInteger (cs : List Char) : Bool :=
  match cs with
  | '0' :: 'b' :: more => !more.isEmpty && more.all fun c => c == '0' || c == '1' || c == '_'
  | '0' :: 'x' :: more => !more.isEmpty && more.all fun c =>
      c.isDigit || ('a' ≤ c && c ≤ 'f') || ('A' ≤ c && c ≤ 'F') || c == '_'
  | '0' :: more => more.all fun c => ('0' ≤ c && c ≤ '7') || c == '_'
  | c :: _ =>
    c.isDigit && match colonParts cs with
      | [one] => one.all isDigitOrLow
      | first :: others => first.all isDigitOrLow && others.all isSixtieth
      | [] => false
  | [] => false

/-- Whether a text is an exponent with a sign, or empty. -/
def isSignedExponent : List Char → Bool
  | [] => true
  | e :: sign :: ds =>
    (e == 'e' || e == 'E') && (sign == '+' || sign == '-') && !ds.isEmpty && ds.all Char.isDigit
  | _ => false

def isFraction (cs : List Char) : Bool := isSignedExponent (cs.dropWhile isDigitOrLow)

/-- Whether a text is a floating-point number. Only a number that starts with a digit, and infinity,
takes a sign. -/
def isFloatText (cs : List Char) : Bool :=
  let bare := unsigned cs
  let decimal := match bare with
    | d :: _ =>
      let whole := bare.takeWhile isDigitOrLow
      d.isDigit && match bare.drop whole.length with
        | '.' :: more => isFraction more
        | _ => false
    | [] => false
  let pointFirst := match cs with
    | '.' :: d :: more => d.isDigit && isFraction more
    | _ => false
  let sexagesimal := match bare with
    | d :: _ =>
      d.isDigit && match (colonParts bare).reverse with
        | last :: (middle :: others) =>
          let minutes := last.takeWhile (· != '.')
          let places := last.drop minutes.length
          let whole := ((middle :: others).reverse.head?).getD []
          whole.all isDigitOrLow && ((middle :: others).reverse.drop 1).all isSixtieth
            && isSixtieth minutes && (match places with
              | '.' :: more => more.all isDigitOrLow
              | _ => false)
        | _ => false
    | [] => false
  decimal || pointFirst || sexagesimal
    || [".inf", ".Inf", ".INF"].contains (String.ofList bare)
    || [".nan", ".NaN", ".NAN"].contains (String.ofList cs)

/-! ### Moments -/

/-- The fields of a moment as they are written. -/
structure MomentText where
  year : List Char
  month : List Char
  day : List Char
  /-- hour, minute and second -/
  clock : Option (List Char × List Char × List Char) := none
  fraction : List Char := []
  /-- the zone: universal time, or a sign with hours and minutes -/
  zone : Option (Option (Char × List Char × List Char)) := none

/-- A run of `least` to `most` digits, and what follows. -/
def digitRun (least most : Nat) (cs : List Char) : Option (List Char × List Char) :=
  let run := (cs.takeWhile Char.isDigit).take most
  if run.length < least then none else some (run, cs.drop run.length)

def expect (x : Char) : List Char → Option (List Char)
  | c :: rest => if c = x then some rest else none
  | [] => none

def isBlankOrTab (c : Char) : Bool := c == ' ' || c == '\t'

def zoneText (cs : List Char) : Option (Option (Option (Char × List Char × List Char))) :=
  match cs with
  | [] => some none
  | _ => match cs.dropWhile isBlankOrTab with
    | ['Z'] => some (some none)
    | sign :: more =>
      if sign = '+' || sign = '-' then do
        let (hours, rest) ← digitRun 1 2 more
        match rest with
        | [] => some (some (some (sign, hours, [])))
        | ':' :: minutes =>
          let (minutes, rest) ← digitRun 2 2 minutes
          if rest.isEmpty then some (some (some (sign, hours, minutes))) else none
        | _ => none
      else none
    | [] => none

/-- Drops what stands between a date and a clock. -/
def dropClockMark : List Char → Option (List Char)
  | c :: more =>
    if c = 'T' || c = 't' then some more
    else if isBlankOrTab c then some (more.dropWhile isBlankOrTab) else none
  | [] => none

/-- The digits of a fraction after its point, if there is one, and what follows. -/
def fractionText : List Char → List Char × List Char
  | '.' :: more => (more.takeWhile Char.isDigit, more.dropWhile Char.isDigit)
  | cs => ([], cs)

/-- The clock of a moment, after the date. -/
def clockText (date : MomentText) (cs : List Char) : Option MomentText := do
  let rest ← dropClockMark cs
  let (hour, rest) ← digitRun 1 2 rest
  let rest ← expect ':' rest
  let (minute, rest) ← digitRun 2 2 rest
  let rest ← expect ':' rest
  let (second, rest) ← digitRun 2 2 rest
  let (fraction, rest) := fractionText rest
  let zone ← zoneText rest
  return { date with clock := some (hour, minute, second), fraction := fraction, zone := zone }

/-- Reads the fields of a moment. Months and days may have one digit. -/
def momentText? (cs : List Char) : Option MomentText := do
  let (year, rest) ← digitRun 4 4 cs
  let rest ← expect '-' rest
  let (month, rest) ← digitRun 1 2 rest
  let rest ← expect '-' rest
  let (day, rest) ← digitRun 1 2 rest
  let date : MomentText := { year := year, month := month, day := day }
  if rest.isEmpty then some date else clockText date rest

/-- Whether a plain scalar is a moment: a date alone is written with two digits each. -/
def isMoment (cs : List Char) : Bool :=
  match momentText? cs with
  | some m => m.clock.isSome || (m.month.length == 2 && m.day.length == 2)
  | none => false

def plainTag (text : String) : String :=
  let cs := text.toList
  if truthWords.contains text then coreTag "bool"
  else if isFloatText cs then coreTag "float"
  else if isUnsignedInteger (unsigned cs) then coreTag "int"
  else if text == "<<" then coreTag "merge"
  else if ["", "~", "null", "Null", "NULL"].contains text then coreTag "null"
  else if isMoment cs then coreTag "timestamp"
  else if text == "=" then coreTag "value"
  else coreTag "str"

end Manuscript.Yaml
