import Manuscript.Json.Reader

/-!
Keys and scalars of a TOML text: strings of four kinds, numbers, and moments. A step gives what it
read and the text after it.
-/

namespace Manuscript.Toml

def isSpace (c : Char) : Bool := c == ' ' || c == '\t'

def isSpaceOrBreak (c : Char) : Bool := c == ' ' || c == '\t' || c == '\n'

/-- Whether a character cannot stand in a string or comment of one line. -/
def isControl (c : Char) : Bool := (c.toNat < 32 && c != '\t') || c.toNat == 127

/-- Whether a character cannot stand in a string of several lines. -/
def isControlInBlock (c : Char) : Bool := isControl c && c != '\n'

def isBareKeyChar (c : Char) : Bool := c.isAlphanum || c == '-' || c == '_'

/-! ### Strings -/

/-- The character that a letter after a backslash stands for. -/
def simpleEscape? (c : Char) : Option Char :=
  if c = 'b' then some (Char.ofNat 8)
  else if c = 't' then some '\t'
  else if c = 'n' then some '\n'
  else if c = 'f' then some (Char.ofNat 12)
  else if c = 'r' then some '\r'
  else if c = '"' || c = '\\' then some c
  else none

/-- The character written by hexadecimal digits of a given number. -/
def hexEscape? (width : Nat) (cs : List Char) : Option (Char × List Char) := do
  let digits := cs.take width
  if digits.length < width then none
  let n ← digits.foldl (fun n c => do some (16 * (← n) + (← Json.hexDigit? c))) (some 0)
  if n < 0xD800 || (0xE000 ≤ n && n < 0x110000) then some (Char.ofNat n, cs.drop width) else none

/-- What follows a backslash at the end of a line: all white space is passed over. -/
def lineContinuation? (cs : List Char) : Option (List Char) :=
  match cs with
  | '\n' :: rest => some (rest.dropWhile isSpaceOrBreak)
  | _ => match cs.dropWhile isSpace with
    | [] => some []
    | '\n' :: rest => some (rest.dropWhile isSpaceOrBreak)
    | _ => none

/-- A basic string after its opening quotes, read so far in reverse. -/
def basicFrom (block : Bool) : Nat → List Char → List Char → Option (List Char × List Char)
  | 0, _, _ => none
  | _, _, [] => none
  | fuel + 1, acc, c :: rest =>
    if c = '"' then
      if !block then some (acc.reverse, rest)
      else match rest with
        | '"' :: '"' :: after => some (acc.reverse, after)
        | _ => basicFrom block fuel ('"' :: acc) rest
    else if c = '\\' then
      match rest with
      | 'u' :: more => do
        let (x, after) ← hexEscape? 4 more
        basicFrom block fuel (x :: acc) after
      | 'U' :: more => do
        let (x, after) ← hexEscape? 8 more
        basicFrom block fuel (x :: acc) after
      | x :: more =>
        if block && (x = ' ' || x = '\t' || x = '\n') then do
          basicFrom block fuel acc (← lineContinuation? rest)
        else do basicFrom block fuel ((← simpleEscape? x) :: acc) more
      | [] => none
    else if (if block then isControlInBlock c else isControl c) then none
    else basicFrom block fuel (c :: acc) rest

/-- A literal string of one line after its opening quote. -/
def literalLine (cs : List Char) : Option (List Char × List Char) :=
  let body := cs.takeWhile fun c => c != '\'' && !isControl c
  match cs.drop body.length with
  | '\'' :: after => some (body, after)
  | _ => none

/-- A literal string of several lines after its opening quotes, read so far in reverse. -/
def literalBlock (acc : List Char) : List Char → Option (List Char × List Char)
  | '\'' :: '\'' :: '\'' :: after => some (acc.reverse, after)
  | c :: rest => if isControlInBlock c then none else literalBlock (c :: acc) rest
  | [] => none

/-- Up to two quotes right after the closing ones belong to the string. -/
def extraQuotes (quote : Char) (body : List Char) : List Char → List Char × List Char
  | a :: b :: rest =>
    if a = quote then
      if b = quote then (body ++ [quote, quote], rest) else (body ++ [quote], b :: rest)
    else (body, a :: b :: rest)
  | [a] => if a = quote then (body ++ [quote], []) else (body, [a])
  | [] => (body, [])

def dropFirstBreak : List Char → List Char
  | '\n' :: rest => rest
  | cs => cs

/-- The string at the start of a text, if a quote stands there. -/
def string? (cs : List Char) : Option (String × List Char) :=
  match cs with
  | '"' :: '"' :: '"' :: rest => do
    let body := dropFirstBreak rest
    let (text, after) ← basicFrom true (body.length + 1) [] body
    let (text, after) := extraQuotes '"' text after
    some (String.ofList text, after)
  | '\'' :: '\'' :: '\'' :: rest => do
    let (text, after) ← literalBlock [] (dropFirstBreak rest)
    let (text, after) := extraQuotes '\'' text after
    some (String.ofList text, after)
  | '"' :: rest =>
    (basicFrom false (rest.length + 1) [] rest).map fun (t, r) => (String.ofList t, r)
  | '\'' :: rest => (literalLine rest).map fun (t, r) => (String.ofList t, r)
  | _ => none

/-! ### Keys -/

/-- One part of a key: bare, or a string of one line. -/
def keyPart? (cs : List Char) : Option (String × List Char) :=
  match cs with
  | '"' :: rest =>
    (basicFrom false (rest.length + 1) [] rest).map fun (t, r) => (String.ofList t, r)
  | '\'' :: rest => (literalLine rest).map fun (t, r) => (String.ofList t, r)
  | _ =>
    let body := cs.takeWhile isBareKeyChar
    if body.isEmpty then none else some (String.ofList body, cs.drop body.length)

/-- The parts of a key with points between them. -/
def key? : Nat → List Char → Option (List String × List Char)
  | 0, _ => none
  | fuel + 1, cs => do
    let (part, rest) ← keyPart? cs
    match rest.dropWhile isSpace with
    | '.' :: more =>
      let (parts, after) ← key? fuel (more.dropWhile isSpace)
      some (part :: parts, after)
    | after => some ([part], after)

/-! ### Numbers -/

/-- Digits of a kind that go on a number; a single low line may stand before a digit. -/
def moreDigits (isDigit : Char → Bool) : List Char → List Char × List Char
  | [] => ([], [])
  | c :: rest =>
    if isDigit c then
      let (run, after) := moreDigits isDigit rest
      (c :: run, after)
    else if c = '_' && (rest.head?.any isDigit) then moreDigits isDigit rest
    else ([], c :: rest)

/-- Digits of a kind with single low lines between them; the first one is a digit. -/
def digitRun (isDigit : Char → Bool) (cs : List Char) : List Char × List Char :=
  if cs.head?.any isDigit then moreDigits isDigit cs else ([], cs)

def numberIn (base : Nat) (cs : List Char) : Nat :=
  cs.foldl (fun n c => base * n + (Json.hexDigit? c).getD 0) 0

/-- An integer in base two, eight or sixteen. -/
def basedNumber? (cs : List Char) : Option (Value × List Char) :=
  let read (base : Nat) (rest : List Char) : Option (Value × List Char) :=
    let digit (c : Char) : Bool := (Json.hexDigit? c).any (· < base)
    let (run, after) := digitRun digit rest
    if run.isEmpty then none else some (.int (numberIn base run), after)
  match cs with
  | '0' :: 'x' :: rest => read 16 rest
  | '0' :: 'b' :: rest => read 2 rest
  | '0' :: 'o' :: rest => read 8 rest
  | _ => none

/-- The fraction of a number: a point and digits, or nothing. -/
def fraction (cs : List Char) : List Char × List Char :=
  match cs with
  | '.' :: rest =>
    let (run, after) := digitRun Char.isDigit rest
    if run.isEmpty then ([], cs) else (run, after)
  | _ => ([], cs)

/-- The exponent of a number: a letter, a sign and digits, or nothing. -/
def exponent (cs : List Char) : Option Int × List Char :=
  match cs with
  | e :: rest =>
    if e = 'e' || e = 'E' then
      let (negative, more) := Binary64.signOf rest
      let (run, after) := digitRun Char.isDigit more
      if run.isEmpty then (none, cs)
      else
        let n : Int := Binary64.digitsValue run
        (some (if negative then -n else n), after)
    else (none, cs)
  | [] => (none, cs)

/-- A decimal integer, or a number with a fraction or an exponent. -/
def decimalNumber? (cs : List Char) : Option (Value × List Char) :=
  let (negative, body) := Binary64.signOf cs
  let (whole, rest) := match body with
    | '0' :: rest => (['0'], rest)
    | _ => digitRun Char.isDigit body
  if whole.isEmpty then none
  else
    let (places, rest) := fraction rest
    let (power, rest) := exponent rest
    if places.isEmpty && power.isNone then
      let n : Int := Binary64.digitsValue whole
      some (.int (if negative then -n else n), rest)
    else
      let shift : Int := power.getD 0 - places.length
      let digits := Binary64.digitsValue (whole ++ places)
      some (.float (Binary64.ofDecimal negative digits shift), rest)

def numberWords : List (String × Value) :=
  [("inf", .float (Binary64.infinity false)), ("nan", .float Binary64.nan),
    ("-inf", .float (Binary64.infinity true)), ("+inf", .float (Binary64.infinity false)),
    ("-nan", .float Binary64.nan), ("+nan", .float Binary64.nan)]

def word? (words : List (String × Value)) (cs : List Char) : Option (Value × List Char) :=
  words.findSome? fun (w, v) => (Json.word? w cs).map fun rest => (v, rest)

/-! ### Moments -/

/-- Exactly two digits that write a number in a range. -/
def twoDigits? (least most : Nat) : List Char → Option (Nat × List Char)
  | a :: b :: rest =>
    let n := Binary64.digitsValue [a, b]
    if a.isDigit && b.isDigit && least ≤ n && n ≤ most then some (n, rest) else none
  | _ => none

def expect (x : Char) : List Char → Option (List Char)
  | c :: rest => if c = x then some rest else none
  | [] => none

/-- A time of day without an offset; digits after the sixth of the fraction are passed over. -/
def clock? (cs : List Char) : Option (TimeOfDay × List Char) := do
  let (hour, rest) ← twoDigits? 0 23 cs
  let (minute, rest) ← twoDigits? 0 59 (← expect ':' rest)
  let (second, rest) ← twoDigits? 0 59 (← expect ':' rest)
  let places := match rest with
    | '.' :: more => more.takeWhile Char.isDigit
    | _ => []
  let micro := Binary64.digitsValue ((places ++ List.replicate 6 '0').take 6)
  let after := if places.isEmpty then rest else rest.drop (places.length + 1)
  some (⟨hour, minute, second, micro, none⟩, after)

/-- The offset after a time of day, if one is written. -/
def offset (cs : List Char) : Option Int × List Char :=
  match cs with
  | c :: rest =>
    if c = 'Z' || c = 'z' then (some 0, rest)
    else if c = '+' || c = '-' then
      let read : Option (Int × List Char) := do
        let (hours, more) ← twoDigits? 0 23 rest
        let (minutes, after) ← twoDigits? 0 59 (← expect ':' more)
        let n : Int := (hours * 60 + minutes : Nat)
        some (if c = '-' then -n else n, after)
      match read with
      | some (n, after) => (some n, after)
      | none => (none, cs)
    else (none, cs)
  | [] => (none, cs)

/-- The year, month and day at the start of a text. -/
def dateFields? (cs : List Char) : Option ((Nat × Nat × Nat) × List Char) := do
  let year := cs.take 4
  if year.length < 4 || !year.all Char.isDigit then none
  let (month, rest) ← twoDigits? 1 12 (← expect '-' (cs.drop 4))
  let (day, rest) ← twoDigits? 1 31 (← expect '-' rest)
  some ((Binary64.digitsValue year, month, day), rest)

def clockAfterDate? : List Char → Option (TimeOfDay × List Char)
  | c :: rest => if c = 'T' || c = 't' || c = ' ' then clock? rest else none
  | [] => none

/-- A date, or a date and time. The outer option tells whether one is written, the inner one whether
there is such a day. -/
def moment? (cs : List Char) : Option (Option (Value × List Char)) :=
  match dateFields? cs with
  | none => none
  | some ((year, month, day), rest) =>
    let date := Date.make? year month day
    match clockAfterDate? rest with
    | some (time, more) =>
      let (zone, after) := offset more
      some (date.map fun d => (.datetime d { time with offset := zone }, after))
    | none => some (date.map fun d => (.date d, rest))

end Manuscript.Toml
