import Manuscript.Text.Quoted
import Manuscript.Text.Digit

/-!
The arguments of the command: an input, a template, and a switch that asks for help. A double dash
makes all that follows positional; the switch may be shortened, and what looks like a negative
number is not a switch.
-/

namespace Manuscript.CommandLine

/-- What a word that looks like a switch asks for. -/
inductive Switch where
  | help
  /-- help, spelled with a value that it does not take -/
  | helpWith (value : String)
  | unknown (word : String)
  deriving DecidableEq

/-- The words of a command line. -/
inductive Word where
  | switch (s : Switch)
  | plain (s : String)
  /-- the first double dash -/
  | stop
  deriving DecidableEq

/-- Why a command line cannot be understood. -/
inductive Misuse where
  | missing (names : List String)
  | unrecognized (words : List String)
  | ignoredValue (value : String)
  deriving DecidableEq

/-- What a command line asks for. A double dash in the place of the template leaves it empty. -/
inductive Request where
  | help
  | convert (input : String) (template : Option String)
  | misuse (m : Misuse)
  deriving DecidableEq

/-- Splits a word at its first equality sign. -/
def splitValue (cs : List Char) : List Char × Option String :=
  let name := cs.takeWhile (· != '=')
  match cs.dropWhile (· != '=') with
  | _ :: value => (name, some (String.ofList value))
  | [] => (name, none)

/-- Short switches written together: each is the one for help, or the rest is a value that is not
taken. -/
def grouped : List Char → Switch
  | ['h'] => .help
  | 'h' :: rest => grouped rest
  | rest => .helpWith (String.ofList rest)

def longName : List Char := "--help".toList

/-- Whether a text is a negative number: digits, or digits around a point with some after it. -/
def isNegativeNumber (cs : List Char) : Bool :=
  match cs with
  | '-' :: body =>
    let body := if body.getLast? == some '\n' then body.dropLast else body
    let after := body.dropWhile Text.isDigit
    match after with
    | [] => !body.isEmpty
    | '.' :: decimals => !decimals.isEmpty && decimals.all Text.isDigit
    | _ => false
  | _ => false

def longSwitch? (cs : List Char) : Option Switch :=
  let (name, value) := splitValue cs
  if name.isPrefixOf longName then some ((value.map Switch.helpWith).getD .help) else none

/-- The short switch, perhaps with others or a value behind it. -/
def shortSwitch? : List Char → Option Switch
  | ['-', 'h'] => some .help
  | ['-', 'h', '='] => some (.helpWith "")
  | '-' :: 'h' :: '=' :: value => some (grouped value)
  | '-' :: 'h' :: rest => some (grouped rest)
  | _ => none

def helpSwitch? (cs : List Char) : Option Switch :=
  match cs with
  | '-' :: '-' :: _ => longSwitch? cs
  | _ => shortSwitch? cs

/-- The switch that a word is; without one the word is positional. -/
def switch? (s : String) : Option Switch :=
  match s.toList with
  | '-' :: c :: rest =>
    let cs := '-' :: c :: rest
    match helpSwitch? cs with
    | some found => some found
    | none => if isNegativeNumber cs || cs.contains ' ' then none else some (.unknown s)
  | _ => none

def wordsOf : List String → List Word
  | [] => []
  | s :: rest =>
    if s = "--" then .stop :: rest.map .plain
    else match switch? s with
      | some w => .switch w :: wordsOf rest
      | none => .plain s :: wordsOf rest

def positionalNames : List String := ["INPUT", "TEMPLATE"]

/-- What has been read of a command line. `taken` tells whether the word before was positional,
`pending` whether a double dash waits for the next word. -/
structure Reading where
  input : Option String := none
  template : Option (Option String) := none
  extras : List String := []
  taken : Bool := false
  pending : Bool := false

namespace Reading

def wanted (r : Reading) : List String :=
  if r.input.isNone then positionalNames
  else if r.template.isNone then positionalNames.drop 1
  else []

/-- Takes a word as a positional argument. A double dash that is not the first one is no value,
unless it stands directly after that one. -/
def take (r : Reading) (s : String) : Reading :=
  let r' := { r with taken := true, pending := false }
  if r.input.isNone then { r' with input := some s }
  else { r' with template := some (if s = "--" && !r.pending then none else some s) }

def settle (r : Reading) : Reading :=
  if r.pending then { r with extras := r.extras ++ ["--"], pending := false } else r

def leave (r : Reading) (s : String) : Reading :=
  { r.settle with extras := r.settle.extras ++ [s], taken := false }

/-- Takes the double dash: it belongs to the positional argument before it, or else waits for one.
-/
def stop (r : Reading) : Reading :=
  if r.taken then { r with taken := false } else { r with pending := true }

/-- What a command line asks for once all words are read. -/
def finish (r : Reading) : Request :=
  match r.input, r.template with
  | some input, some template =>
    if r.extras.isEmpty then .convert input template else .misuse (.unrecognized r.extras)
  | _, _ => .misuse (.missing r.wanted)

def read (r : Reading) : List Word → Request
  | [] => r.settle.finish
  | .switch .help :: _ => .help
  | .switch (.helpWith value) :: _ => .misuse (.ignoredValue value)
  | .switch (.unknown s) :: rest => (r.leave s).read rest
  | .stop :: rest => r.stop.read rest
  | .plain s :: rest => (if r.wanted.isEmpty then r.leave s else r.take s).read rest

end Reading

def Request.ofArguments (args : List String) : Request := Reading.read {} (wordsOf args)

def commandName : String := "md2latex"

def usage : String := s!"usage: {commandName} [-h] INPUT TEMPLATE\n"

namespace Misuse

def message : Misuse → String
  | missing names => "the following arguments are required: " ++ ", ".intercalate names
  | unrecognized words => "unrecognized arguments: " ++ " ".intercalate words
  | ignoredValue value => "argument -h/--help: ignored explicit argument " ++ Text.quoted value

def report (m : Misuse) : String := usage ++ s!"{commandName}: error: {m.message}\n"

end Misuse

/-- The lines of the help after the usage. -/
def helpLines : List String := [
    "",
    "Convert a markdown document with frontmatter into LaTeX using a template.",
    "",
    "positional arguments:",
    "  INPUT       Markdown file starting with a frontmatter block",
    "  TEMPLATE    LaTeX template with %identifier% placeholders",
    "",
    "options:",
    "  -h, --help  show this help message and exit",
    "",
    "Environment: MD2LATEX_CONFIG (configuration file), MD2LATEX_LOG_LEVEL (default",
    "WARNING), MD2LATEX_LOG_FILE."]

def helpText : String := usage ++ String.join (helpLines.map fun line => line ++ "\n")

end Manuscript.CommandLine
