import Manuscript.Options.Any

/-!
Working on the options of a stage step by step. There are no options at first; a step takes the
defaults, builds options from a mapping, or derives a changed copy of the current ones. Options are
never changed in place, so a step that fails leaves the current ones as they are.
-/

namespace Manuscript

/-- A step of the work on options. -/
inductive OptionsStep where
  /-- takes the defaults -/
  | defaults
  /-- builds options from a mapping -/
  | mapping (given : Entries)
  /-- derives a copy of the current options with the fields of a mapping -/
  | change (given : Entries)

namespace OptionsStep

/-- The options that a step comes to. Where there are none yet, none can be changed. -/
def result (kind : OptionsKind) (current : Option AnyOptions) : OptionsStep → Outcome AnyOptions
  | defaults => .ok (.default kind)
  | mapping given => AnyOptions.ofMapping kind given
  | change given =>
    match current with
    | some o => o.update given
    | none => .error (.breakdown .missingAttribute)

/-- The current options after a step. -/
def next (kind : OptionsKind) (current : Option AnyOptions) (step : OptionsStep) :
    Option AnyOptions :=
  match step.result kind current with
  | .ok o => some o
  | .error _ => current

/-- The current options after steps, the first one first. -/
def current? (kind : OptionsKind) (steps : List OptionsStep) : Option AnyOptions :=
  steps.foldl (next kind) none

def results (kind : OptionsKind) (current : Option AnyOptions) :
    List OptionsStep → List (Outcome AnyOptions)
  | [] => []
  | step :: steps => step.result kind current :: results kind (step.next kind current) steps

end OptionsStep

end Manuscript
