import Manuscript.Logging.Root

/-!
Logging step by step. A step configures the root, with values or with what the environment asks for,
or logs a record. The root and the files are what is kept between the steps.
-/

namespace Manuscript

/-- A step of logging. -/
inductive LogStep where
  /-- configures the root with a level, a log file if one is named, and with the time and the
  channel in every line or without -/
  | configure (level : Value) (file : Option String) (trace : Bool)
  /-- configures the root as the environment asks for -/
  | configureFrom (env : Environment)
  | log (rec : Record)

/-- What is kept between the steps. -/
structure LogState where
  root : LogRoot := {}
  tree : FileTree

namespace LogStep

/-- The root after a step that is taken at a time, and what the step writes. -/
def effect (here : Location) (state : LogState) (clock : String) : LogStep → LogRoot × List Emission
  | configure level file trace =>
    LogRoot.configured clock state.tree here ⟨.ofValue level, file, trace⟩
  | configureFrom env => LogRoot.configured clock state.tree here (.ofEnvironment env)
  | log rec => (state.root, state.root.emit clock rec)

/-- The state after a step. -/
def next (here : Location) (state : LogState) (clock : String) (step : LogStep) : LogState :=
  let (root, emissions) := step.effect here state clock
  ⟨root, Emission.store state.tree emissions⟩

end LogStep

namespace LogState

/-- The state after steps, each with the time when it is taken, the first one first. -/
def after (here : Location) (state : LogState) (steps : List (String × LogStep)) : LogState :=
  steps.foldl (fun state (clock, step) => step.next here state clock) state

/-- What each of the steps makes of the root and writes. -/
def effects (here : Location) (state : LogState) :
    List (String × LogStep) → List (LogRoot × List Emission)
  | [] => []
  | (clock, step) :: steps =>
    step.effect here state clock :: effects here (step.next here state clock) steps

end LogState

end Manuscript
