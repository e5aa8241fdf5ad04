import EventRouter.Inspection.Arguments
import EventRouter.Inspection.Loading
import EventRouter.Inspection.Report
import EventRouter.Store.Basic

/-! A whole inspection: from the words of a command line to the text of the reports. -/

namespace EventRouter.Inspection

/-- How the command ends: its exit status and what it prints. -/
structure Ending where
  status : Nat
  output : String
deriving DecidableEq, Repr

/-- A reason for which an inspection fails. -/
inductive Failure where
  | load (e : LoadError)
  | invalid (v : Violation)
  | process (e : ProcessError)
deriving DecidableEq, Repr

/-- The text of the reports on a snapshot, which has to be valid. -/
def inspect (output : OutputFormat) (s : Snapshot) (event : Except LoadError (Option Event)) :
    Except Failure String := do
  let store ← (Store.create s).mapError .invalid
  let event ← event.mapError .load
  let reports ← (reports Dict.entries store.snapshot store.snapshot.listing event).mapError .process
  return output.write reports

/-- Inspects the files that settings name. -/
def inspectFiles [Monad m] (read : FileReader m) (path : String) : m (Except Failure String) := do
  match ← loadSettings read path with
  | .error e => return .error (.load e)
  | .ok settings =>
    match ← settings.loadSnapshot read with
    | .error e => return .error (.load e)
    | .ok snapshot => return inspect settings.output snapshot (← settings.loadEvent read)

/-- Runs the command. -/
def run [Monad m] (read : FileReader m) (words : List String) : m Ending := do
  match Invocation.parse words with
  | .misuse => return ⟨2, ""⟩
  | .help => return ⟨0, helpText⟩
  | .inspect path =>
    match ← inspectFiles read path with
    | .ok text => return ⟨0, text⟩
    | .error _ => return ⟨1, ""⟩

end EventRouter.Inspection
