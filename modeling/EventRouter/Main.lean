import EventRouter.Inspection.Run

/-! The command: inspects a routing snapshot, and what it would do with an event. -/

open EventRouter.Inspection in
/-- Reads a file. -/
def EventRouter.Inspection.readFile (path : String) : IO (Except FileError String) := do
  try
    return .ok (← IO.FS.readFile path)
  catch e =>
    match e with
    | .noFileOrDirectory .. => return .error .notFound
    | _ => return .error .unreadable

open EventRouter.Inspection in
/-- Runs the command with the words of the command line. -/
def main (words : List String) : IO UInt32 := do
  let ending ← run readFile words
  IO.print ending.output
  return UInt32.ofNat ending.status
