import EventRouter.Dispatch.FilterStage
import EventRouter.Inspection.Settings
import EventRouter.Json.Printer
import EventRouter.Snapshot.Listing

/-! Reports: one for every target of a snapshot, in the order of their keys, with what becomes of an
event that is dispatched to the target. -/

namespace EventRouter.Inspection

/-- What becomes of an event at a target. -/
inductive Delivery where
  | pass
  | drop
deriving DecidableEq, Repr

/-- The word for a delivery. -/
def Delivery.word : Delivery → String
  | pass => "pass"
  | drop => "drop"

/-- The report on a target. -/
structure Report where
  target : TargetKey
  address : String
  filterSize : Nat
  delivery : Option Delivery
deriving DecidableEq, Repr

/-- The state of the chain of an inspection: the snapshot, and how many events came through. -/
structure Probe where
  snapshot : Snapshot
  delivered : Nat

namespace Probe

/-- The filter stage of an inspection. -/
def access (order : Dict String → List (String × String)) : FilterAccess Probe where
  snapshot probe := probe.snapshot
  log _ probe := probe
  order := order

/-- The stage that counts the events that the filter lets through. -/
def count : Stage Probe := .act fun _ _ _ probe => { probe with delivered := probe.delivered + 1 }

/-- The stages of an inspection. -/
def stages (order : Dict String → List (String × String)) : List (Stage Probe) :=
  [(access order).stage, count]

/-- The context in which an event is dispatched to a target. -/
def context (key : TargetKey) : Context := ⟨some key.parent, some key, none⟩

/-- What becomes of an event at the target with a key. -/
def deliver (handler : Handler Probe) (probe : Probe) (key : TargetKey) (e : Event) :
    Except ProcessError Delivery × Probe :=
  let (answer, after) := handler (context key) e probe
  (answer.map fun _ => if probe.delivered < after.delivered then .pass else .drop, after)

/-- The reports on targets, one after the other. -/
def report (handler : Handler Probe) (event : Option Event) :
    Probe → List Target → Except ProcessError (List Report)
  | _, [] => .ok []
  | probe, t :: rest =>
    match event with
    | none => do
      let later ← report handler event probe rest
      return ⟨t.key, t.address, t.filter.size, none⟩ :: later
    | some e => do
      let (delivery, after) := deliver handler probe t.key e
      let delivery ← delivery
      let later ← report handler event after rest
      return ⟨t.key, t.address, t.filter.size, some delivery⟩ :: later

end Probe

/-- The targets that a visitor who always goes on is shown, in the order of a listing. -/
def collectTargets (l : Listing) : List Target :=
  l.visitTargets (fun seen t => (seen ++ [t], true)) []

/-- Targets in the order of their keys. -/
def sortTargets (targets : List Target) : List Target :=
  targets.mergeSort fun a b => (compare a.key b.key).isLE

/-- The reports on all targets of a snapshot, which are met in the order of a listing. -/
def reports (order : Dict String → List (String × String)) (s : Snapshot) (l : Listing)
    (event : Option Event) : Except ProcessError (List Report) :=
  match Stage.chain (Probe.stages order) with
  | none => .ok []
  | some handler => Probe.report handler event ⟨s, 0⟩ (sortTargets (collectTargets l))

namespace Report

/-- The line for a report: its parts with tabs between them. -/
def line (r : Report) : String :=
  let parts := [r.target.text, r.address] ++ (r.delivery.map Delivery.word).toList
  "\t".intercalate parts ++ "\n"

/-- A report as a value. -/
def toJson (r : Report) : Json :=
  .object ([
    ("target", .string r.target.text),
    ("address", .string r.address),
    ("filter_attributes", .ofNat r.filterSize)] ++
    (r.delivery.map fun d => ("verdict", Json.string d.word)).toList)

end Report

/-- The text of reports: a line for each, or an indented list. -/
def OutputFormat.write (reports : List Report) : OutputFormat → String
  | text => String.join (reports.map Report.line)
  | json => (Json.array (reports.map Report.toJson)).indentedText ++ "\n"

end EventRouter.Inspection
