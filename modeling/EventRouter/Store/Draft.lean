import EventRouter.Log
import EventRouter.Snapshot.Basic

/-! Edits of one cell tenant. The edits of a transaction work on a draft, which says in the end what
becomes of the cell tenant. -/

namespace EventRouter

/-- An edit of a cell tenant. -/
inductive Edit where
  | setId (id : String)
  | setAddress (address : String)
  | setReadiness (readiness : Readiness)
  | setDecoupleQueue (queue : Option Queue)
  | upsertTargets (targets : List Target)
  | deleteTargets (targets : List Target)
  | deleteTargetsByName (names : List String)
  | delete
deriving DecidableEq, Repr

/-- What becomes of a cell tenant in the end. -/
inductive Commit where
  | remove
  | upsert (tenant : CellTenant)
deriving DecidableEq, Repr

/-- A cell tenant in editing. A deletion starts over from an empty shell, and counts unless another
edit follows it. -/
structure Draft where
  key : TenantKey
  tenant : CellTenant
  removed : Bool
deriving DecidableEq, Repr

namespace Draft

/-- The draft of a cell tenant, of an empty shell if there is none yet. -/
def start (key : TenantKey) (existing : Option CellTenant) : Draft :=
  ⟨key, existing.getD (.shell key), false⟩

/-- The draft with a changed cell tenant, which is to be kept. -/
def keep (d : Draft) (change : CellTenant → CellTenant) : Draft :=
  { d with tenant := change d.tenant, removed := false }

/-- Whether an id may be assigned. An id that is there already stays. -/
def mayAssign (d : Draft) (id : String) : Bool := d.tenant.id.isEmpty || d.tenant.id = id

/-- The targets with one more, which becomes a target of the cell tenant with the given key. -/
def upsertTarget (key : TenantKey) (targets : Dict Target) (t : Target) : Dict Target :=
  targets.insert t.name (t.ofTenant key)

/-- The draft after an edit. -/
def apply (d : Draft) : Edit → Draft
  | .setId id => d.keep fun c => if d.mayAssign id then { c with id } else c
  | .setAddress address => d.keep fun c => { c with address }
  | .setReadiness readiness => d.keep fun c => { c with readiness }
  | .setDecoupleQueue queue => d.keep fun c => { c with decoupleQueue := queue }
  | .upsertTargets targets =>
    d.keep fun c => { c with targets := targets.foldl (upsertTarget d.key) c.targets }
  | .deleteTargets targets =>
    d.keep fun c => { c with targets := (targets.map (·.name)).foldl Dict.erase c.targets }
  | .deleteTargetsByName names =>
    d.keep fun c => { c with targets := names.foldl Dict.erase c.targets }
  | .delete => { d with tenant := .shell d.key, removed := true }

/-- The record that an edit logs. -/
def warning? (d : Draft) : Edit → Option LogRecord
  | .setId id => if d.mayAssign id then none else some (.idKept d.key d.tenant.id id)
  | _ => none

/-- The draft after all edits. -/
def applyAll (d : Draft) (edits : List Edit) : Draft := edits.foldl apply d

/-- What becomes of the cell tenant. -/
def commit (d : Draft) : Commit := if d.removed then .remove else .upsert d.tenant

end Draft

end EventRouter
