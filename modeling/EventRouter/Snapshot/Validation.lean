import EventRouter.Snapshot.Listing

/-! Validation of a snapshot: every cell tenant stands under the text of its key and every target
under its name, and each target names the cell tenant that it stands in. Validation goes through a
listing and reports the first violation that it meets. -/

namespace EventRouter

/-- A way in which the places of a snapshot contradict the identities of what stands there. -/
inductive Violation where
  /-- A cell tenant stands under a text that is not its key. -/
  | misfiledTenant (place : String) (key : TenantKey)
  /-- A target stands under a name that is not its own. -/
  | misfiledTarget (parent : TenantKey) (place : String) (name : String)
  /-- A target names another cell tenant than the one it stands in. -/
  | foreignTarget (parent : TenantKey) (key : TargetKey)
deriving DecidableEq, Repr

namespace Violation

/-- The wording of a violation. -/
def message : Violation → String
  | misfiledTenant place key =>
    s!"cell tenant stored under '{place}' identifies itself as '{key.text}'"
  | misfiledTarget parent place name =>
    s!"target '{name}' of '{parent.text}' is stored under '{place}'"
  | foreignTarget parent key =>
    s!"target '{key.text}' does not belong to cell tenant '{parent.text}'"

/-- The texts that a violation tells of. -/
def texts : Violation → List String
  | misfiledTenant place key => [place, key.text]
  | misfiledTarget parent place name => [parent.text, place, name]
  | foreignTarget parent key => [parent.text, key.text]

end Violation

/-- What is wrong with a target that stands under a name in a cell tenant. -/
def Target.violation? (parent : TenantKey) (place : String) (t : Target) : Option Violation :=
  if place ≠ t.name then some (.misfiledTarget parent place t.name)
  else if t.key.parent ≠ parent then some (.foreignTarget parent t.key)
  else none

/-- The first thing that is wrong with a cell tenant and its targets. -/
def TenantEntry.violation? (e : TenantEntry) : Option Violation :=
  if e.tenant.key.text ≠ e.place then some (.misfiledTenant e.place e.tenant.key)
  else e.targets.findSome? fun t => t.2.violation? e.tenant.key t.1

/-- The first thing that is wrong in a listing. -/
def Listing.violation? (l : Listing) : Option Violation := l.findSome? TenantEntry.violation?

/-- Accepts the snapshot of a listing, or reports the first violation. -/
def Listing.validate (l : Listing) : Except Violation Unit :=
  match l.violation? with
  | some v => .error v
  | none => .ok ()

/-- The entry alone with each of its targets, or alone without any if it has none. -/
def TenantEntry.singles (e : TenantEntry) : List TenantEntry :=
  if e.targets.isEmpty then [e] else e.targets.map fun t => { e with targets := [t] }

/-- The violations that some listing of a snapshot reports: those of its cell tenants alone, with
one target at a time. -/
def Snapshot.candidates (s : Snapshot) : List Violation :=
  (s.listing.flatMap TenantEntry.singles).filterMap TenantEntry.violation?

/-- Accepts a snapshot, or reports the violation that comes first in ascending order. -/
def Snapshot.validate (s : Snapshot) : Except Violation Unit := s.listing.validate

end EventRouter
