import EventRouter.Dict
import EventRouter.Key.Basic

/-! The routing snapshot: cell tenants under the texts of their keys, each one with its targets
under their names. -/

namespace EventRouter

/-- Whether a cell tenant or a target is ready to be used. -/
inductive Readiness where
  | unknown
  | ready
deriving DecidableEq, Repr, Inhabited

/-- A topic and the subscription that reads from it. -/
structure Queue where
  topic : String
  subscription : String
deriving DecidableEq, Repr, Inhabited

/-- A subscriber of a cell tenant. It names its cell tenant by kind, namespace and name, and takes
the events that have all of its filter attributes. -/
structure Target where
  id : String
  name : String
  ns : String
  tenantKind : TenantKind
  tenantName : String
  address : String
  filter : Dict String
  retryQueue : Option Queue
  readiness : Readiness
deriving DecidableEq, Repr

/-- A routing scope and its targets. -/
structure CellTenant where
  kind : TenantKind
  id : String
  ns : String
  name : String
  address : String
  decoupleQueue : Option Queue
  readiness : Readiness
  targets : Dict Target
deriving DecidableEq, Repr

/-- The cell tenants of a router. -/
structure Snapshot where
  tenants : Dict CellTenant
deriving DecidableEq, Repr

namespace Target

/-- A target of which nothing is known. -/
def blank : Target := ⟨"", "", "", .broker, "", "", .empty, none, .unknown⟩

instance : Inhabited Target := ⟨blank⟩

/-- The key of the cell tenant that a target names. -/
def tenantKey (t : Target) : TenantKey := ⟨t.tenantKind, t.ns, t.tenantName⟩

/-- The key of a target. -/
def key (t : Target) : TargetKey := t.tenantKey.target t.name

/-- The target as one of the given cell tenant. -/
def ofTenant (t : Target) (key : TenantKey) : Target :=
  { t with ns := key.ns, tenantKind := key.kind, tenantName := key.name }

@[simp] theorem tenantKey_ofTenant (t : Target) (key : TenantKey) :
    (t.ofTenant key).tenantKey = key := rfl

@[simp] theorem name_ofTenant (t : Target) (key : TenantKey) : (t.ofTenant key).name = t.name :=
  rfl

end Target

namespace CellTenant

/-- The cell tenant with a key, of which nothing else is known. -/
def shell (key : TenantKey) : CellTenant :=
  ⟨key.kind, "", key.ns, key.name, "", none, .unknown, .empty⟩

instance : Inhabited CellTenant := ⟨shell default⟩

/-- The key of a cell tenant. -/
def key (c : CellTenant) : TenantKey := ⟨c.kind, c.ns, c.name⟩

@[simp] theorem key_shell (key : TenantKey) : (shell key).key = key := rfl

end CellTenant

namespace Snapshot

/-- The snapshot without cell tenants. -/
def empty : Snapshot := ⟨.empty⟩

instance : Inhabited Snapshot := ⟨empty⟩

/-- The cell tenant under the text of a key. -/
def tenant? (s : Snapshot) (key : TenantKey) : Option CellTenant := s.tenants.get? key.text

/-- The target under its name in the cell tenant of its key. -/
def target? (s : Snapshot) (key : TargetKey) : Option Target :=
  (s.tenant? key.parent).bind fun c => c.targets.get? key.name

/-- The number of targets in all cell tenants. -/
def targetCount (s : Snapshot) : Nat :=
  s.tenants.values.foldl (fun n c => n + c.targets.size) 0

end Snapshot

end EventRouter
