import EventRouter.Snapshot.Validation
import EventRouter.Store.Channel
import EventRouter.Store.Draft

/-! The store: the current snapshot with its version, which every commit raises by one. A commit
either edits one cell tenant or replaces the whole snapshot by a valid one. -/

namespace EventRouter

/-- The current snapshot, its version, and the channel that tells of new versions. -/
structure Store where
  snapshot : Snapshot
  version : UInt64
  changes : Channel UInt64
deriving DecidableEq, Repr

namespace Store

/-- The store that begins with a snapshot. -/
def ofSnapshot (s : Snapshot) : Store := ⟨s, 0, .new 0⟩

/-- The store without cell tenants. -/
def empty : Store := ofSnapshot .empty

instance : Inhabited Store := ⟨empty⟩

/-- The store that begins with a snapshot, if it is valid. -/
def create (s : Snapshot) : Except Violation Store := do
  s.validate
  return ofSnapshot s

/-- The cell tenant with a key. -/
def tenant? (store : Store) (key : TenantKey) : Option CellTenant := store.snapshot.tenant? key

/-- The target with a key. -/
def target? (store : Store) (key : TargetKey) : Option Target := store.snapshot.target? key

/-- The store with a new snapshot, which gets the next version. -/
def publish (store : Store) (s : Snapshot) : Store :=
  let version := store.version + 1
  ⟨s, version, store.changes.send version⟩

/-- Commits what becomes of the cell tenant with a key, and logs it. -/
def commit (store : Store) (key : TenantKey) : Commit → Store × LogRecord
  | .remove =>
    let outcome := if (store.tenant? key).isSome then .removed else .noop
    let after := store.publish ⟨store.snapshot.tenants.erase key.text⟩
    (after, .committed key outcome 0 after.version)
  | .upsert tenant =>
    let after := store.publish ⟨store.snapshot.tenants.insert key.text tenant⟩
    (after, .committed key .upserted tenant.targets.size after.version)

/-- Replaces the snapshot by a valid one, and logs it. -/
def replace (store : Store) (s : Snapshot) : Except Violation (Store × LogRecord) := do
  s.validate
  let after := store.publish s
  return (after, .replaced s.tenants.size after.version)

end Store

end EventRouter
