import EventRouter.Proofs.Store.Change

/-! Transactions that only edit. What such a transaction makes of its cell tenant depends on that
cell tenant alone, every other place of the snapshot stays as it is, and the version goes up by
one. -/

namespace EventRouter

theorem Action.edits?_map_edit (edits : List Edit) : edits? (edits.map .edit) = some edits := by
  induction edits with
  | nil => rfl
  | cons e rest ih => rw [List.map_cons, edits?, ih]; rfl

/-- What the edits of a transaction leave of a cell tenant: nothing, if they delete it in the end. -/
def Draft.remaining (key : TenantKey) (existing : Option CellTenant) (edits : List Edit) :
    Option CellTenant :=
  let d := (start key existing).applyAll edits
  if d.removed then none else some d.tenant

namespace Store

variable {a b : Store} {key other : TenantKey}

/-- Stores with the same cell tenants at all places, the same version and the same channel are
equal. -/
theorem eq_of_get? (h : ∀ place, a.snapshot.tenants.get? place = b.snapshot.tenants.get? place)
    (hversion : a.version = b.version) (hchanges : a.changes = b.changes) : a = b := by
  obtain ⟨⟨tenants⟩, version, changes⟩ := a
  obtain rfl : tenants = b.snapshot.tenants := Dict.ext_get? h
  cases hversion
  cases hchanges
  rfl

/-- Stores that agree at all places but that of one key have the same snapshot if and only if they
find the same under that key. -/
theorem snapshot_eq_iff (h : ∀ place, place ≠ key.text →
    a.snapshot.tenants.get? place = b.snapshot.tenants.get? place) :
    a.snapshot = b.snapshot ↔ a.tenant? key = b.tenant? key := by
  constructor
  · intro heq
    exact congrArg (·.tenant? key) heq
  · intro hkey
    have htenants : a.snapshot.tenants = b.snapshot.tenants := Dict.ext_get? fun place => by
      by_cases hplace : place = key.text
      · rw [hplace]
        exact hkey
      · exact h place hplace
    exact congrArg Snapshot.mk htenants

theorem edit_eq_commit (store : Store) (key : TenantKey) (edits : List Edit) :
    store.edit key edits =
      (store.commit key ((Draft.start key (store.tenant? key)).applyAll edits).commit).1 :=
  transact_of_edits (Action.edits?_map_edit edits)

/-- A commit raises the version by one and sends it. -/
theorem version_commit (store : Store) (key : TenantKey) (c : Commit) :
    (store.commit key c).1.version = store.version + 1 ∧
      (store.commit key c).1.changes = store.changes.send (store.version + 1) := by
  cases c <;> exact ⟨rfl, rfl⟩

theorem get?_edit (store : Store) (key : TenantKey) (edits : List Edit) (place : String) :
    (store.edit key edits).snapshot.tenants.get? place =
      if place = key.text then Draft.remaining key (store.tenant? key) edits
      else store.snapshot.tenants.get? place := by
  rw [edit_eq_commit]
  exact store.get?_commit key _ place

theorem get?_edit_of_ne (store : Store) (edits : List Edit) {place : String}
    (hne : place ≠ key.text) :
    (store.edit key edits).snapshot.tenants.get? place = store.snapshot.tenants.get? place := by
  rw [get?_edit, if_neg hne]

theorem tenant?_edit (store : Store) (key : TenantKey) (edits : List Edit) :
    (store.edit key edits).tenant? key = Draft.remaining key (store.tenant? key) edits := by
  show (store.edit key edits).snapshot.tenants.get? key.text = _
  rw [get?_edit, if_pos rfl]

/-- A transaction leaves the snapshot as it is if and only if it leaves its cell tenant as it is. -/
theorem snapshot_edit_eq_self_iff (store : Store) (key : TenantKey) (edits : List Edit) :
    (store.edit key edits).snapshot = store.snapshot ↔
      Draft.remaining key (store.tenant? key) edits = store.tenant? key := by
  rw [snapshot_eq_iff fun place hplace => store.get?_edit_of_ne edits hplace, tenant?_edit]

theorem tenant?_edit_of_ne (store : Store) (edits : List Edit) (hne : other ≠ key) :
    (store.edit key edits).tenant? other = store.tenant? other :=
  store.tenant?_transact_of_ne _ hne

theorem version_edit (store : Store) (key : TenantKey) (edits : List Edit) :
    (store.edit key edits).version = store.version + 1 := by
  rw [edit_eq_commit]
  exact (store.version_commit key _).1

theorem changes_edit (store : Store) (key : TenantKey) (edits : List Edit) :
    (store.edit key edits).changes = store.changes.send (store.version + 1) := by
  rw [edit_eq_commit]
  exact (store.version_commit key _).2

end Store

end EventRouter
