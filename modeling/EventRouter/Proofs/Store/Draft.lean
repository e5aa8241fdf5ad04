import EventRouter.Proofs.Snapshot.Validity
import EventRouter.Store.Draft

/-! What edits keep: a draft is of the cell tenant with its key, and its targets belong to that cell
tenant, whatever cell tenant they named before. -/

namespace EventRouter

namespace BelongTo

variable {key : TenantKey} {targets : Dict Target}

theorem insert (h : BelongTo key targets) (t : Target) :
    BelongTo key (Draft.upsertTarget key targets t) := by
  intro name t' ht'
  rw [Draft.upsertTarget, Dict.get?_insert] at ht'
  split at ht'
  · next hname =>
    rw [← Option.some.inj ht', hname]
    exact ⟨t.name_ofTenant key, t.tenantKey_ofTenant key⟩
  · exact h name t' ht'

theorem erase (h : BelongTo key targets) (name : String) : BelongTo key (targets.erase name) := by
  intro name' t ht
  rw [Dict.get?_erase] at ht
  split at ht
  · contradiction
  · exact h name' t ht

theorem insertAll (h : BelongTo key targets) (ts : List Target) :
    BelongTo key (ts.foldl (Draft.upsertTarget key) targets) := by
  induction ts generalizing targets with
  | nil => exact h
  | cons t ts ih => exact ih (h.insert t)

theorem eraseAll (h : BelongTo key targets) (names : List String) :
    BelongTo key (names.foldl Dict.erase targets) := by
  induction names generalizing targets with
  | nil => exact h
  | cons name names ih => exact ih (h.erase name)

end BelongTo

namespace Draft

@[simp] theorem key_start (key : TenantKey) (existing : Option CellTenant) :
    (start key existing).key = key := rfl

@[simp] theorem key_apply (d : Draft) (e : Edit) : (d.apply e).key = d.key := by
  cases e <;> rfl

@[simp] theorem key_applyAll (d : Draft) (edits : List Edit) : (d.applyAll edits).key = d.key := by
  induction edits generalizing d with
  | nil => rfl
  | cons e edits ih => exact (ih (d.apply e)).trans (d.key_apply e)

/-- The draft is of the cell tenant with its key, and its targets belong to it. -/
structure Valid (d : Draft) : Prop where
  key : d.tenant.key = d.key
  targets : BelongTo d.key d.tenant.targets

theorem valid_start {key : TenantKey} {existing : Option CellTenant}
    (h : ∀ c, existing = some c → c.key = key ∧ BelongTo key c.targets) :
    (start key existing).Valid := by
  cases existing with
  | none => exact ⟨rfl, BelongTo.empty key⟩
  | some c => exact ⟨(h c rfl).1, (h c rfl).2⟩

/-- Only edits of the targets and a deletion touch anything that validity looks at. -/
theorem Valid.apply {d : Draft} (h : d.Valid) (e : Edit) : (d.apply e).Valid := by
  cases e with
  | setId id =>
    simp only [Draft.apply, keep]
    split
    · exact ⟨h.key, h.targets⟩
    · exact ⟨h.key, h.targets⟩
  | setAddress | setReadiness | setDecoupleQueue => exact ⟨h.key, h.targets⟩
  | upsertTargets targets => exact ⟨h.key, h.targets.insertAll targets⟩
  | deleteTargets targets => exact ⟨h.key, h.targets.eraseAll _⟩
  | deleteTargetsByName names => exact ⟨h.key, h.targets.eraseAll names⟩
  | delete => exact ⟨rfl, BelongTo.empty d.key⟩

theorem Valid.applyAll {d : Draft} (h : d.Valid) (edits : List Edit) :
    (d.applyAll edits).Valid := by
  induction edits generalizing d with
  | nil => exact h
  | cons e edits ih => exact ih (h.apply e)

end Draft

end EventRouter
