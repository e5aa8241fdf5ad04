import EventRouter.Proofs.Except
import EventRouter.Proofs.Store.Draft
import EventRouter.Store.Transaction

/-! The changes of a store, one after the other, and the stores that they reach. Every snapshot that
is reached is valid. -/

namespace EventRouter

/-- The edits that a callback makes; none if it panics. -/
def Action.edits? : List Action → Option (List Edit)
  | [] => some []
  | .edit e :: rest => (e :: ·) <$> edits? rest
  | .peek _ :: rest => edits? rest
  | .panic :: _ => none

theorem Action.edits?_eq_none_iff {actions : List Action} :
    edits? actions = none ↔ .panic ∈ actions := by
  induction actions with
  | nil => simp [edits?]
  | cons action rest ih => cases action <;> simp [edits?, ih]

namespace Store

/-- A change of a store: a transaction, or the replacement of the whole snapshot. -/
inductive Change where
  | transact (key : TenantKey) (actions : List Action)
  | replace (s : Snapshot)

/-- The store after a change. A change that fails leaves the store as it was. -/
def change (store : Store) : Change → Store
  | .transact key actions => (store.transact key actions).store
  | .replace s =>
    match store.replace s with
    | .ok (after, _) => after
    | .error _ => store

/-- The store after changes. -/
def changeAll (store : Store) (changes : List Change) : Store := changes.foldl change store

/-- The stores that a run begins with. -/
inductive Initial : Store → Prop
  | empty : Initial empty
  | create {s : Snapshot} {store : Store} (h : create s = .ok store) : Initial store

/-! ### What a change does -/

/-- A callback leaves the draft after its edits, whatever it looks at meanwhile. -/
theorem draft_runCallback (store : Store) (d : Draft) (actions : List Action) :
    (store.runCallback d actions).draft = (Action.edits? actions).map d.applyAll := by
  induction actions generalizing d with
  | nil => rfl
  | cons action rest ih =>
    cases action with
    | edit e =>
      rw [runCallback, Action.edits?]
      simp only [ih]
      cases Action.edits? rest <;> rfl
    | peek key => exact ih d
    | panic => rfl

theorem transact_of_panic {store : Store} {key : TenantKey} {actions : List Action}
    (h : Action.edits? actions = none) : (store.transact key actions).store = store := by
  have hdraft := store.draft_runCallback (.start key (store.tenant? key)) actions
  rw [h, Option.map_none] at hdraft
  simp only [transact, hdraft]

theorem transact_of_edits {store : Store} {key : TenantKey} {actions : List Action}
    {edits : List Edit} (h : Action.edits? actions = some edits) :
    (store.transact key actions).store =
      (store.commit key ((Draft.start key (store.tenant? key)).applyAll edits).commit).1 := by
  have hdraft := store.draft_runCallback (.start key (store.tenant? key)) actions
  rw [h, Option.map_some] at hdraft
  simp only [transact, hdraft]

/-- A commit puts what the draft leaves at the place of its key. -/
theorem get?_commit (store : Store) (key : TenantKey) (d : Draft) (place : String) :
    (store.commit key d.commit).1.snapshot.tenants.get? place =
      if place = key.text then if d.removed then none else some d.tenant
      else store.snapshot.tenants.get? place := by
  unfold Draft.commit
  split
  · exact store.snapshot.tenants.get?_erase key.text place
  · exact store.snapshot.tenants.get?_insert key.text d.tenant place

/-- A commit is seen by its own key alone, since no other key has the same text. -/
theorem tenant?_commit (store : Store) (key : TenantKey) (d : Draft) (other : TenantKey) :
    (store.commit key d.commit).1.tenant? other =
      if other = key then if d.removed then none else some d.tenant else store.tenant? other := by
  have htext : other.text = key.text ↔ other = key := ⟨TenantKey.text_inj, congrArg _⟩
  have hplace := store.get?_commit key d other.text
  simp only [htext] at hplace
  exact hplace

/-- A transaction is seen by its own key alone. -/
theorem tenant?_transact_of_ne (store : Store) {key other : TenantKey} (actions : List Action)
    (hne : other ≠ key) :
    (store.transact key actions).store.tenant? other = store.tenant? other := by
  cases hedits : Action.edits? actions with
  | none => rw [transact_of_panic hedits]
  | some edits => rw [transact_of_edits hedits, tenant?_commit, if_neg hne]

theorem replace_of_valid (store : Store) {s : Snapshot} (h : s.Valid) :
    store.change (.replace s) = store.publish s := by
  simp only [change, replace, Snapshot.validate_eq_ok_iff.2 h]
  rfl

theorem replace_of_not_valid (store : Store) {s : Snapshot} (h : ¬ s.Valid) :
    store.change (.replace s) = store := by
  cases hs : s.validate with
  | ok => exact absurd (Snapshot.validate_eq_ok_iff.1 hs) h
  | error v =>
    simp only [change, replace, hs]
    rfl

theorem create_eq_ok_iff {s : Snapshot} {store : Store} :
    create s = .ok store ↔ s.Valid ∧ store = ofSnapshot s := by
  rw [create, Except.bind_eq_ok_iff, ← Snapshot.validate_eq_ok_iff]
  constructor
  · rintro ⟨_, hs, h⟩
    exact ⟨hs, (Except.ok.inj h).symm⟩
  · rintro ⟨hs, rfl⟩
    exact ⟨(), hs, rfl⟩

/-! ### Every snapshot of a run is valid -/

theorem Initial.valid {store : Store} (h : Initial store) : store.snapshot.Valid := by
  cases h with
  | empty => exact Snapshot.valid_empty
  | create h =>
    obtain ⟨hs, rfl⟩ := create_eq_ok_iff.1 h
    exact hs

theorem valid_commit {store : Store} (h : store.snapshot.Valid) {d : Draft} (hd : d.Valid) :
    (store.commit d.key d.commit).1.snapshot.Valid := by
  unfold Draft.commit
  split
  · exact h.erase d.key.text
  · exact h.insert hd.key hd.targets

/-- The draft that a transaction begins with: what stands under the text of a key has that key. -/
theorem valid_start {store : Store} (h : store.snapshot.Valid) (key : TenantKey) :
    (Draft.start key (store.tenant? key)).Valid :=
  Draft.valid_start fun c hc => by
    have hkey := h.key_of_tenant? hc
    exact ⟨hkey, hkey ▸ h.targets _ c hc⟩

theorem valid_change {store : Store} (h : store.snapshot.Valid) (c : Change) :
    (store.change c).snapshot.Valid := by
  cases c with
  | transact key actions =>
    rw [change]
    cases hedits : Action.edits? actions with
    | none => rwa [transact_of_panic hedits]
    | some edits =>
      have hd := (valid_start h key).applyAll edits
      rw [transact_of_edits hedits]
      simpa using valid_commit h hd
  | replace s =>
    by_cases hs : s.Valid
    · rwa [store.replace_of_valid hs]
    · rwa [store.replace_of_not_valid hs]

theorem valid_changeAll {store : Store} (h : store.snapshot.Valid) (changes : List Change) :
    (store.changeAll changes).snapshot.Valid := by
  induction changes generalizing store with
  | nil => exact h
  | cons c changes ih => exact ih (valid_change h c)

end Store

end EventRouter
