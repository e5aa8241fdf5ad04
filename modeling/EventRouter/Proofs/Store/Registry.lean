import EventRouter.Proofs.Snapshot.Listing
import EventRouter.Proofs.Store.Change
import Mathlib.Data.Finmap

/-! The store as a map from keys. A registry is the finite map from the keys of cell tenants to the
cell tenants themselves, without texts. A store begins as the registry of its snapshot, and every
change of the store is the same change of the registry. -/

namespace EventRouter

/-- The cell tenants by their keys. -/
abbrev Registry := Finmap fun _ : TenantKey => CellTenant

namespace Registry

/-- The entry of a cell tenant: it stands under its own key. -/
def entry (c : CellTenant) : Sigma fun _ : TenantKey => CellTenant := ⟨c.key, c⟩

/-- The cell tenants of a snapshot by their own keys. -/
def ofSnapshot (s : Snapshot) : Registry := (s.tenants.values.map entry).toFinmap

/-- The registry with what a draft leaves under its key: nothing, if it is marked as removed. -/
def commit (r : Registry) (d : Draft) : Registry :=
  if d.removed then r.erase d.key else r.insert d.key d.tenant

/-- The registry after a transaction: the edits, in order, work on what stands under the key, or on
an empty shell. -/
def transact (r : Registry) (key : TenantKey) (edits : List Edit) : Registry :=
  r.commit ((Draft.start key (r.lookup key)).applyAll edits)

/-- The registry after a change. A change that fails leaves it as it was. -/
def change (r : Registry) : Store.Change → Registry
  | .transact key actions =>
    match Action.edits? actions with
    | some edits => r.transact key edits
    | none => r
  | .replace s =>
    match s.validate with
    | .ok _ => ofSnapshot s
    | .error _ => r

/-- The registry after changes. -/
def changeAll (r : Registry) (changes : List Store.Change) : Registry := changes.foldl change r

/-- The number of targets of all cell tenants. -/
def targetCount (r : Registry) : Nat := (r.entries.map fun e => e.2.targets.size).sum

/-! ### The registry of a snapshot -/

variable {s : Snapshot}

theorem nodupKeys_entries (h : s.Valid) : (s.tenants.values.map entry).NodupKeys := by
  rw [List.NodupKeys, List.keys, List.map_map]
  exact h.nodup_tenantKeys

theorem mem_entries_iff (h : s.Valid) {key : TenantKey} {c : CellTenant} :
    (⟨key, c⟩ : Sigma fun _ => CellTenant) ∈ s.tenants.values.map entry ↔
      s.tenant? key = some c := by
  constructor
  · intro hmem
    obtain ⟨c', hc', hentry⟩ := List.mem_map.1 hmem
    obtain ⟨place, hget⟩ := Dict.mem_values_iff.1 hc'
    obtain ⟨rfl, hc⟩ := Sigma.mk.inj hentry
    obtain rfl := eq_of_heq hc
    rwa [← h.place place _ hget] at hget
  · intro hc
    have hkey := h.key_of_tenant? hc
    refine List.mem_map.2 ⟨c, Dict.mem_values_iff.2 ⟨key.text, hc⟩, ?_⟩
    rw [entry, hkey]

theorem lookup_ofSnapshot (h : s.Valid) (key : TenantKey) :
    (ofSnapshot s).lookup key = s.tenant? key := by
  refine Option.ext fun c => ?_
  rw [ofSnapshot, Finmap.dlookup_list_toFinmap]
  exact (List.mem_dlookup_iff (nodupKeys_entries h)).trans (mem_entries_iff h)

theorem entries_ofSnapshot (h : s.Valid) :
    (ofSnapshot s).entries = (s.tenants.values.map entry : List _) := by
  have hentries : (ofSnapshot s).entries = ((s.tenants.values.map entry).dedupKeys : List _) := rfl
  rw [hentries, Multiset.coe_eq_coe]
  refine List.lookup_ext (List.nodupKeys_dedupKeys _) (nodupKeys_entries h) fun key c => ?_
  rw [List.dlookup_dedupKeys]

theorem targetCount_ofSnapshot (h : s.Valid) : (ofSnapshot s).targetCount = s.targetCount := by
  rw [targetCount, entries_ofSnapshot h, s.targetCount_eq_sum, Multiset.map_coe, Multiset.sum_coe,
    List.map_map]
  rfl

/-! ### A change of the store is the same change of its registry -/

theorem lookup_commit (r : Registry) (d : Draft) (other : TenantKey) :
    (r.commit d).lookup other =
      if other = d.key then if d.removed then none else some d.tenant else r.lookup other := by
  unfold commit
  by_cases hother : other = d.key
  · subst hother
    rw [if_pos rfl]
    split
    · exact Finmap.lookup_erase _ r
    · exact Finmap.lookup_insert r
  · rw [if_neg hother]
    split
    · exact Finmap.lookup_erase_ne hother
    · exact Finmap.lookup_insert_of_ne r hother

variable {store : Store}

theorem ofSnapshot_transact (h : store.snapshot.Valid) {key : TenantKey} {actions : List Action}
    {edits : List Edit} (hedits : Action.edits? actions = some edits) :
    ofSnapshot (store.transact key actions).store.snapshot =
      (ofSnapshot store.snapshot).transact key edits := by
  have hvalid : (store.transact key actions).store.snapshot.Valid :=
    Store.valid_change h (.transact key actions)
  refine Finmap.ext_lookup fun other => ?_
  rw [lookup_ofSnapshot hvalid, Store.transact_of_edits hedits, transact, lookup_commit,
    lookup_ofSnapshot h, lookup_ofSnapshot h, Draft.key_applyAll, Draft.key_start]
  exact store.tenant?_commit key _ other

theorem ofSnapshot_change (h : store.snapshot.Valid) (c : Store.Change) :
    ofSnapshot (store.change c).snapshot = (ofSnapshot store.snapshot).change c := by
  cases c with
  | transact key actions =>
    simp only [Store.change, change]
    cases hedits : Action.edits? actions with
    | none => rw [Store.transact_of_panic hedits]
    | some edits => exact ofSnapshot_transact h hedits
  | replace s =>
    simp only [change]
    cases hs : s.validate with
    | ok => rw [store.replace_of_valid (Snapshot.validate_eq_ok_iff.1 hs)]; rfl
    | error v =>
      have hnot : ¬ s.Valid := fun hv => by simp [Snapshot.validate_eq_ok_iff.2 hv] at hs
      rw [store.replace_of_not_valid hnot]

theorem ofSnapshot_changeAll (h : store.snapshot.Valid) (changes : List Store.Change) :
    ofSnapshot (store.changeAll changes).snapshot =
      (ofSnapshot store.snapshot).changeAll changes := by
  induction changes generalizing store with
  | nil => rfl
  | cons c changes ih =>
    have hstep := ih (Store.valid_change h c)
    rwa [ofSnapshot_change h c] at hstep

/-! ### A run of the store is the same run of its registry -/

/-- The store answers every lookup as the registry does, and counts the same targets. -/
structure Refines (store : Store) (r : Registry) : Prop where
  tenant : ∀ key, store.tenant? key = r.lookup key
  target : ∀ key : TargetKey,
    store.target? key = (r.lookup key.parent).bind fun c => c.targets.get? key.name
  targetCount : store.snapshot.targetCount = r.targetCount

theorem refines_ofSnapshot (h : store.snapshot.Valid) :
    Refines store (ofSnapshot store.snapshot) where
  tenant key := (lookup_ofSnapshot h key).symm
  target key := by
    rw [lookup_ofSnapshot h]
    rfl
  targetCount := (targetCount_ofSnapshot h).symm

/-- After any changes, of any keys, the store refines the registry after the same changes, and a
transaction does not touch what any other key finds. -/
theorem changeAll_refines {start : Store} (h : start.Initial) (changes : List Store.Change) :
    Refines (start.changeAll changes) ((ofSnapshot start.snapshot).changeAll changes) ∧
    ∀ (key : TenantKey) (actions : List Action) (other : TenantKey), other ≠ key →
      ((start.changeAll changes).transact key actions).store.tenant? other =
        (start.changeAll changes).tenant? other ∧
      ∀ name, ((start.changeAll changes).transact key actions).store.target? (other.target name) =
        (start.changeAll changes).target? (other.target name) := by
  refine ⟨?_, fun key actions other hne => ?_⟩
  · rw [← ofSnapshot_changeAll h.valid]
    exact refines_ofSnapshot (Store.valid_changeAll h.valid changes)
  · have htenant := (start.changeAll changes).tenant?_transact_of_ne actions hne
    refine ⟨htenant, fun name => ?_⟩
    exact congrArg (Option.bind · fun c : CellTenant => c.targets.get? name) htenant

/-- Keys that would have one text without escapes: `a/b` with `c`, and `a` with `b/c`. -/
theorem changeAll_refines_of_separators :
    Store.create .awkward = .ok (.ofSnapshot .awkward) ∧
    Refines ((Store.ofSnapshot .awkward).changeAll
        [.transact ⟨.broker, "a/b", "c"⟩ [.edit (.setAddress "x")], .replace .empty,
          .transact ⟨.broker, "a", "b/c"⟩ [.edit (.setAddress "y"), .peek ⟨.broker, "a", "b"⟩]])
      ((ofSnapshot .awkward).changeAll
        [.transact ⟨.broker, "a/b", "c"⟩ [.edit (.setAddress "x")], .replace .empty,
          .transact ⟨.broker, "a", "b/c"⟩ [.edit (.setAddress "y"), .peek ⟨.broker, "a", "b"⟩]]) :=
  ⟨rfl, (changeAll_refines (.create (s := .awkward) rfl) _).1⟩

end Registry

end EventRouter
