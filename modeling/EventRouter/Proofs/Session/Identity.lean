import EventRouter.Proofs.Session.Journal
import EventRouter.Proofs.Store.Identity

/-! The ids of cell tenants over a run. An id that is assigned stands over all operations and all
stages of dispatches until a transaction on its cell tenant has a deletion. -/

namespace EventRouter.Session

/-- No stage of a dispatch replaces the snapshot. -/
theorem replace_mem_of_mem_changesIn {s : Session} {ops : List Operation} {snapshot : Snapshot}
    (h : .replace snapshot ∈ s.changesIn ops) : .replace snapshot ∈ ops := by
  induction ops generalizing s with
  | nil => contradiction
  | cons op rest ih =>
    rcases List.mem_append.1 h with hop | hrest
    · cases op with
      | replace snapshot' =>
        obtain rfl := Store.Change.replace.inj (List.mem_singleton.1 hop)
        exact List.mem_cons_self
      | process stages ctx e =>
        obtain ⟨spec, -, hspec⟩ := List.mem_filterMap.1 hop
        cases spec <;> simp [StageSpec.change?] at hspec
      | transact => exact nomatch List.mem_singleton.1 hop
      | _ => contradiction
    · exact List.mem_cons_of_mem _ (ih hrest)

/-- An id of a cell tenant is written once. The edits of a transaction leave a stored id where it
is, and without one, or behind a deletion, assign the first that is not empty; each edit that asks
for another id than the one at hand is on record, also when it asks for none. So where an id has
changed or disappeared over a run, it did in a transaction that deletes the cell tenant. -/
theorem ids_written_once :
    (∀ (store : Store) (key : TenantKey) (actions : List Action),
      let stored := (store.id? key).getD ""
      let edits := Action.made actions
      let result := store.transact key actions
      (.panic ∉ actions → edits.getLast? ≠ some .delete →
        result.store.id? key = some (if stored ≠ "" ∧ .delete ∉ edits then stored
          else (((Edit.sinceDeletion edits).filterMap Edit.id?).find? (!·.isEmpty)).getD "")) ∧
      result.log.filter (·.name = "cell_tenant_id_change_ignored") =
        Edit.refusals key stored [] edits) ∧
    ∀ (s : Session) (ops : List Operation) (key : TenantKey) (id : String),
      (∀ snapshot, .replace snapshot ∈ ops → ¬ snapshot.Valid) →
      s.store.id? key = some id → id ≠ "" → (s.after ops).store.id? key ≠ some id →
      ∃ before actions after, s.changesIn ops = before ++ .transact key actions :: after ∧
        .panic ∉ actions ∧ .edit .delete ∈ actions ∧
        (s.store.changeAll before).id? key = some id ∧
        ((s.store.changeAll before).change (.transact key actions)).id? key ≠ some id := by
  constructor
  · intro store key actions stored edits result
    refine ⟨fun hpanic hlast => ?_, store.filter_log_transact key actions⟩
    exact Store.id?_transact hpanic hlast
  · intro s ops key id hreplace hid hne hlost
    rw [(s.journal_run ops).eq_changeAll] at hlost
    exact Store.exists_deletion hid hne
      (fun snapshot h => hreplace snapshot (replace_mem_of_mem_changesIn h)) hlost

/-- Attempts to change an id, to take it away and to assign it again, which count for nothing; and a
run in which a snapshot is refused and a deletion panics before a dispatch deletes the cell tenant
and makes it again. -/
theorem ids_written_once_of_recreation :
    let key : TenantKey := ⟨.broker, "a/b", ""⟩
    let actions : List Action := [.edit (.setId ""), .edit (.setId "1"), .peek key,
      .edit (.setId "2"), .edit (.setId ""), .edit (.setId "1")]
    let created := Store.empty.transact key actions
    let s := Session.start created.store
    let refused : Snapshot := ⟨Dict.empty.insert "broker/a/b" (.shell key)⟩
    let ops : List Operation := [.replace refused, .transact key [.edit .delete, .panic],
      .process [.transact key [.edit .delete, .edit (.setId "2")]] .empty (.blank .v10)]
    .panic ∉ actions ∧ (Action.made actions).getLast? ≠ some .delete ∧
    created.store.id? key = some "1" ∧
    created.log.filter (·.name = "cell_tenant_id_change_ignored") =
      [.idKept key "1" "2", .idKept key "1" ""] ∧
    (∀ snapshot, .replace snapshot ∈ ops → ¬ snapshot.Valid) ∧
    s.store.id? key = some "1" ∧ "1" ≠ "" ∧ (s.after ops).store.id? key ≠ some "1" ∧
    ∃ before actions after, s.changesIn ops = before ++ .transact key actions :: after ∧
      .panic ∉ actions ∧ .edit .delete ∈ actions ∧
      (s.store.changeAll before).id? key = some "1" ∧
      ((s.store.changeAll before).change (.transact key actions)).id? key ≠ some "1" := by
  intro key actions created s refused ops
  obtain ⟨hcommit, hlog⟩ := ids_written_once.1 Store.empty key actions
  have hpanic : .panic ∉ actions := by decide
  have hlast : (Action.made actions).getLast? ≠ some .delete := by decide
  have hid : created.store.id? key = some "1" := (hcommit hpanic hlast).trans (by decide +kernel)
  have hreplace (snapshot : Snapshot) (h : .replace snapshot ∈ ops) : ¬ snapshot.Valid := by
    obtain rfl : snapshot = refused := by simpa [ops] using h
    rw [← Snapshot.isOk_validate_iff]
    decide +kernel
  have hlost : (s.after ops).store.id? key ≠ some "1" := by decide +kernel
  exact ⟨hpanic, hlast, hid, hlog.trans (by decide +kernel), hreplace, hid, by decide, hlost,
    ids_written_once.2 s ops key "1" hreplace hid (by decide) hlost⟩

end EventRouter.Session
