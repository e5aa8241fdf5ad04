import EventRouter.Proofs.Session.Run
import EventRouter.Proofs.Snapshot.Document

/-! Checkpoints. The snapshot of a store is written at some point of a run, and a store that is
created from what was written answers every lookup as the first one did. -/

namespace EventRouter.Session

/-- Every snapshot, valid or not, is read from what is written for it, with the members of all
objects in any order. In a run, what is read is valid, and the store that is created from it has the
same snapshot, cell tenants and targets. -/
theorem restores_snapshot :
    (∀ s : Snapshot, s.Written (.value s.toJson) ∧ s.Written (.json s.toJson.text) ∧
      ∀ source, s.Written source → Snapshot.decode.run source = .ok s) ∧
    ∀ start : Store, start.Initial → ∀ ops, ∀ store ∈ (Session.start start).stores ops,
      ∀ source, store.snapshot.Written source → ∃ s restored,
        Snapshot.decode.run source = .ok s ∧ Store.create s = .ok restored ∧
        restored.snapshot = store.snapshot ∧ (∀ key, restored.tenant? key = store.tenant? key) ∧
        ∀ key, restored.target? key = store.target? key := by
  refine ⟨fun s => ?_, fun start hstart ops store hstore source hsource => ?_⟩
  · have hself : s.toJson.Reorders s.toJson := (s.reads_toJson (n := 0)).distinct.reorders
    exact ⟨.value hself, .text hself, fun _ => Snapshot.run_of_written⟩
  · have hreaches : start.Reaches store := reaches_of_mem_stores store hstore
    have hvalid : store.snapshot.Valid := hreaches.valid hstart.valid
    exact ⟨store.snapshot, .ofSnapshot store.snapshot, Snapshot.run_of_written hsource,
      Store.create_eq_ok_iff.2 ⟨hvalid, rfl⟩, rfl, fun _ => rfl, fun _ => rfl⟩

/-- The text of a snapshot with a target that names another cell tenant when it is upserted, before
and after a deletion. -/
theorem restores_snapshot_of_awkward :
    Store.create .awkward = .ok (.ofSnapshot .awkward) ∧
    ∀ store ∈ (Session.start (.ofSnapshot .awkward)).stores
        [.transact ⟨.broker, "a/b", ""⟩
          [.edit (.upsertTargets [{ Target.blank with name := "t%2F", tenantName := "other" }])],
        .transact ⟨.broker, "a/b", ""⟩ [.edit .delete]],
      store.snapshot.Written (.json store.snapshot.toJson.text) ∧
      ∃ s restored, Snapshot.decode.run (.json store.snapshot.toJson.text) = .ok s ∧
        Store.create s = .ok restored ∧ restored.snapshot = store.snapshot ∧
        (∀ key, restored.tenant? key = store.tenant? key) ∧
        ∀ key, restored.target? key = store.target? key := by
  refine ⟨rfl, fun store hstore => ?_⟩
  obtain ⟨hread, hrestore⟩ := restores_snapshot
  have hwritten := (hread store.snapshot).2.1
  exact ⟨hwritten, hrestore _ (.create (s := .awkward) rfl) _ store hstore _ hwritten⟩

end EventRouter.Session
