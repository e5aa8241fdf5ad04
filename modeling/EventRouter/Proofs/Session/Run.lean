import EventRouter.Proofs.Dispatch.Stage
import EventRouter.Proofs.Store.Change
import EventRouter.Session.Basic

/-! Runs of operations. No operation, and no stage that an event is dispatched to, does anything to
the store but change it, so the snapshot of the store is valid at every point of a run. -/

namespace EventRouter

/-- Some changes lead from one store to the other. -/
def Store.Reaches (a b : Store) : Prop := ∃ changes, b = a.changeAll changes

namespace Store.Reaches

theorem refl (a : Store) : a.Reaches a := ⟨[], rfl⟩

theorem change {a b : Store} (h : a.Reaches b) (c : Change) : a.Reaches (b.change c) := by
  obtain ⟨changes, rfl⟩ := h
  exact ⟨changes ++ [c], by simp [changeAll]⟩

theorem trans {a b c : Store} (h : a.Reaches b) (h' : b.Reaches c) : a.Reaches c := by
  obtain ⟨changes, rfl⟩ := h
  obtain ⟨changes', rfl⟩ := h'
  exact ⟨changes ++ changes', by simp [changeAll]⟩

theorem valid {a b : Store} (h : a.Reaches b) (ha : a.snapshot.Valid) : b.snapshot.Valid := by
  obtain ⟨changes, rfl⟩ := h
  exact valid_changeAll ha changes

end Store.Reaches

namespace Scene

/-- A stage changes the store by its own transaction, or not at all. -/
theorem keeps_stage (start : Store) (spec : StageSpec) :
    (stage spec).Keeps fun scene => start.Reaches scene.store := by
  intro hasNext ctx e scene h
  cases spec with
  | filter =>
    exact FilterAccess.keeps_stage (p := fun scene : Scene => start.Reaches scene.store)
      (fun _ _ _ hs => hs) hasNext ctx e scene h
  | requireBroker =>
    simp only [stage, Stage.requireBroker]
    split <;> exact h
  | transact key actions => exact h.change (.transact key actions)
  | pass | record | halt | fail | setTarget | setBroker => exact h

theorem reaches_process (store : Store) (specs : List StageSpec) (ctx : Context) (e : Event) :
    store.Reaches (process store specs ctx e).2.store := by
  unfold process
  split
  · exact .refl store
  · next handler hchain =>
    refine Stage.keeps_chain (p := fun scene => store.Reaches scene.store) (fun st hst => ?_)
      hchain ctx e (s := start store) (.refl store)
    obtain ⟨spec, -, rfl⟩ := List.mem_map.1 hst
    exact keeps_stage store spec

end Scene

namespace Session

theorem store_step_replace (s : Session) (snapshot : Snapshot) :
    (s.step (.replace snapshot)).session.store = s.store.change (.replace snapshot) := by
  simp only [step, Store.change]
  cases s.store.replace snapshot with
  | ok => rfl
  | error => rfl

theorem reaches_step (s : Session) (op : Operation) :
    s.store.Reaches (s.step op).session.store := by
  cases op with
  | transact key actions => exact (Store.Reaches.refl _).change (.transact key actions)
  | replace snapshot =>
    rw [store_step_replace]
    exact (Store.Reaches.refl _).change (.replace snapshot)
  | poll name =>
    simp only [step]
    split <;> exact .refl s.store
  | process stages ctx e => exact Scene.reaches_process s.store stages ctx e
  | _ => exact .refl s.store

/-- The stores at all points of a run: before the first operation and after each one. -/
def stores (s : Session) (ops : List Operation) : List Store :=
  s.store :: (s.run ops).map (·.session.store)

theorem reaches_of_mem_stores {s : Session} {ops : List Operation} :
    ∀ store ∈ s.stores ops, s.store.Reaches store := by
  induction ops generalizing s with
  | nil =>
    intro store h
    obtain rfl := List.mem_singleton.1 h
    exact .refl s.store
  | cons op ops ih =>
    intro store h
    rcases List.mem_cons.1 h with rfl | h
    · exact .refl s.store
    · exact (s.reaches_step op).trans (ih store h)

/-- At every point of every run the snapshot of the store is valid, and validation accepts it in
whatever order it meets the entries. -/
theorem valid_throughout {start : Store} (h : start.Initial) (ops : List Operation) :
    ∀ store ∈ (Session.start start).stores ops, store.snapshot.Valid ∧
      ∀ l : Listing, l.Of store.snapshot → l.validate = .ok () := by
  intro store hstore
  have hreaches : start.Reaches store := reaches_of_mem_stores store hstore
  have hvalid := hreaches.valid h.valid
  exact ⟨hvalid, fun l hl => hl.validate_eq_ok_iff.2 hvalid⟩

/-- A run with an upserted target that names another cell tenant, a panic, and a snapshot that is
refused. -/
theorem valid_throughout_of_awkward :
    Store.create .awkward = .ok (.ofSnapshot .awkward) ∧
    ∀ store ∈ (Session.start (.ofSnapshot .awkward)).stores
        [.transact ⟨.broker, "a/b", ""⟩
          [.edit (.upsertTargets [{ Target.blank with name := "t%2F", tenantName := "other" }])],
        .transact ⟨.broker, "a", "b/"⟩ [.edit (.setId "id"), .panic],
        .replace ⟨Dict.empty.insert "broker/a/b" (.shell ⟨.broker, "a/b", ""⟩)⟩],
      store.snapshot.Valid ∧ ∀ l : Listing, l.Of store.snapshot → l.validate = .ok () :=
  ⟨rfl, valid_throughout (.create (s := .awkward) rfl) _⟩

end Session

end EventRouter
