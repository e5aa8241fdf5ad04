import EventRouter.Proofs.Session.Version
import EventRouter.Proofs.Store.Journal

/-! The journal of a run. Operations and the stages of dispatches leave records of their commits as
they make them, and no records that could be taken for one. -/

namespace EventRouter

/-! ### Dispatch -/

/-- The change that a stage makes to the store when it is called. -/
def StageSpec.change? : StageSpec → Option Store.Change
  | .transact key actions => some (.transact key actions)
  | _ => none

namespace Scene

/-- Changes lead from one scene to another, which has the records of them in its log. -/
def Adds (changes : List Store.Change) (scene scene' : Scene) : Prop :=
  ∃ log, scene'.log = scene.log ++ log ∧
    scene.store.Journal changes (log.filter LogRecord.isCommit) scene'.store

variable {spec : StageSpec} {ctx : Context} {e : Event} {a b c : Scene}
  {changes changes' : List Store.Change}

theorem Adds.refl (a : Scene) : Adds [] a a := ⟨[], (List.append_nil _).symm, .done a.store⟩

theorem Adds.trans (h : Adds changes a b) (h' : Adds changes' b c) :
    Adds (changes ++ changes') a c := by
  obtain ⟨log, hlog, hjournal⟩ := h
  obtain ⟨log', hlog', hjournal'⟩ := h'
  refine ⟨log ++ log', by rw [hlog', hlog, List.append_assoc], ?_⟩
  rw [List.filter_append]
  exact hjournal.append hjournal'

theorem Adds.log (h : Adds changes a b) {record : LogRecord} (hrecord : record.isCommit = false) :
    Adds changes a { b with log := b.log ++ [record] } := by
  obtain ⟨log, hlog, hjournal⟩ := h
  refine ⟨log ++ [record], by rw [hlog, List.append_assoc], ?_⟩
  rw [List.filter_append, List.filter_cons_of_neg (by simp [hrecord]), List.filter_nil,
    List.append_nil]
  exact hjournal

/-- A stage leaves the records of its own transaction, or none of a commit. -/
theorem adds_stage {hasNext : Bool} {d : Decision}
    (h : stage spec hasNext ctx e a = (d, b)) :
    Adds ([spec].filterMap StageSpec.change?) a b := by
  obtain rfl := congrArg Prod.snd h
  cases spec with
  | filter =>
    exact FilterAccess.keeps_stage (p := Adds [] a)
      (fun _ _ hfilter hadds => hadds.log (LogRecord.not_isCommit_of_filter hfilter))
      hasNext ctx e a (.refl a)
  | requireBroker =>
    rw [scene_requireBroker]
    exact .refl a
  | transact key actions =>
    exact ⟨_, rfl, a.store.journal_change (.transact key actions)⟩
  | record label => exact ⟨[], (List.append_nil _).symm, .done a.store⟩
  | pass | halt | fail | setTarget | setBroker => exact .refl a

theorem adds_process (store : Store) (specs : List StageSpec) (ctx : Context) (e : Event) :
    Adds ((called specs ctx e (start store)).filterMap StageSpec.change?) (start store)
      (process store specs ctx e).2 := by
  refine relates_process (R := fun specs => Adds (specs.filterMap StageSpec.change?))
    adds_stage ?_ .refl store specs ctx e
  intro specs specs' a b c h h'
  rw [List.filterMap_append]
  exact h.trans h'

end Scene

namespace Session

/-- The changes that an operation makes to the store, in order. -/
def changes (s : Session) : Operation → List Store.Change
  | .transact key actions => [.transact key actions]
  | .replace snapshot => [.replace snapshot]
  | .process stages ctx e =>
    (Scene.called stages ctx e (.start s.store)).filterMap StageSpec.change?
  | _ => []

/-- The changes that a run makes to the store. -/
def changesIn (s : Session) : List Operation → List Store.Change
  | [] => []
  | op :: rest => s.changes op ++ (s.step op).session.changesIn rest

theorem journal_step (s : Session) (op : Operation) :
    s.store.Journal (s.changes op) ((s.step op).log.filter LogRecord.isCommit)
      (s.step op).session.store := by
  cases op with
  | transact key actions => exact s.store.journal_change (.transact key actions)
  | replace snapshot =>
    have hlog : (s.step (.replace snapshot)).log = s.store.logOf (.replace snapshot) := by
      simp only [step, Store.logOf]
      cases s.store.replace snapshot <;> rfl
    rw [store_step_replace, hlog]
    exact s.store.journal_change (.replace snapshot)
  | process stages ctx e =>
    obtain ⟨log, hlog, hjournal⟩ := Scene.adds_process s.store stages ctx e
    have hlog : (s.step (.process stages ctx e)).log = log := hlog
    rw [hlog]
    exact hjournal
  | poll name =>
    simp only [step]
    split <;> exact .done s.store
  | _ => exact .done s.store

theorem journal_run (s : Session) (ops : List Operation) :
    s.store.Journal (s.changesIn ops)
      (((s.run ops).flatMap Result.log).filter LogRecord.isCommit) (s.after ops).store := by
  induction ops generalizing s with
  | nil => exact .done s.store
  | cons op rest ih =>
    rw [run, List.flatMap_cons, List.filter_append]
    exact (s.journal_step op).append (ih _)

/-- The commits of a run are logged in order: each transaction that does not panic and each
replacement that is not refused, by an operation or by a stage of a dispatch. The records count the
versions from 1 on, and tell what the commits have made of the store; so the last one that concerns
a cell tenant, unless it tells of a replacement, tells what the run has left of it. -/
theorem log_tells_commits {start : Store} (h : start.version = 0) (ops : List Operation) :
    let s := Session.start start
    let records := ((s.run ops).flatMap Result.log).filter LogRecord.isCommit
    let final := (s.after ops).store
    start.Journal (s.changesIn ops) records final ∧ final = start.changeAll (s.changesIn ops) ∧
    (records.length = (s.changesIn ops).countP fun c => !c.fails) ∧
    (∀ i r, records[i]? = some r → ∃ version, r.version? = some version ∧
      version = .ofNat (i + 1) ∧ (i + 1 < UInt64.size → version.toNat = i + 1)) ∧
    ∀ key outcome count version front back,
      records = front ++ .committed key outcome count version :: back →
      (∀ r ∈ back, r.concerns key = false) →
        (outcome = .upserted ↔ (final.tenant? key).isSome) ∧
          count = (final.tenant? key).elim 0 fun c => c.targets.size := by
  intro s records final
  have hjournal : start.Journal (s.changesIn ops) records final := s.journal_run ops
  refine ⟨hjournal, hjournal.eq_changeAll, hjournal.length_eq, fun i r hr => ?_, ?_⟩
  · have hversion := hjournal.version_eq hr
    rw [h, UInt64.zero_add] at hversion
    exact ⟨_, hversion, rfl, UInt64.toNat_ofNat_of_lt'⟩
  · intro key outcome count version front back hrecords hback
    rw [hrecords] at hjournal
    exact hjournal.tenant?_of_last hback

/-- A creation, a panic, a deletion of what is not there, a dispatch with a transaction behind a
filter that drops nothing, and a snapshot that is refused. -/
theorem log_tells_commits_of_dispatch :
    let key : TenantKey := ⟨.broker, "a/b", ""⟩
    let other : TenantKey := ⟨.channel, "a", "b/"⟩
    let target : Target := { Target.blank with name := "t/" }
    let ops : List Operation := [
      .transact key [.edit (.upsertTargets [target]), .edit (.setId "1"), .edit (.setId "2")],
      .transact key [.edit .delete, .panic], .transact other [.edit .delete],
      .process [.setTarget (key.target "t/"), .filter, .transact other []] .empty (.blank .v10),
      .replace ⟨Dict.empty.insert "broker/a/b" (.shell key)⟩, .replace .awkward,
      .transact key [.edit .delete]]
    let s := Session.start .empty
    let records := ((s.run ops).flatMap Result.log).filter LogRecord.isCommit
    let final := (s.after ops).store
    Store.empty.version = 0 ∧
    records = [.committed key .upserted 1 1, .committed other .noop 0 2,
      .committed other .upserted 0 3, .replaced 1 4, .committed key .removed 0 5] ∧
    Store.empty.Journal (s.changesIn ops) records final ∧ (final.tenant? key).isSome = false := by
  intro key other target ops s records final
  have hzero : Store.empty.version = 0 := rfl
  have hrecords : records = [.committed key .upserted 1 1, .committed other .noop 0 2,
    .committed other .upserted 0 3, .replaced 1 4] ++ .committed key .removed 0 5 :: [] := by
    decide +kernel
  obtain ⟨hjournal, -, -, -, hlast⟩ := log_tells_commits hzero ops
  obtain ⟨hpresent, -⟩ := hlast key _ _ _ _ _ hrecords (List.forall_mem_nil _)
  exact ⟨hzero, hrecords, hjournal, by simpa using hpresent⟩

end Session

end EventRouter
