import EventRouter.Proofs.Store.Change

/-! The journal of a store: the log records of its commits, in order. Each of them tells what its
commit has done, so the last one about a cell tenant tells what has become of it. -/

namespace EventRouter

/-- An outcome and a number of targets tell what a commit has made of a cell tenant. -/
structure Outcome.Tells (outcome : Outcome) (count : Nat) (before after : Option CellTenant) :
    Prop where
  upserted : outcome = .upserted ↔ after.isSome
  removed : outcome = .removed ↔ before.isSome ∧ after = none
  noop : outcome = .noop ↔ before = none ∧ after = none
  count : count = after.elim 0 fun c => c.targets.size

namespace LogRecord

/-- Whether a record has the name of a commit. -/
def isCommit (r : LogRecord) : Bool :=
  r.name = "targets_store_commit" || r.name = "targets_store_snapshot_replaced"

/-- The version that a commit has given to the snapshot. -/
def version? : LogRecord → Option UInt64
  | committed _ _ _ version | replaced _ version => some version
  | _ => none

/-- Whether a record tells of a commit that the cell tenant with a key may have changed in. -/
def concerns (key : TenantKey) : LogRecord → Bool
  | committed tenant .. => tenant = key
  | replaced .. => true
  | _ => false

/-- A filter stage leaves no record of a commit. -/
theorem not_isCommit_of_filter {r : LogRecord} (h : r.component = "filter_processor") :
    r.isCommit = false := by
  cases r with
  | committed | replaced => simp [component] at h
  | _ => rfl

/-- A record tells what a change has made of a store. -/
inductive Tells (before after : Store) : LogRecord → Store.Change → Prop where
  | committed {key : TenantKey} {actions : List Action} {outcome : Outcome} {count : Nat}
      (h : outcome.Tells count (before.tenant? key) (after.tenant? key)) :
      Tells before after (.committed key outcome count after.version) (.transact key actions)
  | replaced {s : Snapshot} (h : after.snapshot = s) :
      Tells before after (.replaced after.snapshot.tenants.size after.version) (.replace s)

theorem Tells.isCommit {before after : Store} {r : LogRecord} {c : Store.Change}
    (h : r.Tells before after c) : r.isCommit = true := by
  cases h <;> rfl

theorem Tells.version?_eq {before after : Store} {r : LogRecord} {c : Store.Change}
    (h : r.Tells before after c) : r.version? = some after.version := by
  cases h <;> rfl

end LogRecord

namespace Store

/-- Whether a change fails. -/
def Change.fails : Change → Bool
  | .transact _ actions => actions.contains .panic
  | .replace s => !s.validate.isOk

/-- The records that a change leaves. -/
def logOf (store : Store) : Change → List LogRecord
  | .transact key actions => (store.transact key actions).log
  | .replace s =>
    match store.replace s with
    | .ok (_, record) => [record]
    | .error _ => []

/-- Changes lead from one store to another and leave records of their commits: one of each change
that does not fail. -/
inductive Journal : Store → List Change → List LogRecord → Store → Prop where
  | done (store : Store) : Journal store [] [] store
  | failed {store after : Store} {c : Change} {changes : List Change} {records : List LogRecord}
      (hc : c.fails = true) (h : Journal store changes records after) :
      Journal store (c :: changes) records after
  | commit {store after : Store} {c : Change} {changes : List Change} {r : LogRecord}
      {records : List LogRecord} (hc : c.fails = false) (hr : r.Tells store (store.change c) c)
      (h : Journal (store.change c) changes records after) :
      Journal store (c :: changes) (r :: records) after

variable {a b c : Store} {key : TenantKey} {changes changes' : List Change} {r : LogRecord}
  {records records' : List LogRecord}

/-! ### One change -/

theorem fails_transact_iff {actions : List Action} :
    (Change.transact key actions).fails = true ↔ Action.edits? actions = none := by
  rw [Change.fails, List.contains_iff_mem, Action.edits?_eq_none_iff]

theorem fails_replace_iff {s : Snapshot} : (Change.replace s).fails = true ↔ ¬ s.Valid := by
  rw [← Snapshot.isOk_validate_iff, Change.fails, Bool.not_eq_true', Bool.not_eq_true]

/-- The only records that a callback leaves are about ids. -/
theorem filter_log_runCallback (store : Store) (d : Draft) (actions : List Action) :
    (store.runCallback d actions).log.filter LogRecord.isCommit = [] := by
  induction actions generalizing d with
  | nil => rfl
  | cons action rest ih =>
    cases action with
    | edit e =>
      have hwarning : (d.warning? e).toList.filter LogRecord.isCommit = [] := by
        unfold Draft.warning?
        split
        · split <;> rfl
        · rfl
      rw [runCallback, List.filter_append, hwarning, ih, List.append_nil]
    | peek key => exact ih d
    | panic => rfl

theorem tells_commit (store : Store) (key : TenantKey) (d : Draft) (actions : List Action) :
    (store.commit key d.commit).2.Tells store (store.commit key d.commit).1
      (.transact key actions) := by
  have hafter := store.tenant?_commit key d key
  rw [if_pos rfl] at hafter
  -- The record is made from the draft and the old snapshot, `hafter` tells of the new one.
  cases hremoved : d.removed with
  | false =>
    have hcommit : d.commit = .upsert d.tenant := by simp [Draft.commit, hremoved]
    rw [hremoved, if_neg Bool.false_ne_true, hcommit] at hafter
    rw [hcommit]
    refine .committed ?_
    rw [hafter]
    constructor <;> simp
  | true =>
    have hcommit : d.commit = .remove := by simp [Draft.commit, hremoved]
    rw [hremoved, if_pos rfl, hcommit] at hafter
    rw [hcommit]
    refine .committed ?_
    rw [hafter]
    cases store.tenant? key <;> constructor <;> simp

theorem journal_transact (store : Store) (key : TenantKey) (actions : List Action) :
    store.Journal [.transact key actions]
      ((store.logOf (.transact key actions)).filter LogRecord.isCommit)
      (store.change (.transact key actions)) := by
  have hdraft := store.draft_runCallback (.start key (store.tenant? key)) actions
  have hlog := store.filter_log_runCallback (.start key (store.tenant? key)) actions
  cases hedits : Action.edits? actions with
  | none =>
    rw [hedits, Option.map_none] at hdraft
    simp only [logOf, change, transact, hdraft, hlog]
    exact .failed (fails_transact_iff.2 hedits) (.done store)
  | some edits =>
    have htells := store.tells_commit key ((Draft.start key (store.tenant? key)).applyAll edits)
      actions
    have hstore : store.change (.transact key actions) = _ := transact_of_edits hedits
    rw [hedits, Option.map_some] at hdraft
    rw [← hstore] at htells
    simp only [logOf, transact, hdraft, List.filter_append, hlog, List.nil_append]
    rw [List.filter_cons_of_pos htells.isCommit, List.filter_nil]
    exact .commit (by simp [Bool.eq_false_iff, fails_transact_iff, hedits]) htells (.done _)

theorem replace_eq_ok_iff {store : Store} {s : Snapshot} {result : Store × LogRecord} :
    store.replace s = .ok result ↔ s.Valid ∧
      result = (store.publish s, .replaced s.tenants.size (store.publish s).version) := by
  rw [replace, Except.bind_eq_ok_iff, ← Snapshot.validate_eq_ok_iff]
  constructor
  · rintro ⟨_, hs, h⟩
    exact ⟨hs, (Except.ok.inj h).symm⟩
  · rintro ⟨hs, rfl⟩
    exact ⟨(), hs, rfl⟩

theorem journal_replace (store : Store) (s : Snapshot) :
    store.Journal [.replace s] ((store.logOf (.replace s)).filter LogRecord.isCommit)
      (store.change (.replace s)) := by
  cases hreplace : store.replace s with
  | error v =>
    have hs : ¬ s.Valid := by
      intro hs
      rw [replace_eq_ok_iff.2 ⟨hs, rfl⟩] at hreplace
      contradiction
    simp only [logOf, change, hreplace]
    exact .failed (fails_replace_iff.2 hs) (.done store)
  | ok result =>
    obtain ⟨hs, rfl⟩ := replace_eq_ok_iff.1 hreplace
    have hstore := store.replace_of_valid hs
    have htells : LogRecord.Tells store (store.change (.replace s))
        (.replaced s.tenants.size (store.publish s).version) (.replace s) := by
      rw [hstore]
      exact .replaced rfl
    simp only [logOf, hreplace]
    rw [List.filter_cons_of_pos htells.isCommit, List.filter_nil]
    exact .commit (by simpa [Bool.eq_false_iff, fails_replace_iff] using hs) htells (.done _)

/-- A change leaves one record of a commit if it does not fail, and none if it does. -/
theorem journal_change (store : Store) (c : Change) :
    store.Journal [c] ((store.logOf c).filter LogRecord.isCommit) (store.change c) := by
  cases c with
  | transact key actions => exact store.journal_transact key actions
  | replace s => exact store.journal_replace s

theorem change_of_fails {c : Change} (h : c.fails = true) (store : Store) :
    store.change c = store := by
  cases c with
  | transact key actions => exact transact_of_panic (fails_transact_iff.1 h)
  | replace s => exact store.replace_of_not_valid (fails_replace_iff.1 h)

theorem version_change {c : Change} (h : c.fails = false) (store : Store) :
    (store.change c).version = store.version + 1 := by
  cases c with
  | transact key actions =>
    cases hedits : Action.edits? actions with
    | none => simp [fails_transact_iff.2 hedits] at h
    | some edits =>
      rw [change, transact_of_edits hedits]
      unfold commit
      split <;> rfl
  | replace s =>
    have hs : ¬ ¬ s.Valid := mt fails_replace_iff.2 (by simp [h])
    rw [store.replace_of_valid (Classical.not_not.1 hs)]
    rfl

namespace Journal

/-! ### Journals -/

theorem append (h : a.Journal changes records b) (h' : b.Journal changes' records' c) :
    a.Journal (changes ++ changes') (records ++ records') c := by
  induction h with
  | done => exact h'
  | failed hc _ ih => exact .failed hc (ih h')
  | commit hc hr _ ih => exact .commit hc hr (ih h')

theorem eq_changeAll (h : a.Journal changes records b) : b = a.changeAll changes := by
  induction h with
  | done => rfl
  | failed hc _ ih =>
    rw [changeAll, List.foldl_cons, change_of_fails hc]
    exact ih
  | commit _ _ _ ih => exact ih

/-- One record of each change that does not fail. -/
theorem length_eq (h : a.Journal changes records b) :
    records.length = changes.countP fun c => !c.fails := by
  induction h with
  | done => rfl
  | failed hc _ ih => rw [ih, List.countP_cons_of_neg (by simp [hc])]
  | commit hc _ _ ih => rw [List.length_cons, ih, List.countP_cons_of_pos (by simp [hc])]

/-- The versions that the records name go up by one from record to record. -/
theorem version_eq (h : a.Journal changes records b) {i : Nat} (hi : records[i]? = some r) :
    r.version? = some (a.version + .ofNat (i + 1)) := by
  induction h generalizing i with
  | done => contradiction
  | failed _ _ ih => exact ih hi
  | @commit store _ c _ _ _ hc hr _ ih =>
    cases i with
    | zero =>
      obtain rfl := Option.some.inj hi
      rw [hr.version?_eq, version_change hc]
      rfl
    | succ i =>
      have hnext : UInt64.ofNat (i + 1 + 1) = 1 + .ofNat (i + 1) := by
        rw [UInt64.ofNat_add, UInt64.add_comm]
        rfl
      rw [ih hi, version_change hc, hnext, UInt64.add_assoc]

/-- What no record concerns stays as it was. -/
theorem tenant?_eq (h : a.Journal changes records b)
    (hkey : ∀ r ∈ records, r.concerns key = false) : b.tenant? key = a.tenant? key := by
  induction h with
  | done => rfl
  | failed _ _ ih => exact ih hkey
  | commit _ hr _ ih =>
    obtain ⟨hfirst, hrest⟩ := List.forall_mem_cons.1 hkey
    rw [ih hrest]
    cases hr with
    | @committed other actions =>
      have hne : key ≠ other := fun heq => of_decide_eq_false hfirst heq.symm
      exact tenant?_transact_of_ne _ actions hne
    | replaced => contradiction

/-- The last record about a cell tenant tells whether it is there, and how many targets it has. -/
theorem tenant?_of_last {outcome : Outcome} {count : Nat} {version : UInt64}
    {front back : List LogRecord}
    (h : a.Journal changes (front ++ .committed key outcome count version :: back) b)
    (hback : ∀ r ∈ back, r.concerns key = false) :
    (outcome = .upserted ↔ (b.tenant? key).isSome) ∧
      count = (b.tenant? key).elim 0 fun c => c.targets.size := by
  generalize hrecords : front ++ .committed key outcome count version :: back = records at h
  induction h generalizing front with
  | done => simp at hrecords
  | failed _ _ ih => exact ih hrecords
  | commit _ hr hrest ih =>
    cases front with
    | nil =>
      obtain ⟨rfl, rfl⟩ := List.cons.inj hrecords
      -- The record is that of this commit, and no later one concerns the cell tenant.
      rw [hrest.tenant?_eq hback]
      cases hr with
      | committed htells => exact ⟨htells.upserted, htells.count⟩
    | cons r front => exact ih (List.cons.inj hrecords).2

end Journal

end Store

end EventRouter
