import EventRouter.Proofs.Session.Run

/-! Operations that fail: transactions whose callback panics, and replacements by a snapshot that
validation refuses. A run goes on as if they had not been there, and what a callback sees of the
store is what it was before the transaction. -/

namespace EventRouter

/-- The keys that a callback looks up until it ends or panics. -/
def Action.peeks : List Action → List TenantKey
  | [] => []
  | .edit _ :: rest => peeks rest
  | .peek key :: rest => key :: peeks rest
  | .panic :: _ => []

/-- Whether an operation fails. This does not depend on the session. -/
def Operation.fails : Operation → Bool
  | .transact _ actions => actions.contains .panic
  | .replace snapshot => !snapshot.validate.isOk
  | _ => false

/-- Whether a reply tells of a failure. -/
def Reply.failed : Reply → Bool
  | .transacted glimpses _ _ => glimpses.isNone
  | .refused .. => true
  | _ => false

/-- What a glimpse shows is what the session answers to the same questions. -/
structure Glimpse.Shows (g : Glimpse) (s : Session) : Prop where
  version : (s.step .version).reply = .version g.version s.store.snapshot.targetCount
  tenant : (s.step (.tenant g.key)).reply = .tenant g.tenant
  target : ∀ name, (s.step (.target (g.key.target name))).reply =
    .target (g.tenant.bind fun c => c.targets.get? name)

namespace Store

theorem glimpses_runCallback (store : Store) (d : Draft) (actions : List Action) :
    (store.runCallback d actions).glimpses = (Action.peeks actions).map store.glimpse := by
  induction actions generalizing d with
  | nil => rfl
  | cons action rest ih =>
    cases action with
    | edit e => exact ih (d.apply e)
    | peek key => exact congrArg (store.glimpse key :: ·) (ih d)
    | panic => rfl

/-- What the callback of a transaction sees is there to be seen before the transaction. -/
theorem glimpses_transact (store : Store) (key : TenantKey) (actions : List Action) :
    (store.transact key actions).glimpses = (Action.peeks actions).map store.glimpse := by
  have hcallback := store.glimpses_runCallback (.start key (store.tenant? key)) actions
  unfold transact
  dsimp only
  split <;> exact hcallback

theorem panicked_transact (store : Store) (key : TenantKey) (actions : List Action) :
    (store.transact key actions).panicked = actions.contains .panic := by
  have hdraft := store.draft_runCallback (.start key (store.tenant? key)) actions
  cases hedits : Action.edits? actions with
  | none =>
    have hpanic := Action.edits?_eq_none_iff.1 hedits
    rw [hedits, Option.map_none] at hdraft
    simp [transact, hdraft, hpanic]
  | some edits =>
    have hpanic : .panic ∉ actions := by
      rw [← Action.edits?_eq_none_iff, hedits]
      simp
    rw [hedits, Option.map_some] at hdraft
    simp [transact, hdraft, hpanic]

end Store

namespace Session

/-- The session after operations. -/
def after (s : Session) (ops : List Operation) : Session :=
  ops.foldl (fun s op => (s.step op).session) s

/-- The operations of a run with their results. -/
def trace (s : Session) (ops : List Operation) : List (Operation × Result) := ops.zip (s.run ops)

theorem trace_cons (s : Session) (op : Operation) (ops : List Operation) :
    s.trace (op :: ops) = (op, s.step op) :: (s.step op).session.trace ops := rfl

/-! ### One operation -/

/-- The reply to a transaction tells what its callback saw, or that it panicked. -/
theorem reply_step_transact (s : Session) (key : TenantKey) (actions : List Action) :
    let result := s.step (.transact key actions)
    result.reply = .transacted (if actions.contains .panic then none else some result.glimpses)
      result.session.store.version result.session.store.snapshot := by
  rw [← s.store.panicked_transact key actions]
  rfl

theorem failed_step (s : Session) (op : Operation) : (s.step op).reply.failed = op.fails := by
  cases op with
  | transact key actions =>
    rw [reply_step_transact, Reply.failed, Operation.fails]
    split <;> simp_all
  | replace snapshot =>
    simp only [step, Store.replace, Operation.fails]
    cases snapshot.validate with
    | ok => rfl
    | error => rfl
  | poll name =>
    simp only [step]
    split <;> rfl
  | _ => rfl

theorem step_of_fails (s : Session) {op : Operation} (h : op.fails = true) :
    (s.step op).session = s := by
  cases op with
  | transact key actions =>
    have hpanic : .panic ∈ actions := by simpa [Operation.fails] using h
    have hstore : (s.store.transact key actions).store = s.store :=
      Store.transact_of_panic (Action.edits?_eq_none_iff.2 hpanic)
    simp only [step, withStore, hstore]
  | replace snapshot =>
    simp only [step, Store.replace]
    cases hs : snapshot.validate with
    | ok => simp [Operation.fails, hs, Except.isOk, Except.toBool] at h
    | error => rfl
  | _ => contradiction

theorem shows_glimpse (s : Session) (key : TenantKey) : (s.store.glimpse key).Shows s :=
  ⟨rfl, rfl, fun _ => rfl⟩

/-! ### A run -/

theorem failed_of_mem_trace {s : Session} {ops : List Operation} :
    ∀ x ∈ s.trace ops, x.2.reply.failed = x.1.fails := by
  induction ops generalizing s with
  | nil => simp [trace]
  | cons op ops ih =>
    rw [trace_cons]
    exact List.forall_mem_cons.2 ⟨s.failed_step op, ih⟩

theorem after_filter (s : Session) (ops : List Operation) :
    s.after (ops.filter (!·.fails)) = s.after ops := by
  induction ops generalizing s with
  | nil => rfl
  | cons op ops ih =>
    cases hop : op.fails with
    | true =>
      rw [List.filter_cons_of_neg (by simp [hop]), ih]
      exact congrArg (after · ops) (s.step_of_fails hop).symm
    | false =>
      rw [List.filter_cons_of_pos (by simp [hop])]
      exact ih (s.step op).session

theorem trace_filter (s : Session) (ops : List Operation) :
    s.trace (ops.filter (!·.fails)) = (s.trace ops).filter (!·.1.fails) := by
  induction ops generalizing s with
  | nil => rfl
  | cons op ops ih =>
    rw [trace_cons]
    cases hop : op.fails with
    | true =>
      rw [List.filter_cons_of_neg (by simp [hop]), List.filter_cons_of_neg (by simp [hop]),
        s.step_of_fails hop, ih]
    | false =>
      rw [List.filter_cons_of_pos (by simp [hop]), List.filter_cons_of_pos (by simp [hop]),
        trace_cons, ih]

/-- The operations whose replies tell of a failure can be taken out of a run: the session at its
end, with the store and all its receivers, and the results of all other operations stay the same.
At every point of a run, whatever the callback of a transaction sees of the store between its edits,
until it ends or panics, is what the session would have answered just before. -/
theorem failures_invisible (s : Session) (ops : List Operation) :
    (∀ x ∈ s.trace ops, x.2.reply.failed = x.1.fails) ∧
    s.after (ops.filter (!·.fails)) = s.after ops ∧
    s.trace (ops.filter (!·.fails)) = (s.trace ops).filter (!·.1.fails) ∧
    ∀ (key : TenantKey) (actions : List Action),
      let before := s.after ops
      let result := before.step (.transact key actions)
      result.glimpses.map Glimpse.key = Action.peeks actions ∧
      (∀ g ∈ result.glimpses, g.Shows before) ∧
      result.reply = .transacted (if actions.contains .panic then none else some result.glimpses)
        result.session.store.version result.session.store.snapshot := by
  refine ⟨failed_of_mem_trace, s.after_filter ops, s.trace_filter ops, fun key actions => ?_⟩
  intro before result
  have hglimpses : result.glimpses = (Action.peeks actions).map before.store.glimpse :=
    before.store.glimpses_transact key actions
  refine ⟨?_, fun g hg => ?_, before.reply_step_transact key actions⟩
  · rw [hglimpses, List.map_map]
    exact List.map_id _
  · rw [hglimpses] at hg
    obtain ⟨peeked, -, rfl⟩ := List.mem_map.1 hg
    exact before.shows_glimpse peeked

end Session

end EventRouter
