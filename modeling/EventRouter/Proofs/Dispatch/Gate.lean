import EventRouter.Proofs.Dispatch.Filter
import EventRouter.Proofs.Filter
import EventRouter.Proofs.Store.Change

/-! A filter stage at work: commits change the store between the events that it is given, and
another stage stands behind it. Each event is decided by the snapshot of that moment, and the trace
that it carries has no part in the decision. -/

namespace EventRouter

/-- The map with a value under a key, or without the key. -/
def Dict.put (d : Dict α) (k : String) : Option α → Dict α
  | some v => d.insert k v
  | none => d.erase k

theorem Dict.get?_put (d : Dict α) (k : String) (v : Option α) (k' : String) :
    (d.put k v).get? k' = if k' = k then v else d.get? k' := by
  cases v <;> simp [put]

namespace Event

/-- The event with other values, or none, in the two extensions that a trace travels in. -/
def withTrace (e : Event) (parent state : Option ExtensionValue) : Event :=
  { e with extensions := (e.extensions.put "traceparent" parent).put "tracestate" state }

theorem attribute?_withTrace (e : Event) (parent state : Option ExtensionValue) {name : String}
    (hparent : name ≠ "traceparent") (hstate : name ≠ "tracestate") :
    (e.withTrace parent state).attribute? name = e.attribute? name := by
  unfold attribute?
  split
  all_goals first
    | rfl
    | rw [withTrace, Dict.get?_put, if_neg hstate, Dict.get?_put, if_neg hparent]

/-- A filter that names neither of the two extensions does not see the trace of an event. -/
theorem satisfies_withTrace {e : Event} {filter : Dict String}
    (hparent : filter.get? "traceparent" = none) (hstate : filter.get? "tracestate" = none)
    (parent state : Option ExtensionValue) :
    (e.withTrace parent state).Satisfies filter ↔ e.Satisfies filter := by
  refine forall_congr' fun name => forall_congr' fun value => imp_congr_right fun hvalue => ?_
  have hne : ∀ other, filter.get? other = none → name ≠ other := by
    rintro other hnone rfl
    rw [hnone] at hvalue
    contradiction
  rw [attribute?_withTrace e parent state (hne _ hparent) (hne _ hstate)]

instance (e : Event) (filter : Dict String) : Decidable (e.Satisfies filter) :=
  decidable_of_iff (∀ entry ∈ filter.entries, e.attribute? entry.1 = some entry.2)
    (Dict.forall_mem_entries_iff (p := fun name value => e.attribute? name = some value))

end Event

/-- The answer that an event gets in a context from a filter stage over a snapshot; none if the
event is to go on. -/
def Snapshot.ruling (s : Snapshot) (ctx : Context) (e : Event) : Option Answer :=
  match ctx.target with
  | none => some (.error (.context .noTargetKey))
  | some key =>
    match s.tenant? key.parent with
    | none => some (.error (.tenantNotFound key.parent))
    | some tenant =>
      match tenant.targets.get? key.name with
      | none => some (.error (.targetNotFound key))
      | some target => if e.Satisfies target.filter then none else some (.ok ())

theorem Snapshot.ruling_withTrace {s : Snapshot} {ctx : Context} {e : Event}
    (h : ∀ key t, ctx.target = some key → s.target? key = some t →
      t.filter.get? "traceparent" = none ∧ t.filter.get? "tracestate" = none)
    (parent state : Option ExtensionValue) :
    s.ruling ctx (e.withTrace parent state) = s.ruling ctx e := by
  unfold ruling
  split
  · rfl
  · next key hkey =>
    split
    · rfl
    · next c hc =>
      split
      · rfl
      · next t ht =>
        obtain ⟨hparent, hstate⟩ := h key t hkey (Option.bind_eq_some_iff.2 ⟨c, hc, ht⟩)
        simp only [Event.satisfies_withTrace hparent hstate]

theorem Snapshot.ruling_of_found {s : Snapshot} {ctx : Context} {e : Event} {key : TargetKey}
    (hkey : ctx.target = some key) {t : Target} (ht : s.target? key = some t) :
    s.ruling ctx e = if e.Satisfies t.filter then none else some (.ok ()) := by
  obtain ⟨c, hc, ht⟩ := Option.bind_eq_some_iff.1 ht
  simp only [ruling, hkey, hc, ht]

theorem Snapshot.ruling_of_not_found {s : Snapshot} {ctx : Context} {e : Event} {key : TargetKey}
    (hkey : ctx.target = some key) {err : ProcessError} (hfind : s.find key = .error err) :
    s.ruling ctx e = some (.error err) := by
  simp only [ruling, hkey]
  unfold find at hfind
  split at hfind
  · next hc => simpa [hc] using hfind
  · next c hc =>
    split at hfind
    · next ht => simpa [hc, ht] using hfind
    · contradiction

namespace FilterAccess

variable {σ : Type} {access : FilterAccess σ} {ctx : Context} {e : Event} {s : σ}

/-- A context with the trace of an event names the same broker and the same target. -/
theorem traced_keys (access : FilterAccess σ) (key : TargetKey) (ctx : Context) (e : Event)
    (s : σ) : (access.traced key ctx e s).1.broker = ctx.broker ∧
      (access.traced key ctx e s).1.target = ctx.target := by
  unfold traced
  split <;> exact ⟨rfl, rfl⟩

theorem stage_of_not_found
    (hlog : ∀ record s, access.snapshot (access.log record s) = access.snapshot s)
    {key : TargetKey} (hkey : ctx.target = some key) {err : ProcessError}
    (hfind : (access.snapshot s).find key = .error err) (hasNext : Bool) :
    (access.stage hasNext ctx e s).1 = .answer (.error err) := by
  have hctx : ctx.targetKey = .ok key := by rw [Context.targetKey, hkey]
  have hsnapshot : access.snapshot (access.traced key ctx e s).2 = access.snapshot s :=
    keeps_traced (p := fun s' => access.snapshot s' = access.snapshot s)
      (fun record s' _ hs => (hlog record s').trans hs) key ctx e rfl
  unfold stage
  rw [hctx]
  dsimp only
  rw [decideFor, hsnapshot, hfind]

/-- A filter stage decides as the snapshot of its state rules, in whatever order it meets the
entries of filters. -/
theorem stage_ruling (access : FilterAccess σ) (ctx : Context) (e : Event) (s : σ)
    (hlog : ∀ record s, access.snapshot (access.log record s) = access.snapshot s)
    (horder : ∀ d, (access.order d).Perm d.entries) (hasNext : Bool) :
    (∀ a, (access.snapshot s).ruling ctx e = some a →
      (access.stage hasNext ctx e s).1 = .answer a) ∧
    ((access.snapshot s).ruling ctx e = none → ∃ ctx', ctx'.broker = ctx.broker ∧
      ctx'.target = ctx.target ∧ (access.stage hasNext ctx e s).1 = .forward ctx') := by
  cases hkey : ctx.target with
  | none =>
    have hruling : (access.snapshot s).ruling ctx e = some (.error (.context .noTargetKey)) := by
      simp only [Snapshot.ruling, hkey]
    rw [hruling]
    constructor
    · intro a ha
      obtain rfl := Option.some.inj ha
      simp only [stage, Context.targetKey, hkey]
    · intro hnone
      contradiction
  | some key =>
    cases hfind : (access.snapshot s).find key with
    | error err =>
      rw [Snapshot.ruling_of_not_found hkey hfind]
      constructor
      · intro a ha
        obtain rfl := Option.some.inj ha
        exact stage_of_not_found hlog hkey hfind hasNext
      · intro hnone
        contradiction
    | ok t =>
      have ht := Snapshot.find_eq_ok_iff.1 hfind
      have hstage := stage_of_found (e := e) hlog hkey ht hasNext
      rw [Snapshot.ruling_of_found hkey ht]
      simp only [Filter.evaluate_eq_pass_iff_satisfies (horder t.filter)] at hstage
      by_cases hpass : e.Satisfies t.filter
      · rw [if_pos hpass] at hstage ⊢
        obtain ⟨hbroker, htarget⟩ := access.traced_keys key ctx e s
        refine ⟨fun a ha => ?_, fun _ => ⟨_, hbroker, htarget.trans hkey, hstage⟩⟩
        contradiction
      · rw [if_neg hpass] at hstage ⊢
        constructor
        · intro a ha
          rwa [← Option.some.inj ha]
        · intro hnone
          contradiction

end FilterAccess

/-- A store with a filter stage in front of another stage, which has a state of its own. The calls
of that stage are kept. -/
structure Gate (τ : Type) where
  store : Store
  own : τ
  log : List LogRecord
  calls : List (Context × Event)

namespace Gate

/-- What happens at a gate: a commit to the store, or an event that comes in a context. -/
inductive Step where
  | change (c : Store.Change)
  | process (ctx : Context) (e : Event)

/-- An event that was processed: the gate before it and behind it, and the answer. -/
structure Passage (τ : Type) where
  before : Gate τ
  ctx : Context
  event : Event
  answer : Answer
  after : Gate τ

variable {τ : Type} (order : Dict String → List (String × String))
  (next : Handler (Store × τ))

/-- The filter stage reads the snapshot of the store as it is when an event comes. -/
def access : FilterAccess (Gate τ) where
  snapshot g := g.store.snapshot
  log record g := { g with log := g.log ++ [record] }
  order := order

/-- The stage behind the filter. It may look at the store and commit to it. -/
def behind : Handler (Gate τ) := fun ctx e g =>
  let (answer, store, own) := next ctx e (g.store, g.own)
  (answer, { g with store, own, calls := g.calls ++ [(ctx, e)] })

/-- Processes an event by the filter stage and the stage behind it. -/
def process : Handler (Gate τ) := (access order).stage.link (some (behind next))

/-- The events that are processed in a run of steps. -/
def run (g : Gate τ) : List Step → List (Passage τ)
  | [] => []
  | .change c :: rest => run { g with store := g.store.change c } rest
  | .process ctx e :: rest =>
    let (answer, after) := process order next ctx e g
    ⟨g, ctx, e, answer, after⟩ :: run after rest

/-- What becomes of an event follows from what the snapshot before it rules. If that is an answer,
the stage behind the filter is not called. If not, it is called once, with the event and with the
keys of the context, and what it returns is returned. -/
structure Passage.Follows (p : Passage τ) : Prop where
  answered : ∀ a, p.before.store.snapshot.ruling p.ctx p.event = some a →
    p.answer = a ∧ p.after.calls = p.before.calls ∧ p.after.store = p.before.store ∧
      p.after.own = p.before.own
  forwarded : p.before.store.snapshot.ruling p.ctx p.event = none →
    ∃ ctx', ctx'.broker = p.ctx.broker ∧ ctx'.target = p.ctx.target ∧
      p.after.calls = p.before.calls ++ [(ctx', p.event)] ∧
      (p.answer, p.after.store, p.after.own) = next ctx' p.event (p.before.store, p.before.own)

variable {order} {next} {g : Gate τ}

/-- A filter stage leaves log records at a gate, and nothing else. -/
theorem state_stage (order : Dict String → List (String × String)) (g : Gate τ) (hasNext : Bool)
    (ctx : Context) (e : Event) :
    let after := ((access order).stage hasNext ctx e g).2
    after.store = g.store ∧ after.own = g.own ∧ after.calls = g.calls :=
  FilterAccess.keeps_stage
    (p := fun after : Gate τ => after.store = g.store ∧ after.own = g.own ∧ after.calls = g.calls)
    (fun _ _ _ h => h) hasNext ctx e g ⟨rfl, rfl, rfl⟩

theorem process_follows (horder : ∀ d : Dict String, (order d).Perm d.entries) (ctx : Context)
    (e : Event) : Passage.Follows next
      ⟨g, ctx, e, (process order next ctx e g).1, (process order next ctx e g).2⟩ := by
  obtain ⟨hstore, hown, hcalls⟩ := state_stage order g true ctx e
  obtain ⟨hsome, hnone⟩ :=
    FilterAccess.stage_ruling (access order) ctx e g (fun _ _ => rfl) horder true
  constructor
  · intro a ha
    have hlink : process order next ctx e g = (a, ((access order).stage true ctx e g).2) :=
      Stage.link_of_answer (Prod.ext (hsome a ha) rfl)
    rw [hlink]
    exact ⟨rfl, hcalls, hstore, hown⟩
  · intro hruling
    obtain ⟨ctx', hbroker, htarget, hstage⟩ := hnone hruling
    have hlink : process order next ctx e g =
        behind next ctx' e ((access order).stage true ctx e g).2 :=
      Stage.link_of_forward (Prod.ext hstage rfl)
    refine ⟨ctx', hbroker, htarget, ?_, ?_⟩
    · rw [hlink]
      exact congrArg (· ++ [(ctx', e)]) hcalls
    · rw [hlink, behind, hstore, hown]

/-- In every run of commits and events, each event is decided as the snapshot of its moment rules,
whatever the order in which the entries of filters are met. What the snapshot rules depends on the
trace of the event only if the filter of the target names it. -/
theorem run_follows (horder : ∀ d : Dict String, (order d).Perm d.entries) (g : Gate τ)
    (steps : List Step) : ∀ p ∈ run order next g steps, p.Follows next ∧
      ∀ parent state : Option ExtensionValue,
        (∀ key t, p.ctx.target = some key → p.before.store.target? key = some t →
          t.filter.get? "traceparent" = none ∧ t.filter.get? "tracestate" = none) →
        p.before.store.snapshot.ruling p.ctx (p.event.withTrace parent state) =
          p.before.store.snapshot.ruling p.ctx p.event := by
  intro p hp
  refine ⟨?_, fun parent state h => Snapshot.ruling_withTrace h parent state⟩
  induction steps generalizing g with
  | nil => contradiction
  | cons step rest ih =>
    cases step with
    | change c => exact ih _ hp
    | process ctx e =>
      rcases List.mem_cons.1 hp with rfl | hp
      · exact process_follows horder ctx e
      · exact ih _ hp

/-- An event with a malformed trace passes the filter of the only target; behind a commit that
deletes the cell tenant it finds none. -/
theorem run_follows_of_deletion :
    let key : TenantKey := ⟨.broker, "a/b", ""⟩
    let ctx : Context := { Context.empty with target := some (key.target "t/") }
    let e := ({ Event.blank .v10 with type := "x" } : Event).withTrace (some (.string "00-")) none
    let next : Handler (Store × Unit) := fun _ _ state => (.ok (), state)
    let steps := [.process ctx e, .change (.transact key [.edit .delete]), .process ctx e]
    let passages := run Dict.entries next ⟨.ofSnapshot .awkward, (), [], []⟩ steps
    passages.map (fun p => (p.answer, p.after.calls.length)) =
      [(.ok (), 1), (.error (.tenantNotFound key), 1)] ∧
    (∀ d : Dict String, d.entries.Perm d.entries) ∧ ∀ p ∈ passages, p.Follows next ∧
      ∀ parent state : Option ExtensionValue,
        (∀ key t, p.ctx.target = some key → p.before.store.target? key = some t →
          t.filter.get? "traceparent" = none ∧ t.filter.get? "tracestate" = none) →
        p.before.store.snapshot.ruling p.ctx (p.event.withTrace parent state) =
          p.before.store.snapshot.ruling p.ctx p.event :=
  ⟨rfl, fun _ => .refl _, run_follows (fun _ => .refl _) _ _⟩

end Gate

end EventRouter
