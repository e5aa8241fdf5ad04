import EventRouter.Proofs.Dispatch.Gate
import EventRouter.Proofs.Trace.Extraction

/-! The log records of a filter stage. One call leaves at most two: of a trace parent that it does
not use, and of what it decides and why. What goes wrong behind the stage is not on record there,
though the call fails with it. -/

namespace EventRouter

/-- The errors that tell of a cell tenant or a target that is not there. -/
inductive ProcessError.OfLookup : ProcessError → Prop
  | tenant (key : TenantKey) : OfLookup (.tenantNotFound key)
  | target (key : TargetKey) : OfLookup (.targetNotFound key)

namespace Snapshot

variable {s : Snapshot} {key : TargetKey} {err : ProcessError} {t : Target}

theorem ofLookup_of_find (h : s.find key = .error err) : err.OfLookup := by
  unfold find at h
  split at h
  · rw [← Except.error.inj h]
    exact .tenant key.parent
  · split at h
    · rw [← Except.error.inj h]
      exact .target key
    · contradiction

theorem target?_of_find (h : s.find key = .error err) : s.target? key = none :=
  Option.eq_none_iff_forall_ne_some.2 fun t ht => by
    rw [find_eq_ok_iff.2 ht] at h
    contradiction

/-- What is on record of an event for a target, with the answer that goes with it; none if the event
is to go on. -/
inductive Tells (s : Snapshot) (key : TargetKey) (e : Event) : LogRecord → Option Answer → Prop
  | notFound {err : ProcessError} : s.find key = .error err →
      Tells s key e (.notFound key err) (some (.error err))
  | passed {t : Target} : s.target? key = some t → e.Satisfies t.filter →
      Tells s key e (.passed key e.logId e.logType) none
  | dropped {t : Target} {verdict : Filter.Verdict} : s.target? key = some t → verdict ≠ .pass →
      verdict.Says e t.filter →
      Tells s key e (.dropped key e.logId e.logType verdict) (some (.ok ()))

end Snapshot

namespace Filter

variable {e : Event} {filter : Dict String} {entries : List (String × String)} {verdict : Verdict}

theorem says_evaluate (h : entries.Perm filter.entries) : (evaluate e entries).Says e filter := by
  by_cases hpass : evaluate e entries = .pass
  · rw [hpass]
    exact (evaluate_eq_pass_iff_satisfies h).1 hpass
  · obtain ⟨entry, hmem, hentry⟩ := exists_judge_of_evaluate hpass
    rw [← hentry] at hpass ⊢
    exact says_judge (Dict.mem_entries_iff.1 (h.mem_iff.1 hmem)) hpass

/-- A verdict other than a pass names an entry that fails, and the reason why. -/
theorem exists_entry_of_says (h : verdict.Says e filter) (hfail : verdict ≠ .pass) :
    ∃ name value, filter.get? name = some value ∧ e.attribute? name ≠ some value ∧
      LogRecord.verdictName verdict = some name ∧
      (LogRecord.verdictReason verdict = some "missing_attribute" ↔ e.attribute? name = none) ∧
      (LogRecord.verdictReason verdict = some "value_mismatch" ↔
        ∃ actual, e.attribute? name = some actual ∧ actual ≠ value) := by
  cases verdict with
  | pass => contradiction
  | missing name =>
    obtain ⟨value, hvalue, hnone⟩ := h
    exact ⟨name, value, hvalue, by simp [hnone], rfl, by simp [LogRecord.verdictReason, hnone],
      by simp [LogRecord.verdictReason, hnone]⟩
  | mismatch name =>
    obtain ⟨value, actual, hvalue, hactual, hne⟩ := h
    exact ⟨name, value, hvalue, by simp [hactual, hne], rfl,
      by simp [LogRecord.verdictReason, hactual], by simp [LogRecord.verdictReason, hactual, hne]⟩

end Filter

namespace Snapshot.Tells

variable {s : Snapshot} {key : TargetKey} {e : Event} {r : LogRecord} {own : Option Answer}

theorem lookup_iff (h : s.Tells key e r own) :
    r.name = "filter_lookup_failed" ↔ ∃ err, own = some (.error err) ∧ err.OfLookup := by
  cases h with
  | notFound hfind => exact iff_of_true rfl ⟨_, rfl, ofLookup_of_find hfind⟩
  | passed => simp [LogRecord.name]
  | dropped => simp [LogRecord.name]

theorem pass_iff (h : s.Tells key e r own) :
    r.name = "filter_pass" ↔ ∃ t, s.target? key = some t ∧ e.Satisfies t.filter := by
  cases h with
  | notFound hfind => simp [LogRecord.name, target?_of_find hfind]
  | passed ht hpass => exact iff_of_true rfl ⟨_, ht, hpass⟩
  | dropped ht hfail hsays =>
    obtain ⟨name, value, hvalue, hne, -⟩ := Filter.exists_entry_of_says hsays hfail
    refine iff_of_false (by simp [LogRecord.name]) fun ⟨t, ht', hpass⟩ => ?_
    obtain rfl := Option.some.inj (ht.symm.trans ht')
    exact hne (hpass name value hvalue)

theorem pass_iff_own (h : s.Tells key e r own) : r.name = "filter_pass" ↔ own = none := by
  cases h <;> simp [LogRecord.name]

theorem drop_iff (h : s.Tells key e r own) : r.name = "filter_drop" ↔ ∃ t,
    s.target? key = some t ∧
      ∃ name value, t.filter.get? name = some value ∧ e.attribute? name ≠ some value := by
  cases h with
  | notFound hfind => simp [LogRecord.name, target?_of_find hfind]
  | passed ht hpass =>
    refine iff_of_false (by simp [LogRecord.name]) fun ⟨t, ht', name, value, hvalue, hne⟩ => ?_
    obtain rfl := Option.some.inj (ht.symm.trans ht')
    exact hne (hpass name value hvalue)
  | dropped ht hfail hsays =>
    obtain ⟨name, value, hvalue, hne, -⟩ := Filter.exists_entry_of_says hsays hfail
    exact iff_of_true rfl ⟨_, ht, name, value, hvalue, hne⟩

theorem exists_of_drop (h : s.Tells key e r own) (hname : r.name = "filter_drop") :
    own = some (.ok ()) ∧ ∃ t verdict, s.target? key = some t ∧ verdict ≠ .pass ∧
      verdict.Says e t.filter ∧ r = .dropped key e.logId e.logType verdict := by
  cases h with
  | dropped ht hfail hsays => exact ⟨rfl, _, _, ht, hfail, hsays, rfl⟩
  | _ => simp [LogRecord.name] at hname

theorem name_mem (h : s.Tells key e r own) :
    r.name ∈ ["filter_lookup_failed", "filter_pass", "filter_drop"] := by
  cases h <;> simp [LogRecord.name]

end Snapshot.Tells

namespace Event

variable {e : Event}

/-- The record of a trace parent that is not used, since it is invalid. -/
def traceRecord? (e : Event) (key : TargetKey) : Option LogRecord :=
  match e.spanContext? with
  | some (.error invalid) => some (.invalidTrace key invalid)
  | _ => none

theorem traceRecord?_eq_some_iff {key : TargetKey} {r : LogRecord} : e.traceRecord? key = some r ↔
    ∃ v, e.extensions.get? "traceparent" = some (.string v) ∧
      TraceParent.parse v = .error ⟨v⟩ ∧ r = .invalidTrace key ⟨v⟩ := by
  by_cases hstring : ∃ v, e.extensions.get? "traceparent" = some (.string v)
  · obtain ⟨v, hv⟩ := hstring
    rw [traceRecord?, spanContext?_of_string hv]
    cases hparse : TraceParent.parse v with
    | ok c =>
      rw [TraceParent.parseWith_eq_ok_iff.2 ⟨c, hparse, rfl⟩]
      simp [hv, hparse]
    | error invalid =>
      obtain rfl : invalid = ⟨v⟩ :=
        congrArg TraceParent.Invalid.mk (TraceParent.header_of_parse_eq_error hparse)
      rw [TraceParent.parseWith_eq_error_iff.2 hparse]
      simp [hv, hparse, eq_comm]
  · have hnone : e.extension? "traceparent" = none :=
      extension?_eq_none_iff.2 fun v hv => hstring ⟨v, hv⟩
    have hspan : e.spanContext? = none := by rw [spanContext?, hnone, Option.map_none]
    rw [traceRecord?, hspan]
    refine iff_of_false (Option.some_ne_none r).symm ?_
    rintro ⟨v, hv, -⟩
    exact hstring ⟨v, hv⟩

end Event

namespace FilterAccess

variable {σ : Type} {access : FilterAccess σ} {key : TargetKey} {ctx : Context} {e : Event} {s : σ}

theorem traced_snd (access : FilterAccess σ) (key : TargetKey) (ctx : Context) (e : Event) (s : σ) :
    (access.traced key ctx e s).2 = (e.traceRecord? key).elim s (access.log · s) := by
  unfold traced Event.traceRecord?
  split <;> simp [*]

theorem decideFor_tells (horder : ∀ d, (access.order d).Perm d.entries) (key : TargetKey)
    (ctx : Context) (e : Event) (s : σ) :
    ∃ r own, (access.snapshot s).Tells key e r own ∧
      access.decideFor key ctx e s = (own.elim (.forward ctx) .answer, access.log r s) := by
  unfold decideFor
  cases hfind : (access.snapshot s).find key with
  | error err => exact ⟨_, _, .notFound hfind, rfl⟩
  | ok t =>
    have ht := Snapshot.find_eq_ok_iff.1 hfind
    have hsays := Filter.says_evaluate (e := e) (horder t.filter)
    dsimp only
    split
    · next hpass =>
      rw [hpass] at hsays
      exact ⟨_, _, .passed ht hsays, rfl⟩
    · next hfail => exact ⟨_, _, .dropped ht hfail hsays, rfl⟩

/-- A filter stage leaves the record of a trace parent that it does not use, if there is one, and
then the record of its decision. -/
theorem stage_tells (access : FilterAccess σ) (horder : ∀ d, (access.order d).Perm d.entries)
    (hlog : ∀ record s, access.snapshot (access.log record s) = access.snapshot s)
    (hkey : ctx.target = some key) (e : Event) (s : σ) (hasNext : Bool) :
    ∃ ctx' r own, (access.snapshot s).Tells key e r own ∧
      access.stage hasNext ctx e s = (own.elim (.forward ctx') .answer,
        access.log r ((e.traceRecord? key).elim s (access.log · s))) := by
  have hctx : ctx.targetKey = .ok key := by rw [Context.targetKey, hkey]
  have hsnapshot : access.snapshot (access.traced key ctx e s).2 = access.snapshot s :=
    keeps_traced (p := fun s' => access.snapshot s' = access.snapshot s)
      (fun record s' _ hs => (hlog record s').trans hs) key ctx e rfl
  obtain ⟨r, own, htells, hdecide⟩ := decideFor_tells horder key (access.traced key ctx e s).1 e
    (access.traced key ctx e s).2
  refine ⟨(access.traced key ctx e s).1, r, own, hsnapshot ▸ htells, ?_⟩
  rw [← traced_snd access key ctx e s, ← hdecide, stage, hctx]

end FilterAccess

namespace Gate

variable {τ : Type} {order : Dict String → List (String × String)} {key : TargetKey} {ctx : Context}

/-- Processes an event by the filter stage and the stage behind it, if there is one. -/
def handle (order : Dict String → List (String × String)) (next : Option (Handler (Store × τ))) :
    Handler (Gate τ) :=
  (access order).stage.link (next.map behind)

theorem handle_of_no_target (hkey : ctx.target = none) (next : Option (Handler (Store × τ)))
    (e : Event) (g : Gate τ) : (handle order next ctx e g).2 = g := by
  have hctx : ctx.targetKey = .error .noTargetKey := by rw [Context.targetKey, hkey]
  have hstage : (access order).stage (next.map behind).isSome ctx e g =
      (.answer (.error (.context .noTargetKey)), g) := by
    rw [FilterAccess.stage, hctx]
  rw [handle, Stage.link_of_answer hstage]

theorem handle_tells (horder : ∀ d : Dict String, (order d).Perm d.entries)
    (hkey : ctx.target = some key) (next : Option (Handler (Store × τ))) (e : Event) (g : Gate τ) :
    ∃ ctx' r own, g.store.snapshot.Tells key e r own ∧
      (handle order next ctx e g).2.log = g.log ++ ((e.traceRecord? key).toList ++ [r]) ∧
      (∀ a, own = some a → (handle order next ctx e g).1 = a ∧
        (handle order next ctx e g).2.calls = g.calls) ∧
      (own = none → next = none → (handle order next ctx e g).1 = .ok ()) ∧
      (own = none → next.isSome →
        (handle order next ctx e g).2.calls = g.calls ++ [(ctx', e)]) := by
  obtain ⟨ctx', r, own, htells, hstage⟩ :=
    (access order).stage_tells horder (fun _ _ => rfl) hkey e g (next.map behind).isSome
  refine ⟨ctx', r, own, htells, ?_⟩
  have hlog : ((access order).stage (next.map behind).isSome ctx e g).2.log =
      g.log ++ ((e.traceRecord? key).toList ++ [r]) := by
    rw [hstage]
    cases e.traceRecord? key <;> simp [access]
  have hcalls := (state_stage order g (next.map behind).isSome ctx e).2.2
  rw [hstage] at hlog hcalls
  cases own with
  | some a =>
    rw [handle, Stage.link_of_answer hstage]
    exact ⟨hlog, fun a' ha => ⟨Option.some.inj ha, hcalls⟩, nofun, nofun⟩
  | none =>
    cases next with
    | none =>
      rw [handle, Option.map_none, Stage.link_none_of_forward hstage]
      exact ⟨hlog, nofun, fun _ _ => rfl, nofun⟩
    | some next =>
      rw [handle, Option.map_some, Stage.link_of_forward hstage]
      exact ⟨hlog, nofun, nofun, fun _ _ => congrArg (· ++ [(ctx', e)]) hcalls⟩

/-- The records of a filter stage match what it does. In a context without the key of a target there
are none. Else there is one of the trace parent, exactly if that is a text that does not parse, and
then exactly one of the decision: that the target was not found, exactly if the call fails with
that error without going on; that the event has passed, exactly if the event has the value of every
entry of the filter, which is when the stage behind is called; or that it was dropped, exactly if
some entry fails, which is no error. That record names such an entry, and the reason. -/
theorem records_match_action (horder : ∀ d : Dict String, (order d).Perm d.entries)
    (next : Option (Handler (Store × τ))) (ctx : Context) (e : Event) (g : Gate τ) :
    let answer := (handle order next ctx e g).1
    let after := (handle order next ctx e g).2
    (ctx.target = none → after.log = g.log) ∧
    ∀ key, ctx.target = some key → ∃ trace r, after.log = g.log ++ (Option.toList trace ++ [r]) ∧
      (∀ record, trace = some record ↔ ∃ v, e.extensions.get? "traceparent" = some (.string v) ∧
        TraceParent.parse v = .error ⟨v⟩ ∧ record = .invalidTrace key ⟨v⟩) ∧
      r.name ∈ ["filter_lookup_failed", "filter_pass", "filter_drop"] ∧
      (r.name = "filter_lookup_failed" ↔
        after.calls = g.calls ∧ ∃ err, answer = .error err ∧ err.OfLookup) ∧
      (r.name = "filter_pass" ↔ ∃ t, g.store.target? key = some t ∧
        ∀ name value, t.filter.get? name = some value → e.attribute? name = some value) ∧
      (next.isSome → (r.name = "filter_pass" ↔ ∃ ctx', after.calls = g.calls ++ [(ctx', e)])) ∧
      (r.name = "filter_drop" ↔ ∃ t, g.store.target? key = some t ∧
        ∃ name value, t.filter.get? name = some value ∧ e.attribute? name ≠ some value) ∧
      (r.name = "filter_drop" → answer = .ok () ∧ after.calls = g.calls ∧
        ∃ verdict t name value, r = .dropped key e.logId e.logType verdict ∧
          g.store.target? key = some t ∧ t.filter.get? name = some value ∧
          e.attribute? name ≠ some value ∧ LogRecord.verdictName verdict = some name ∧
          (LogRecord.verdictReason verdict = some "missing_attribute" ↔
            e.attribute? name = none) ∧
          (LogRecord.verdictReason verdict = some "value_mismatch" ↔
            ∃ actual, e.attribute? name = some actual ∧ actual ≠ value)) := by
  intro answer after
  refine ⟨fun hkey => congrArg Gate.log (handle_of_no_target hkey next e g), fun key hkey => ?_⟩
  obtain ⟨ctx', r, own, htells, hlog, hanswered, hdone, hcalled⟩ :=
    handle_tells horder hkey next e g
  have hunchanged (ctx : Context) : g.calls ≠ g.calls ++ [(ctx, e)] := by simp
  refine ⟨e.traceRecord? key, r, hlog, fun _ => Event.traceRecord?_eq_some_iff, htells.name_mem,
    ?_, htells.pass_iff, fun hnext => ?_, htells.drop_iff, fun hdrop => ?_⟩
  · rw [htells.lookup_iff]
    constructor
    · rintro ⟨err, hown, herr⟩
      exact ⟨(hanswered _ hown).2, err, (hanswered _ hown).1, herr⟩
    · rintro ⟨hcalls, err, hanswer, herr⟩
      cases own with
      | some a => exact ⟨err, congrArg some ((hanswered a rfl).1.symm.trans hanswer), herr⟩
      | none =>
        -- The event has passed. What fails is the stage behind, which was called then.
        cases next with
        | none => exact nomatch (hdone rfl rfl).symm.trans hanswer
        | some => exact absurd (hcalls.symm.trans (hcalled rfl rfl)) (hunchanged ctx')
  · rw [htells.pass_iff_own]
    constructor
    · exact fun hown => ⟨ctx', hcalled hown hnext⟩
    · rintro ⟨ctx'', hcalls⟩
      cases own with
      | none => rfl
      | some a => exact absurd ((hanswered a rfl).2.symm.trans hcalls) (hunchanged ctx'')
  · obtain ⟨hown, t, verdict, ht, hfail, hsays, rfl⟩ := htells.exists_of_drop hdrop
    obtain ⟨name, value, hentry⟩ := Filter.exists_entry_of_says hsays hfail
    exact ⟨(hanswered _ hown).1, (hanswered _ hown).2, verdict, t, name, value, rfl, ht, hentry⟩

/-- An event with a malformed trace parent, and with another type than the only target asks for,
before a stage that would fail. -/
theorem records_match_action_of_mismatch :
    let key : TargetKey := (⟨.broker, "a/b", ""⟩ : TenantKey).target "t/"
    let ctx := { Context.empty with target := some key }
    let e := ({ Event.blank .v10 with type := "y" } : Event).withTrace (some (.string "00-")) none
    let next : Handler (Store × Unit) := fun _ _ state => (.error (.stage ""), state)
    let g : Gate Unit := ⟨.ofSnapshot .awkward, (), [], []⟩
    let outcome := handle Dict.entries (some next) ctx e g
    (∀ d : Dict String, d.entries.Perm d.entries) ∧ ctx.target = some key ∧
    outcome.2.log = [.invalidTrace key ⟨"00-"⟩, .dropped key "none" "y" (.mismatch "type")] ∧
    outcome.1 = .ok () ∧ outcome.2.calls = [] := by
  intro key ctx e next g outcome
  have horder (d : Dict String) : d.entries.Perm d.entries := .refl _
  have hlog : outcome.2.log =
      [.invalidTrace key ⟨"00-"⟩, .dropped key "none" "y" (.mismatch "type")] := by
    decide +kernel
  obtain ⟨trace, r, hrecords, -, -, -, -, -, -, hdrop⟩ :=
    (records_match_action horder (some next) ctx e g).2 key rfl
  have hlast : r = .dropped key "none" "y" (.mismatch "type") := by
    have heq := congrArg List.getLast? (hrecords.symm.trans hlog)
    simpa using heq
  obtain ⟨hanswer, hcalls, -⟩ := hdrop (hlast ▸ rfl)
  exact ⟨horder, rfl, hlog, hanswer, hcalls⟩

/-- A call that fails since a target was not found, with no record of a failure: another filter
stage behind this one looked for another target. -/
theorem not_every_lookup_error_recorded :
    let key : TargetKey := (⟨.broker, "a/b", ""⟩ : TenantKey).target "t/"
    let ctx := { Context.empty with target := some key }
    let lost : TargetKey := (⟨.broker, "a/b", ""⟩ : TenantKey).target "t"
    let e := { Event.blank .v10 with type := "x" }
    let inner : FilterAccess (Store × List LogRecord) :=
      ⟨fun s => s.1.snapshot, fun record s => (s.1, s.2 ++ [record]), Dict.entries⟩
    let next := (Stage.derive fun ctx => { ctx with target := some lost }).link
      (some (inner.stage.link none))
    let outcome := handle Dict.entries (some next) ctx e ⟨.ofSnapshot .awkward, [], [], []⟩
    outcome.2.log = [.passed key "none" "x"] ∧
    outcome.2.own = [.notFound lost (.targetNotFound lost)] ∧
    outcome.1 = .error (.targetNotFound lost) ∧
    ¬ ((∃ r ∈ outcome.2.log, r.name = "filter_lookup_failed") ↔
      ∃ err, outcome.1 = .error err ∧ err.OfLookup) := by
  intro key ctx lost e inner next outcome
  have hlog : outcome.2.log = [.passed key "none" "x"] := by decide +kernel
  have hanswer : outcome.1 = .error (.targetNotFound lost) := by decide +kernel
  refine ⟨hlog, by decide +kernel, hanswer, fun h => ?_⟩
  obtain ⟨r, hr, hname⟩ := h.2 ⟨_, hanswer, .target lost⟩
  rw [hlog, List.mem_singleton] at hr
  rw [hr] at hname
  exact absurd hname (by decide)

end Gate

end EventRouter
