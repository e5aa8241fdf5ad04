import EventRouter.Proofs.Dispatch.Chain
import EventRouter.Proofs.Snapshot.Validity

/-! Contexts on their way through filters. In a chain of filters, over any stores, and of stages
that forward what they are given, the keys of the dispatcher reach every stage that is called. Its
trace reaches the stages up to the first filter; the stages behind a filter see the trace of the
event instead, if the event carries one. -/

namespace EventRouter

/-- A span context goes on with the trace of another one, in a span that is not remote. -/
structure SpanContext.Continues (c parent : SpanContext) : Prop where
  traceId : c.traceId = parent.traceId
  sampled : c.sampled = parent.sampled
  state : c.state = parent.state
  notRemote : c.remote = false

/-- What a stage sees of the dispatched context. `filtered` tells whether the stage stands behind a
filter. -/
structure Context.Derives (seen dispatched : Context) (e : Event) (filtered : Bool) : Prop where
  broker : seen.broker = dispatched.broker
  target : seen.target = dispatched.target
  continued : filtered = true → ∀ parent, e.spanContext? = some (.ok parent) →
    ∃ span, seen.trace = some span ∧ span.Continues parent
  kept : (filtered = true → ∀ parent, e.spanContext? ≠ some (.ok parent)) →
    seen.trace = dispatched.trace

/-- A stage of a chain in which nothing but filters derives contexts. -/
inductive Link (σ : Type) where
  | filter (access : FilterAccess σ)
  | pass
  /-- Notes in the state what it is given, and forwards. -/
  | record (note : (hasNext : Bool) → Context → Event → σ → σ)

variable {σ : Type} {ctx ctx' dispatched : Context} {e : Event} {s s' : σ} {filtered : Bool}

namespace FilterAccess

variable {access : FilterAccess σ}

theorem traced_of_stage (hasNext : Bool)
    (h : access.stage hasNext ctx e s = (.forward ctx', s')) :
    ∃ key, ctx' = (access.traced key ctx e s).1 := by
  unfold stage at h
  split at h
  · cases h
  · next key _ =>
    refine ⟨key, ?_⟩
    dsimp only at h
    unfold decideFor at h
    split at h
    · cases h
    · split at h
      · cases h
        rfl
      · cases h

theorem derives_traced (h : ctx.Derives dispatched e filtered) (key : TargetKey) :
    (access.traced key ctx e s).1.Derives dispatched e true := by
  unfold traced
  -- A filter reads the trace off the event, whatever the filters before it have made of theirs.
  cases htrace : e.spanContext? with
  | none =>
    refine ⟨h.broker, h.target, fun _ parent hparent => ?_, fun _ => ?_⟩
    · simp [htrace] at hparent
    · exact h.kept fun _ parent => by simp [htrace]
  | some read =>
    cases read with
    | error invalid =>
      refine ⟨h.broker, h.target, fun _ parent hparent => ?_, fun _ => ?_⟩
      · simp [htrace] at hparent
      · exact h.kept fun _ parent => by simp [htrace]
    | ok parent =>
      refine ⟨h.broker, h.target, fun _ parent' hparent => ?_, fun hnone => ?_⟩
      · obtain rfl : parent = parent' := by simpa [htrace] using hparent
        exact ⟨parent.child, rfl, rfl, rfl, rfl, rfl⟩
      · exact absurd htrace (hnone rfl parent)

end FilterAccess

namespace Link

def stage : Link σ → Stage σ
  | filter access => access.stage
  | pass => .pass
  | record note => .act note

def isFilter : Link σ → Bool
  | filter _ => true
  | pass | record _ => false

theorem derives_forward {link : Link σ} {hasNext : Bool}
    (h : link.stage hasNext ctx e s = (.forward ctx', s'))
    (hctx : ctx.Derives dispatched e filtered) :
    ctx'.Derives dispatched e (filtered || link.isFilter) := by
  cases link with
  | filter access =>
    obtain ⟨key, rfl⟩ := FilterAccess.traced_of_stage hasNext h
    rw [isFilter, Bool.or_true]
    exact FilterAccess.derives_traced hctx key
  | pass =>
    cases h
    rwa [isFilter, Bool.or_false]
  | record note =>
    cases h
    rwa [isFilter, Bool.or_false]

theorem derives_calls {links : List (Link σ)} (h : ctx.Derives dispatched e filtered) {i : Nat}
    {c : Call σ} (hc : (Stage.calls e (links.map stage) ctx s)[i]? = some c) :
    c.ctx.Derives dispatched e (filtered || (links.take i).any isFilter) := by
  -- The rest of the chain is called as if the context that the first stage forwards had been
  -- dispatched, and its stages stand behind a filter if the first one is a filter.
  induction links generalizing ctx s filtered i with
  | nil => contradiction
  | cons link rest ih =>
    rcases hstage : link.stage (!(rest.map stage).isEmpty) ctx e s with ⟨a | ctx', s'⟩
    · rw [List.map_cons, Stage.calls_of_answer hstage] at hc
      cases i with
      | zero =>
        cases hc
        simpa using h
      | succ i => contradiction
    · rw [List.map_cons, Stage.calls_of_forward hstage] at hc
      cases i with
      | zero =>
        cases hc
        simpa using h
      | succ i =>
        have hrest := ih (derives_forward hstage h) hc
        rwa [Bool.or_assoc] at hrest

/-- Every stage that is called in such a chain sees the broker and the target of the dispatcher, and
the trace of the dispatcher as long as there is no filter before it, or the event carries no valid
trace. If it carries one, every stage behind at least one filter goes on with it. -/
theorem contexts_propagate {links : List (Link σ)} (hne : links ≠ []) :
    ∃ handler, Stage.chain (links.map stage) = some handler ∧ ∀ ctx e s, ∃ calls,
      Stage.Course (links.map stage) ctx e s calls (handler ctx e s) ∧
        ∀ (i : Nat) (c : Call σ), calls[i]? = some c →
          c.ctx.Derives ctx e ((links.take i).any isFilter) := by
  have hchain : (Stage.chain (links.map stage)).isSome := by
    rw [Stage.isSome_chain]
    simpa using hne
  obtain ⟨handler, hhandler⟩ := Option.isSome_iff_exists.1 hchain
  refine ⟨handler, hhandler, fun ctx e s => ⟨_, Stage.course_calls hhandler ctx e s, ?_⟩⟩
  intro i c hc
  have hstart : ctx.Derives ctx e false := ⟨rfl, rfl, fun h => by contradiction, fun _ => rfl⟩
  exact derives_calls hstart hc

/-- Two filters, with a stage before, between and behind them that notes the trace it sees. -/
theorem contexts_propagate_of_two_filters :
    let key : TenantKey := ⟨.broker, "a/b", ""⟩
    let access : FilterAccess (List (Option SpanContext)) :=
      ⟨fun _ => .awkward, fun _ seen => seen, Dict.entries⟩
    let note : Link (List (Option SpanContext)) := .record fun _ ctx _ seen => seen ++ [ctx.trace]
    let links := [note, .filter access, note, .filter access, .pass, note]
    let ctx : Context := ⟨some key, some (key.target "t/"), none⟩
    let parent := "00-4bf92f3577b34da6a3ce929d0e0e4736-00f067aa0ba902b7-01"
    let e := { Event.blank .v10 with
      type := "x"
      extensions := (Dict.empty.insert "traceparent" (.string parent)).insert "tracestate"
        (.string "a=1,b=2") }
    let seen : SpanContext :=
      ⟨0x4bf92f3577b34da6a3ce929d0e0e4736#128, .fresh, true, false, [("a", "1"), ("b", "2")]⟩
    links ≠ [] ∧ ∃ handler, Stage.chain (links.map stage) = some handler ∧
      (handler ctx e []).2 = [none, some seen, some seen] ∧
      ∃ calls, Stage.Course (links.map stage) ctx e [] calls (handler ctx e []) ∧
        ∀ (i : Nat) (c : Call (List (Option SpanContext))), calls[i]? = some c →
          c.ctx.Derives ctx e ((links.take i).any isFilter) := by
  intro key access note links ctx parent e seen
  have hne : links ≠ [] := List.cons_ne_nil _ _
  obtain ⟨handler, hhandler, hcourse⟩ := contexts_propagate hne
  have hrun : (Stage.chain (links.map stage)).map (fun run => (run ctx e []).2) =
      some [none, some seen, some seen] := by decide +kernel
  rw [hhandler] at hrun
  exact ⟨hne, handler, hhandler, Option.some.inj hrun, hcourse ctx e []⟩

end Link

end EventRouter
