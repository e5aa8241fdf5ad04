import EventRouter.Proofs.Trace.Header
import EventRouter.Proofs.Trace.State
import EventRouter.Trace.Extraction

/-! The span context of an event against that of its trace parent alone. The trace state of an event
never decides whether there is a span context, and reaches nothing but the state of it. -/

namespace EventRouter

open TraceState (IsMember members)

namespace TraceParent

variable {header : String} {state : TraceState} {c : SpanContext} {e : Invalid}

theorem read?_eq_map (header : String) (state : TraceState) :
    read? header state = (read? header []).map fun c => { c with state } := by
  ext c
  simp only [read?, Option.map_eq_some_iff, ofParts?_eq_some_iff]
  generalize parts header = parts
  constructor
  · rintro ⟨hversion, hmore, htraceId, hspanId, hflags, hvalid⟩
    exact ⟨_, .parts hversion hmore htraceId hspanId hflags hvalid, rfl⟩
  · rintro ⟨_, ⟨hversion, hmore, htraceId, hspanId, hflags, hvalid⟩, rfl⟩
    exact .parts hversion hmore htraceId hspanId hflags hvalid

theorem parseWith_eq_map (header : String) (state : TraceState) :
    parseWith header state = (parse header).map fun c => { c with state } := by
  rw [parse, parseWith, parseWith, read?_eq_map header state]
  cases read? header [] <;> rfl

theorem parseWith_eq_error_iff : parseWith header state = .error e ↔ parse header = .error e := by
  rw [parseWith_eq_map]
  cases parse header <;> simp [Except.map]

theorem parseWith_eq_ok_iff : parseWith header state = .ok c ↔
    ∃ p, parse header = .ok p ∧ c = { p with state } := by
  rw [parseWith_eq_map]
  cases parse header <;> simp [Except.map, eq_comm]

theorem header_of_parse_eq_error (h : parse header = .error e) : e.header = header := by
  unfold parse parseWith at h
  split at h
  · contradiction
  · rw [← Except.error.inj h]

end TraceParent

namespace Event

variable {e : Event} {name v : String}

/-! ### String-valued extensions -/

theorem extension?_eq_some_iff :
    e.extension? name = some v ↔ e.extensions.get? name = some (.string v) := by
  rw [extension?, Option.bind_eq_some_iff]
  constructor
  · rintro ⟨value, hvalue, hstring⟩
    cases value with
    | string s => rwa [← Option.some.inj hstring]
    | bool b => contradiction
    | int n => contradiction
  · intro h
    exact ⟨.string v, h, rfl⟩

theorem extension?_eq_none_iff :
    e.extension? name = none ↔ ∀ v, e.extensions.get? name ≠ some (.string v) := by
  simp only [Option.eq_none_iff_forall_ne_some, ne_eq, extension?_eq_some_iff]

theorem traceState_of_string (h : e.extensions.get? "tracestate" = some (.string v)) :
    e.traceState = TraceState.ofHeader v := by
  rw [traceState, extension?_eq_some_iff.2 h]

theorem traceState_of_no_string (h : ∀ v, e.extensions.get? "tracestate" ≠ some (.string v)) :
    e.traceState = [] := by
  rw [traceState, extension?_eq_none_iff.2 h]

theorem spanContext?_of_string (h : e.extensions.get? "traceparent" = some (.string v)) :
    e.spanContext? = some (TraceParent.parseWith v e.traceState) := by
  rw [spanContext?, extension?_eq_some_iff.2 h, Option.map_some]

/-- An event has a span context exactly if it has a trace parent, and then it has the one of its
trace parent alone, up to the trace state; if the trace parent is refused, so is the event, for the
trace parent as it stands. The trace state comes from its own extension and from nothing else: it
has the entries of the members if all of them are valid, and is empty if one of them is not or there
is no such text. -/
theorem spanContext_agrees :
    (∀ e : Event, e.spanContext? = none ↔
      ∀ v, e.extensions.get? "traceparent" ≠ some (.string v)) ∧
    (∀ (e : Event) (v : String), e.extensions.get? "traceparent" = some (.string v) →
      (∀ refusal, e.spanContext? = some (.error refusal) ↔ TraceParent.parse v = .error refusal) ∧
      ∀ c, e.spanContext? = some (.ok c) ↔
        ∃ p, TraceParent.parse v = .ok p ∧ c = { p with state := e.traceState }) ∧
    (∀ (v : String) (refusal : TraceParent.Invalid),
      TraceParent.parse v = .error refusal → refusal.header = v) ∧
    (∀ e₁ e₂ : Event, e₁.extensions.get? "tracestate" = e₂.extensions.get? "tracestate" →
      e₁.traceState = e₂.traceState) ∧
    (∀ e : Event, (∀ v, e.extensions.get? "tracestate" ≠ some (.string v)) → e.traceState = []) ∧
    ∀ (e : Event) (v : String), e.extensions.get? "tracestate" = some (.string v) →
      (∀ entries, List.Forall₂ IsMember (members v) entries → e.traceState = entries) ∧
      ((∃ part ∈ members v, ∀ entry, ¬ IsMember part entry) → e.traceState = []) := by
  refine ⟨fun e => ?_, fun e v hv => ⟨fun refusal => ?_, fun c => ?_⟩,
    fun v refusal => TraceParent.header_of_parse_eq_error, fun e₁ e₂ h => ?_,
    fun e => traceState_of_no_string, fun e v hv => ⟨fun entries hentries => ?_, ?_⟩⟩
  · rw [spanContext?, Option.map_eq_none_iff, extension?_eq_none_iff]
  · rw [spanContext?_of_string hv, Option.some_inj, TraceParent.parseWith_eq_error_iff]
  · rw [spanContext?_of_string hv, Option.some_inj, TraceParent.parseWith_eq_ok_iff]
  · simp only [traceState, extension?, h]
  · rw [traceState_of_string hv, TraceState.ofHeader_of_members hentries]
  · rintro ⟨part, hpart, hinvalid⟩
    rw [traceState_of_string hv, TraceState.ofHeader_of_invalid hpart hinvalid]

/-- A trace parent with white space around it beside a trace state whose second member has no value,
and one that is refused beside a trace state whose members are valid. -/
theorem spanContext_agrees_of_hostile_state :
    let traced := build [.extension "traceparent" (.string " 01-a-b-01-c "),
      .extension "tracestate" (.string "a@b=1,c")]
    let refused := build [.extension "traceparent" (.string " 00-a-b-04 "),
      .extension "tracestate" (.string "a==1")]
    traced.spanContext? = some (.ok ⟨10, .given 11, true, true, []⟩) ∧
      refused.spanContext? = some (.error ⟨" 00-a-b-04 "⟩) ∧
      refused.traceState = [("a", "1")] ∧
      (blank .v10).spanContext? = none := by
  intro traced refused
  obtain ⟨hnone, hsome, -, -, -, hstate⟩ := spanContext_agrees
  have hparsed : TraceParent.parse " 01-a-b-01-c " = .ok ⟨10, .given 11, true, true, []⟩ :=
    TraceParent.parse_eq_ok_iff.2 (by decide +kernel)
  have herror : TraceParent.parse " 00-a-b-04 " = .error ⟨" 00-a-b-04 "⟩ := by
    have hread : TraceParent.read? " 00-a-b-04 " [] = none := by decide +kernel
    rw [TraceParent.parse, TraceParent.parseWith, hread]
  have hinvalid : ∀ entry, ¬ IsMember ['c'] entry := by
    intro entry hentry
    obtain ⟨n, htext⟩ := hentry.text
    have hequals : '=' ∈ ['c'] := htext ▸ by simp
    exact absurd hequals (by decide)
  have hmember : IsMember ['a', '=', '=', '1'] ("a", "1") :=
    TraceState.entry?_eq_some_iff.1 (by decide +kernel)
  have hempty : traced.traceState = [] :=
    (hstate traced "a@b=1,c" (by decide +kernel)).2 ⟨['c'], by decide +kernel, hinvalid⟩
  have hentries : refused.traceState = [("a", "1")] :=
    (hstate refused "a==1" (by decide +kernel)).1 _ (.cons hmember .nil)
  refine ⟨?_, ?_, hentries, ?_⟩
  · exact ((hsome traced " 01-a-b-01-c " (by decide +kernel)).2 _).2 ⟨_, hparsed, by rw [hempty]⟩
  · exact ((hsome refused " 00-a-b-04 " (by decide +kernel)).1 _).2 herror
  · exact (hnone (blank .v10)).2 (by simp [blank])

end Event

end EventRouter
