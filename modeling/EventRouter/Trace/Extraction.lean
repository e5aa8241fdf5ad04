import EventRouter.Event.Attribute
import EventRouter.Trace.Parent

/-! The span context that an event carries in two of its extensions. -/

namespace EventRouter.Event

/-- The trace state of an event. -/
def traceState (e : Event) : TraceState :=
  match e.extension? "tracestate" with
  | some header => .ofHeader header
  | none => []

/-- The span context of an event; none if it has no string-valued trace parent. -/
def spanContext? (e : Event) : Option (Except TraceParent.Invalid SpanContext) :=
  (e.extension? "traceparent").map fun header => TraceParent.parseWith header e.traceState

end EventRouter.Event
