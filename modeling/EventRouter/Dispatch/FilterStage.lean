import EventRouter.Dispatch.Stage
import EventRouter.Log
import EventRouter.Snapshot.Basic
import EventRouter.Trace.Extraction

/-! The filter stage: it forwards an event only if it passes the filter of the target that the
context names. A target that is not there is an error, and not an empty filter. -/

namespace EventRouter

/-- The target with a key, or the part of the key that leads nowhere. -/
def Snapshot.find (s : Snapshot) (key : TargetKey) : Except ProcessError Target :=
  match s.tenant? key.parent with
  | none => .error (.tenantNotFound key.parent)
  | some tenant =>
    match tenant.targets.get? key.name with
    | none => .error (.targetNotFound key)
    | some target => .ok target

/-- How a filter stage finds the snapshot in the state, leaves a log record there, and in which
order it meets the entries of a filter. -/
structure FilterAccess (σ : Type) where
  snapshot : σ → Snapshot
  log : LogRecord → σ → σ
  order : Dict String → List (String × String)

namespace FilterAccess

/-- The context with the trace of an event, for the spans below this stage. An invalid trace parent
is logged, and changes nothing. -/
def traced (access : FilterAccess σ) (key : TargetKey) (ctx : Context) (e : Event) (s : σ) :
    Context × σ :=
  match e.spanContext? with
  | some (.ok parent) => ({ ctx with trace := some parent.child }, s)
  | some (.error invalid) => (ctx, access.log (.invalidTrace key invalid) s)
  | none => (ctx, s)

/-- The decision on an event for the target with a key. -/
def decideFor (access : FilterAccess σ) (key : TargetKey) (ctx : Context) (e : Event) (s : σ) :
    Decision × σ :=
  match (access.snapshot s).find key with
  | .error err => (.answer (.error err), access.log (.notFound key err) s)
  | .ok target =>
    match Filter.evaluate e (access.order target.filter) with
    | .pass => (.forward ctx, access.log (.passed key e.logId e.logType) s)
    | verdict => (.answer (.ok ()), access.log (.dropped key e.logId e.logType verdict) s)

/-- The filter stage. -/
def stage (access : FilterAccess σ) : Stage σ := fun _ ctx e s =>
  match ctx.targetKey with
  | .error err => (.answer (.error (.context err)), s)
  | .ok key =>
    let (ctx, s) := access.traced key ctx e s
    access.decideFor key ctx e s

end FilterAccess

end EventRouter
