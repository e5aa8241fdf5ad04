import EventRouter.Key.Basic
import EventRouter.Trace.Parent

/-! The context in which an event is processed, and the ways in which processing fails. -/

namespace EventRouter

/-- What a dispatcher knows of an event beside the event itself. -/
structure Context where
  broker : Option TenantKey
  target : Option TargetKey
  trace : Option SpanContext
deriving DecidableEq, Repr, Inhabited

/-- Something that a context was expected to hold. -/
inductive ContextError where
  | noBrokerKey
  | noTargetKey
deriving DecidableEq, Repr

/-- The wording of an error. -/
def ContextError.message : ContextError → String
  | noBrokerKey => "broker key not present in context"
  | noTargetKey => "target key not present in context"

namespace Context

/-- The context that knows nothing. -/
def empty : Context := ⟨none, none, none⟩

/-- The key of the broker. -/
def brokerKey (ctx : Context) : Except ContextError TenantKey :=
  match ctx.broker with
  | some key => .ok key
  | none => .error .noBrokerKey

/-- The key of the target. -/
def targetKey (ctx : Context) : Except ContextError TargetKey :=
  match ctx.target with
  | some key => .ok key
  | none => .error .noTargetKey

end Context

/-- A reason for which the processing of an event fails. -/
inductive ProcessError where
  | context (e : ContextError)
  | tenantNotFound (key : TenantKey)
  | targetNotFound (key : TargetKey)
  /-- A stage failed with an error of its own. -/
  | stage (text : String)
deriving DecidableEq, Repr

namespace ProcessError

/-- The wording of an error. -/
def message : ProcessError → String
  | context e => e.message
  | tenantNotFound key => s!"cell tenant '{key.text}' not found"
  | targetNotFound key => s!"target '{key.text}' not found"
  | stage text => "processor stage failed: " ++ text

/-- The wording of the error behind an error, if there is one. -/
def source? : ProcessError → Option String
  | context e => some e.message
  | stage text => some text
  | tenantNotFound _ | targetNotFound _ => none

end ProcessError

end EventRouter
