import EventRouter.Dispatch.Context
import EventRouter.Filter
import EventRouter.Json.Basic

/-! Log records: what the store and the stages tell of their work, and the names under which it is
logged. -/

namespace EventRouter

/-- What a transaction did to its cell tenant. -/
inductive Outcome where
  | upserted
  | removed
  | noop
deriving DecidableEq, Repr

/-- The word for an outcome. -/
def Outcome.word : Outcome → String
  | upserted => "upserted"
  | removed => "removed"
  | noop => "noop"

/-- A log record. -/
inductive LogRecord where
  /-- A transaction was committed. -/
  | committed (tenant : TenantKey) (outcome : Outcome) (targetCount : Nat) (version : UInt64)
  /-- The whole snapshot was replaced. -/
  | replaced (tenantCount : Nat) (version : UInt64)
  /-- The id of a cell tenant was not changed. -/
  | idKept (tenant : TenantKey) (current requested : String)
  /-- An event passed the filter of a target. -/
  | passed (target : TargetKey) (eventId eventType : String)
  /-- An event was dropped by the filter of a target, for the verdict on it. -/
  | dropped (target : TargetKey) (eventId eventType : String) (verdict : Filter.Verdict)
  /-- The target of a context was not found. -/
  | notFound (target : TargetKey) (error : ProcessError)
  /-- The trace parent of an event is invalid. -/
  | invalidTrace (target : TargetKey) (error : TraceParent.Invalid)
deriving DecidableEq, Repr

namespace LogRecord

/-- The level of a record. -/
def level : LogRecord → String
  | replaced .. => "INFO"
  | idKept .. => "WARN"
  | _ => "DEBUG"

/-- The name of a record. -/
def name : LogRecord → String
  | committed .. => "targets_store_commit"
  | replaced .. => "targets_store_snapshot_replaced"
  | idKept .. => "cell_tenant_id_change_ignored"
  | passed .. => "filter_pass"
  | dropped .. => "filter_drop"
  | notFound .. => "filter_lookup_failed"
  | invalidTrace .. => "trace_parent_invalid"

/-- The component that a record comes from. -/
def component : LogRecord → String
  | committed .. | replaced .. => "targets_store"
  | idKept .. => "cell_tenant_mutation"
  | _ => "filter_processor"

/-- The attribute that a verdict names. -/
def verdictName : Filter.Verdict → Option String
  | .pass => none
  | .missing name | .mismatch name => some name

/-- The reason that a verdict gives. -/
def verdictReason : Filter.Verdict → Option String
  | .pass => none
  | .missing _ => some "missing_attribute"
  | .mismatch _ => some "value_mismatch"

/-- The other fields of a record. -/
def fields : LogRecord → List (String × Json)
  | committed tenant outcome targetCount version => [
    ("cell_tenant", .string tenant.text), ("outcome", .string outcome.word),
    ("target_count", .ofNat targetCount), ("snapshot_version", .ofUInt64 version)]
  | replaced tenantCount version => [
    ("cell_tenant_count", .ofNat tenantCount), ("snapshot_version", .ofUInt64 version)]
  | idKept tenant current requested => [
    ("cell_tenant", .string tenant.text), ("current_id", .string current),
    ("requested_id", .string requested)]
  | passed target eventId eventType => [
    ("target_key", .string target.text), ("event_id", .string eventId),
    ("event_type", .string eventType)]
  | dropped target eventId eventType verdict => [
    ("target_key", .string target.text), ("event_id", .string eventId),
    ("event_type", .string eventType),
    ("attribute", .ofOption .string (verdictName verdict)),
    ("reason", .ofOption .string (verdictReason verdict))]
  | notFound target error => [
    ("target_key", .string target.text), ("err", .string error.message)]
  | invalidTrace target error => [
    ("target_key", .string target.text), ("err", .string error.message)]

/-- A record as a value. -/
def toJson (r : LogRecord) : Json :=
  .object (("level", .string r.level) :: ("event", .string r.name) ::
    ("component", .string r.component) :: r.fields)

end LogRecord

end EventRouter
