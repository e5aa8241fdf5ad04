import EventRouter.Decode.Record
import EventRouter.Snapshot.Basic

/-! Snapshots as documents. Every field is written, and absent queues are `null`; in reading, only
the fields of a queue must be there. -/

namespace EventRouter

/-! ### Reading -/

/-- The kinds by their words. -/
def TenantKind.decode : Decoder TenantKind :=
  .choice [(TenantKind.broker.word, .broker), (TenantKind.channel.word, .channel)]

/-- The word for a readiness. -/
def Readiness.word : Readiness → String
  | .unknown => "unknown"
  | .ready => "ready"

/-- The grades of readiness by their words. -/
def Readiness.decode : Decoder Readiness :=
  .choice [(Readiness.unknown.word, .unknown), (Readiness.ready.word, .ready)]

/-- The fields of a queue. -/
def Queue.schema : Schema Queue where
  name := "Queue"
  blank := ⟨"", ""⟩
  fields := [
    .needed "topic" .string fun s q => { q with topic := s },
    .needed "subscription" .string fun s q => { q with subscription := s }]

/-- The fields of a target. -/
def Target.schema : Schema Target where
  name := "Target"
  blank := .blank
  fields := [
    .optional "id" .string fun s t => { t with id := s },
    .optional "name" .string fun s t => { t with name := s },
    .optional "namespace" .string fun s t => { t with ns := s },
    .optional "cell_tenant_type" TenantKind.decode fun k t => { t with tenantKind := k },
    .optional "cell_tenant_name" .string fun s t => { t with tenantName := s },
    .optional "address" .string fun s t => { t with address := s },
    .optional "filter_attributes" (.dict .string) fun f t => { t with filter := f },
    .optional "retry_queue" (.option Queue.schema.decode) fun q t => { t with retryQueue := q },
    .optional "state" Readiness.decode fun r t => { t with readiness := r }]

/-- The fields of a cell tenant. -/
def CellTenant.schema : Schema CellTenant where
  name := "CellTenant"
  blank := .shell ⟨.broker, "", ""⟩
  fields := [
    .optional "type" TenantKind.decode fun k c => { c with kind := k },
    .optional "id" .string fun s c => { c with id := s },
    .optional "namespace" .string fun s c => { c with ns := s },
    .optional "name" .string fun s c => { c with name := s },
    .optional "address" .string fun s c => { c with address := s },
    .optional "decouple_queue" (.option Queue.schema.decode)
      fun q c => { c with decoupleQueue := q },
    .optional "state" Readiness.decode fun r c => { c with readiness := r },
    .optional "targets" (.dict Target.schema.decode) fun ts c => { c with targets := ts }]

/-- The fields of a snapshot. -/
def Snapshot.schema : Schema Snapshot where
  name := "TargetsConfig"
  blank := .empty
  fields := [
    .optional "cell_tenants" (.dict CellTenant.schema.decode) fun cs _ => ⟨cs⟩]

/-- A queue. -/
def Queue.decode : Decoder Queue := Queue.schema.decode

/-- A target. -/
def Target.decode : Decoder Target := Target.schema.decode

/-- A cell tenant. -/
def CellTenant.decode : Decoder CellTenant := CellTenant.schema.decode

/-- A snapshot. -/
def Snapshot.decode : Decoder Snapshot := Snapshot.schema.decode

/-! ### Writing -/

/-- A queue as a value. -/
def Queue.toJson (q : Queue) : Json :=
  .object [("topic", .string q.topic), ("subscription", .string q.subscription)]

/-- A target as a value. -/
def Target.toJson (t : Target) : Json :=
  .object [
    ("id", .string t.id),
    ("name", .string t.name),
    ("namespace", .string t.ns),
    ("cell_tenant_type", .string t.tenantKind.word),
    ("cell_tenant_name", .string t.tenantName),
    ("address", .string t.address),
    ("filter_attributes", .ofDict .string t.filter),
    ("retry_queue", .ofOption Queue.toJson t.retryQueue),
    ("state", .string t.readiness.word)]

/-- A cell tenant as a value. -/
def CellTenant.toJson (c : CellTenant) : Json :=
  .object [
    ("type", .string c.kind.word),
    ("id", .string c.id),
    ("namespace", .string c.ns),
    ("name", .string c.name),
    ("address", .string c.address),
    ("decouple_queue", .ofOption Queue.toJson c.decoupleQueue),
    ("state", .string c.readiness.word),
    ("targets", .ofDict Target.toJson c.targets)]

/-- A snapshot as a value. -/
def Snapshot.toJson (s : Snapshot) : Json :=
  .object [("cell_tenants", .ofDict CellTenant.toJson s.tenants)]

end EventRouter
