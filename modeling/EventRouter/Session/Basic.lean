import EventRouter.Dispatch.Scene

/-! Sessions: operations on one store, one after the other, by writers, readers that keep snapshots,
receivers of changes and dispatchers. Each operation has a reply and leaves log records. -/

namespace EventRouter

/-- A store with the snapshots that readers keep and the receivers of its changes, by name. -/
structure Session where
  store : Store
  held : Dict Snapshot
  receivers : Dict Receiver
deriving DecidableEq, Repr

/-- An operation on a store. -/
inductive Operation where
  | transact (key : TenantKey) (actions : List Action)
  | replace (snapshot : Snapshot)
  | tenant (key : TenantKey)
  | target (key : TargetKey)
  /-- Visits cell tenants, ending with the visit that reaches the limit. -/
  | visitTenants (limit : Option Nat)
  /-- Visits targets, ending with the visit that reaches the limit. -/
  | visitTargets (limit : Option Nat)
  | version
  /-- Keeps the current snapshot under a name. -/
  | hold (name : String)
  | held (name : String)
  | subscribe (name : String)
  | poll (name : String)
  | process (stages : List StageSpec) (ctx : Context) (e : Event)
deriving DecidableEq, Repr

/-- The reply to an operation. -/
inductive Reply where
  /-- What the callback of a transaction saw, unless it panicked, and the store afterwards. -/
  | transacted (glimpses : Option (List Glimpse)) (version : UInt64) (snapshot : Snapshot)
  | replaced (version : UInt64) (snapshot : Snapshot)
  /-- A snapshot was refused for one of some violations. -/
  | refused (candidates : List Violation) (version : UInt64) (snapshot : Snapshot)
  | tenant (tenant : Option CellTenant)
  | target (target : Option Target)
  /-- The number of visits, and the keys in ascending order if there was no limit. -/
  | visited (count : Nat) (keys : Option (List String))
  | version (version : UInt64) (targetCount : Nat)
  | done
  | held (snapshot : Option Snapshot)
  /-- Whether the store changed since the receiver last looked, and the latest version. -/
  | polled (changed : Bool) (version : UInt64)
  | noReceiver
  | processed (answer : Option Answer) (seen : List Sighting)

/-- What comes of an operation. -/
structure Result where
  reply : Reply
  /-- What the callback of a transaction saw, even if it panicked then. -/
  glimpses : List Glimpse
  log : List LogRecord
  session : Session

namespace Session

/-- The session that begins with a store. -/
def start (store : Store) : Session := ⟨store, .empty, .empty⟩

/-- The session with another store. -/
def withStore (s : Session) (store : Store) : Session := { s with store }

/-- Counts a visit and notes the text of what is visited, up to a limit. -/
def countVisit (text : α → String) (limit : Option Nat) (seen : Nat × List String) (a : α) :
    (Nat × List String) × Bool :=
  let count := seen.1 + 1
  ((count, text a :: seen.2), limit.all (count < ·))

/-- The reply to a visit. -/
def visitReply (limit : Option Nat) (seen : Nat × List String) : Reply :=
  .visited seen.1 (if limit.isSome then none else some (seen.2.mergeSort (· ≤ ·)))

/-- Carries out an operation. -/
def step (s : Session) : Operation → Result
  | .transact key actions =>
    let result := s.store.transact key actions
    let seen := if result.panicked then none else some result.glimpses
    ⟨.transacted seen result.store.version result.store.snapshot, result.glimpses, result.log,
      s.withStore result.store⟩
  | .replace snapshot =>
    match s.store.replace snapshot with
    | .ok (store, record) =>
      ⟨.replaced store.version store.snapshot, [], [record], s.withStore store⟩
    | .error _ => ⟨.refused snapshot.candidates s.store.version s.store.snapshot, [], [], s⟩
  | .tenant key => ⟨.tenant (s.store.tenant? key), [], [], s⟩
  | .target key => ⟨.target (s.store.target? key), [], [], s⟩
  | .visitTenants limit =>
    let visitor := countVisit (fun c : CellTenant => c.key.text) limit
    ⟨visitReply limit (s.store.snapshot.listing.visitTenants visitor (0, [])), [], [], s⟩
  | .visitTargets limit =>
    let visitor := countVisit (fun t : Target => t.key.text) limit
    ⟨visitReply limit (s.store.snapshot.listing.visitTargets visitor (0, [])), [], [], s⟩
  | .version => ⟨.version s.store.version s.store.snapshot.targetCount, [], [], s⟩
  | .hold name => ⟨.done, [], [], { s with held := s.held.insert name s.store.snapshot }⟩
  | .held name => ⟨.held (s.held.get? name), [], [], s⟩
  | .subscribe name =>
    ⟨.done, [], [], { s with receivers := s.receivers.insert name s.store.changes.subscribe }⟩
  | .poll name =>
    match s.receivers.get? name with
    | none => ⟨.noReceiver, [], [], s⟩
    | some receiver =>
      ⟨.polled (s.store.changes.changed receiver) s.store.changes.latest, [], [],
        { s with receivers := s.receivers.insert name s.store.changes.subscribe }⟩
  | .process stages ctx e =>
    let (answer, scene) := Scene.process s.store stages ctx e
    ⟨.processed answer scene.seen, [], scene.log, s.withStore scene.store⟩

/-- The results of operations, in order. -/
def run (s : Session) : List Operation → List Result
  | [] => []
  | op :: rest =>
    let result := s.step op
    result :: run result.session rest

end Session

end EventRouter
