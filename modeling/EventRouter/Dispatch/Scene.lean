import EventRouter.Dispatch.FilterStage
import EventRouter.Store.Transaction

/-! Scenes: chains over a store that is edited while they run. Stages are given as data, and what
they logged and saw is kept. -/

namespace EventRouter

/-- A stage of a scene. -/
inductive StageSpec where
  | filter
  | pass
  /-- Notes what it sees under a label, and forwards. -/
  | record (label : String)
  /-- Answers that all is well. -/
  | halt
  /-- Fails with a text. -/
  | fail (text : String)
  | requireBroker
  | setTarget (key : TargetKey)
  | setBroker (key : TenantKey)
  /-- Runs a transaction, and forwards. -/
  | transact (key : TenantKey) (actions : List Action)
deriving DecidableEq, Repr

/-- What a recording stage saw. -/
structure Sighting where
  label : String
  eventId : String
  hasNext : Bool
  context : Context
deriving DecidableEq, Repr

/-- The state that the stages of a scene work on. -/
structure Scene where
  store : Store
  log : List LogRecord
  seen : List Sighting
deriving DecidableEq, Repr

namespace Scene

/-- The scene before anything has happened. -/
def start (store : Store) : Scene := ⟨store, [], []⟩

/-- A filter stage reads the snapshot of the store as it is when an event comes, and meets the
entries of filters in ascending order. -/
def access : FilterAccess Scene where
  snapshot scene := scene.store.snapshot
  log record scene := { scene with log := scene.log ++ [record] }
  order filter := filter.entries

/-- The scene after a transaction. -/
def transact (scene : Scene) (key : TenantKey) (actions : List Action) : Scene :=
  let result := scene.store.transact key actions
  { scene with store := result.store, log := scene.log ++ result.log }

/-- The scene with one more sighting. -/
def sight (scene : Scene) (sighting : Sighting) : Scene :=
  { scene with seen := scene.seen ++ [sighting] }

/-- The stage that a specification describes. -/
def stage : StageSpec → Stage Scene
  | .filter => access.stage
  | .pass => .pass
  | .record label => .act fun hasNext ctx e scene => scene.sight ⟨label, e.id, hasNext, ctx⟩
  | .halt => .halt (.ok ())
  | .fail text => .halt (.error (.stage text))
  | .requireBroker => .requireBroker
  | .setTarget key => .derive fun ctx => { ctx with target := some key }
  | .setBroker key => .derive fun ctx => { ctx with broker := some key }
  | .transact key actions => .act fun _ _ _ scene => scene.transact key actions

/-- Processes an event by the chain of the described stages; there is no answer without a stage. -/
def process (store : Store) (specs : List StageSpec) (ctx : Context) (e : Event) :
    Option Answer × Scene :=
  match Stage.chain (specs.map stage) with
  | none => (none, start store)
  | some handler =>
    let (answer, scene) := handler ctx e (start store)
    (some answer, scene)

end Scene

end EventRouter
