import EventRouter.Store.Basic

/-! Transactions: a callback edits the draft of one cell tenant, may look at the store meanwhile,
and may panic. Nothing of a transaction shows in the store before its callback has ended. -/

namespace EventRouter

/-- What a callback does next. -/
inductive Action where
  | edit (e : Edit)
  /-- It looks up a cell tenant in the store. -/
  | peek (key : TenantKey)
  | panic
deriving DecidableEq, Repr

/-- What a callback sees of the store when it looks. -/
structure Glimpse where
  key : TenantKey
  version : UInt64
  tenant : Option CellTenant
deriving DecidableEq, Repr

/-- What a callback did: the draft that it leaves, unless it panicked, what it saw, and what was
logged meanwhile. -/
structure Callback where
  draft : Option Draft
  glimpses : List Glimpse
  log : List LogRecord
deriving DecidableEq, Repr

namespace Store

/-- What a callback sees of the cell tenant with a key. -/
def glimpse (store : Store) (key : TenantKey) : Glimpse :=
  ⟨key, store.version, store.tenant? key⟩

/-- Runs a callback. -/
def runCallback (store : Store) (d : Draft) : List Action → Callback
  | [] => ⟨some d, [], []⟩
  | .edit e :: rest =>
    let later := runCallback store (d.apply e) rest
    { later with log := (d.warning? e).toList ++ later.log }
  | .peek key :: rest =>
    let later := runCallback store d rest
    { later with glimpses := store.glimpse key :: later.glimpses }
  | .panic :: _ => ⟨none, [], []⟩

/-- What came of a transaction. -/
structure Transacted where
  store : Store
  panicked : Bool
  /-- What the callback saw until it ended or panicked. -/
  glimpses : List Glimpse
  log : List LogRecord
deriving DecidableEq, Repr

/-- Runs a transaction on the cell tenant with a key. If the callback panics, the store stays as it
was. -/
def transact (store : Store) (key : TenantKey) (actions : List Action) : Transacted :=
  let callback := store.runCallback (.start key (store.tenant? key)) actions
  match callback.draft with
  | none => ⟨store, true, callback.glimpses, callback.log⟩
  | some d =>
    let (after, record) := store.commit key d.commit
    ⟨after, false, callback.glimpses, callback.log ++ [record]⟩

/-- Commits edits of the cell tenant with a key. -/
def edit (store : Store) (key : TenantKey) (edits : List Edit) : Store :=
  (store.transact key (edits.map .edit)).store

end Store

end EventRouter
