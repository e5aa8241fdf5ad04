/-! A channel that keeps the latest value. A receiver learns whether values were sent since it last
looked, but not how many. -/

namespace EventRouter

/-- The latest value and the number of values sent. -/
structure Channel (α : Type) where
  latest : α
  sent : Nat
deriving DecidableEq, Repr

/-- A receiver, by the number of values sent when it last looked. -/
structure Receiver where
  seen : Nat
deriving DecidableEq, Repr

namespace Channel

/-- The channel with a first value, which counts as seen. -/
def new (a : α) : Channel α := ⟨a, 0⟩

/-- Sends a value. -/
def send (c : Channel α) (a : α) : Channel α := ⟨a, c.sent + 1⟩

/-- A receiver that has seen the latest value. -/
def subscribe (c : Channel α) : Receiver := ⟨c.sent⟩

/-- Whether a value was sent since the receiver last looked. -/
def changed (c : Channel α) (r : Receiver) : Bool := r.seen ≠ c.sent

end Channel

end EventRouter
