import EventRouter.Dispatch.Context
import EventRouter.Event.Basic

/-! Stages and chains. A stage either answers an event itself or forwards it, with a context that it
may have derived, to the stage behind it; what the stage behind it answers is the answer then.
Stages work on a common state. -/

namespace EventRouter

/-- What is answered to an event. -/
abbrev Answer := Except ProcessError Unit

/-- What a stage decides on an event. -/
inductive Decision where
  | answer (a : Answer)
  | forward (ctx : Context)

/-- A stage: told whether there is a stage behind it, it decides on an event in a context, and
changes the state. -/
abbrev Stage (σ : Type) := (hasNext : Bool) → Context → Event → σ → Decision × σ

/-- What processes an event in a context. -/
abbrev Handler (σ : Type) := Context → Event → σ → Answer × σ

namespace Stage

/-- A stage in front of what comes behind it. What is forwarded past the last stage is done. -/
def link (stage : Stage σ) (next : Option (Handler σ)) : Handler σ := fun ctx e s =>
  match stage next.isSome ctx e s with
  | (.answer a, s) => (a, s)
  | (.forward ctx, s) =>
    match next with
    | some handler => handler ctx e s
    | none => (.ok (), s)

/-- The chain of stages; there is none without a stage. -/
def chain : List (Stage σ) → Option (Handler σ)
  | [] => none
  | stage :: rest => some (stage.link (chain rest))

/-! ### Plain stages -/

/-- Forwards every event. -/
def pass : Stage σ := fun _ ctx _ s => (.forward ctx, s)

/-- Answers every event without forwarding it. -/
def halt (a : Answer) : Stage σ := fun _ _ _ s => (.answer a, s)

/-- Forwards every event in a derived context. -/
def derive (change : Context → Context) : Stage σ := fun _ ctx _ s => (.forward (change ctx), s)

/-- Forwards events whose context has the key of a broker. -/
def requireBroker : Stage σ := fun _ ctx _ s =>
  match ctx.brokerKey with
  | .ok _ => (.forward ctx, s)
  | .error e => (.answer (.error (.context e)), s)

/-- Forwards every event after a change of the state. -/
def act (change : (hasNext : Bool) → Context → Event → σ → σ) : Stage σ := fun hasNext ctx e s =>
  (.forward ctx, change hasNext ctx e s)

end Stage

end EventRouter
