import EventRouter.Event.Attribute

/-! Filters: an event passes a filter when it has every attribute of the filter with exactly the
value given there. Entries are judged in the order of a listing, and the first one that fails is
reported. -/

namespace EventRouter.Filter

/-- The outcome of a filter. -/
inductive Verdict where
  | pass
  /-- The event does not have an attribute. -/
  | missing (name : String)
  /-- The event has an attribute with another value. -/
  | mismatch (name : String)
deriving DecidableEq, Repr

/-- The verdict of one entry. -/
def judge (e : Event) (entry : String × String) : Verdict :=
  match e.attribute? entry.1 with
  | none => .missing entry.1
  | some value => if value = entry.2 then .pass else .mismatch entry.1

/-- The verdict of the first entry that fails, if there is one. -/
def evaluate (e : Event) : List (String × String) → Verdict
  | [] => .pass
  | entry :: rest =>
    match judge e entry with
    | .pass => evaluate e rest
    | verdict => verdict

/-- The verdicts of the entries that fail. -/
def failures (e : Event) (entries : List (String × String)) : List Verdict :=
  (entries.map (judge e)).filter (· ≠ .pass)

end EventRouter.Filter
