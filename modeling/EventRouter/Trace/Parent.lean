import EventRouter.Text.Blank
import EventRouter.Text.Numeral
import EventRouter.Trace.State

/-! Span contexts and the trace parent headers that they are read from. A header has a version, a
trace id, a span id and flags, separated by dashes. -/

namespace EventRouter

/-- The id of a span: the one a header gave, or one made up for a new span. -/
inductive SpanId where
  | given (id : BitVec 64)
  | fresh
deriving DecidableEq, Repr

/-- The part of a trace that travels with an event. -/
structure SpanContext where
  traceId : BitVec 128
  spanId : SpanId
  sampled : Bool
  remote : Bool
  state : TraceState
deriving DecidableEq, Repr

namespace SpanContext

/-- The hexadecimal digits of the trace id. -/
def traceIdText (c : SpanContext) : String :=
  String.ofList (Numeral.writePadded 16 32 c.traceId.toNat)

/-- The span context of a new span below another one. -/
def child (parent : SpanContext) : SpanContext := { parent with spanId := .fresh, remote := false }

end SpanContext

namespace SpanId

/-- The hexadecimal digits of a given id. -/
def text : SpanId → String
  | given id => String.ofList (Numeral.writePadded 16 16 id.toNat)
  | fresh => "fresh"

end SpanId

namespace TraceParent

/-- The number that hexadecimal digits stand for, if it has at most `width` bits. A plus may stand
in front. -/
def hex? (width : Nat) (cs : List Char) : Option (BitVec width) :=
  let digits :=
    match cs with
    | '+' :: rest => rest
    | cs => cs
  match Numeral.read? 16 digits with
  | some n => if n < Nat.pow 2 width then some (BitVec.ofNat width n) else none
  | none => none

/-- An id: hexadecimal digits in lower case, not all of them zero. -/
def id? (width : Nat) (cs : List Char) : Option (BitVec width) :=
  if cs.any Char.isUpper then none else (hex? width cs).filter (· ≠ 0)

/-- Whether the flags of a version are known. -/
def validFlags (version flags : BitVec 8) : Bool := version ≠ 0 || flags ≤ 2

/-- The span context that the parts of a header give. Version 0 has exactly four parts, and version
255 does not exist. -/
def ofParts? (state : TraceState) : List (List Char) → Option SpanContext
  | version :: traceId :: spanId :: flags :: more => do
    let version ← hex? 8 version
    guard (version ≠ 255 ∧ (version = 0 → more = []))
    let traceId ← id? 128 traceId
    let spanId ← id? 64 spanId
    let flags ← hex? 8 flags
    guard (validFlags version flags)
    return ⟨traceId, .given spanId, flags.getLsbD 0, true, state⟩
  | _ => none

/-- The parts of a header. -/
def parts (header : String) : List (List Char) :=
  Text.splitTerminated '-' (Text.trim header.toList)

/-- The span context of a header, with a trace state. -/
def read? (header : String) (state : TraceState) : Option SpanContext :=
  ofParts? state (parts header)

/-- A header that gives no span context. -/
structure Invalid where
  header : String
deriving DecidableEq, Repr

/-- The wording of an invalid header. -/
def Invalid.message (e : Invalid) : String := s!"invalid traceparent '{e.header}'"

/-- The span context of a header, or the header as it is. -/
def parseWith (header : String) (state : TraceState) : Except Invalid SpanContext :=
  match read? header state with
  | some c => .ok c
  | none => .error ⟨header⟩

/-- The span context of a header alone. -/
def parse (header : String) : Except Invalid SpanContext := parseWith header []

end TraceParent

end EventRouter
