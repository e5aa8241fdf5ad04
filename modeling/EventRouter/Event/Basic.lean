import EventRouter.Instant.Basic
import EventRouter.Json.Basic
import EventRouter.Text.Numeral

/-! Events: context attributes, extensions and data, and the steps by which an event is built. -/

namespace EventRouter

/-- The version of the event format. -/
inductive SpecVersion where
  | v03
  | v10
deriving DecidableEq, Repr, Inhabited

/-- The number of a version. -/
def SpecVersion.text : SpecVersion → String
  | .v03 => "0.3"
  | .v10 => "1.0"

/-- The value of an extension. -/
inductive ExtensionValue where
  | bool (b : Bool)
  | int (n : Int64)
  | string (s : String)
deriving DecidableEq, Repr

namespace ExtensionValue

/-- The string form of a value: words for booleans, decimal digits for integers. -/
def text : ExtensionValue → String
  | bool true => "true"
  | bool false => "false"
  | int n => String.ofList (Numeral.writeInt n.toInt)
  | string s => s

/-- The value if it is a string. -/
def string? : ExtensionValue → Option String
  | string s => some s
  | _ => none

end ExtensionValue

/-- An event. -/
structure Event where
  id : String
  source : String
  specVersion : SpecVersion
  type : String
  subject : Option String
  time : Option Instant
  dataContentType : Option String
  dataSchema : Option String
  data : Option Json
  dataBase64 : Option String
  extensions : Dict ExtensionValue
deriving DecidableEq, Repr

namespace Event

/-- The event of a version that has nothing else. -/
def blank (version : SpecVersion) : Event :=
  ⟨"", "", version, "", none, none, none, none, none, none, .empty⟩

instance : Inhabited Event := ⟨blank .v10⟩

/-- A step in building an event. -/
inductive Step where
  /-- A new event of a version, without what was built before. -/
  | restart (version : SpecVersion)
  | id (s : String)
  | source (s : String)
  | type (s : String)
  | subject (s : String)
  | time (t : Instant)
  | dataContentType (s : String)
  | dataSchema (s : String)
  | data (j : Json)
  | dataBase64 (s : String)
  | extension (name : String) (value : ExtensionValue)
deriving DecidableEq, Repr

/-- The event after a step. Data are kept with the members of their objects in ascending order. -/
def apply (e : Event) : Step → Event
  | .restart version => blank version
  | .id s => { e with id := s }
  | .source s => { e with source := s }
  | .type s => { e with type := s }
  | .subject s => { e with subject := some s }
  | .time t => { e with time := some t }
  | .dataContentType s => { e with dataContentType := some s }
  | .dataSchema s => { e with dataSchema := some s }
  | .data j => { e with data := some j.sorted }
  | .dataBase64 s => { e with dataBase64 := some s }
  | .extension name value => { e with extensions := e.extensions.insert name value }

/-- The event that steps build from an empty one. -/
def build (steps : List Step) : Event := steps.foldl apply (blank .v10)

end Event

end EventRouter
