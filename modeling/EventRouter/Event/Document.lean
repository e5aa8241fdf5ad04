import EventRouter.Decode.Record
import EventRouter.Event.Basic
import EventRouter.Instant.Printer

/-! Events as documents: context attributes, data and extensions are members of one object. In
reading, whatever is none of the named fields is an extension; extensions are decoded when all
members have been read. -/

namespace EventRouter

/-! ### Reading -/

/-- A version by its number. -/
def SpecVersion.decode : Decoder SpecVersion :=
  .choice [(SpecVersion.v03.text, .v03), (SpecVersion.v10.text, .v10)]

/-- Any value. -/
def Json.decode : Decoder Json := fun _ d =>
  match d.toJson with
  | .ok j => .ok j
  | .error f => .error (.stopped f)

/-- An instant, written as a string. -/
def Instant.decode : Decoder Instant
  | _, .string s =>
    match Instant.parse s with
    | .ok t => .ok t
    | .error e => .error (.time e)
  | _, d => d.refuse .time

/-- The extension with a value: a boolean, an integer with sign or a string. -/
def ExtensionValue.ofJson : Json → Except Flaw ExtensionValue
  | .bool b => .ok (.bool b)
  | .string s => .ok (.string s)
  | .number (.int n) =>
    match n.toInt64? with
    | some n => .ok (.int n)
    | none => .error .noExtensionValue
  | _ => .error .noExtensionValue

/-- The value of an extension. -/
def ExtensionValue.decode : Decoder ExtensionValue := fun dialect d => do
  ExtensionValue.ofJson (← Json.decode dialect d)

namespace Event

/-- An event in reading: its fields so far, and the other members in reading order. -/
structure Draft where
  event : Event
  others : List (String × Json)

/-- A field that fills in an event. -/
def Draft.field (name : String) (value : Decoder α) (put : α → Event → Event) : Field Draft :=
  .optional name value fun a draft => { draft with event := put a draft.event }

/-- The named fields of an event. -/
def schema : Schema Draft where
  name := "Event"
  blank := ⟨.blank .v10, []⟩
  fields := [
    Draft.field "id" .string fun s e => { e with id := s },
    Draft.field "source" .string fun s e => { e with source := s },
    Draft.field "specversion" SpecVersion.decode fun v e => { e with specVersion := v },
    Draft.field "type" .string fun s e => { e with type := s },
    Draft.field "subject" (.option .string) fun s e => { e with subject := s },
    Draft.field "time" (.option Instant.decode) fun t e => { e with time := t },
    Draft.field "datacontenttype" (.option .string) fun s e => { e with dataContentType := s },
    Draft.field "dataschema" (.option .string) fun s e => { e with dataSchema := s },
    Draft.field "data" (.option Json.decode) fun j e => { e with data := j },
    Draft.field "data_base64" (.option .string) fun s e => { e with dataBase64 := s }]

/-- Keeps a member that is no field. -/
def keepOther (dialect : Dialect) (name : String) (d : Doc) : Except Flaw (Draft → Draft) := do
  let j ← Json.decode dialect d
  return fun draft => { draft with others := draft.others ++ [(name, j)] }

/-- The extensions with the given values; the last one of a name stays. -/
def extensionsOf (others : List (String × Json)) : Except Flaw (Dict ExtensionValue) :=
  .ofList <$> others.mapM fun (name, j) => (name, ·) <$> ExtensionValue.ofJson j

/-- An event, which is always an object. -/
def decode : Decoder Event
  | dialect, .object members => do
    let draft ← schema.decodeMembers dialect (keepOther dialect) members
    return { draft.event with extensions := ← extensionsOf draft.others }
  | _, d => d.refuse (.record schema.name)

end Event

/-! ### Writing -/

/-- The value of an extension as a value. -/
def ExtensionValue.toJson : ExtensionValue → Json
  | .bool b => .bool b
  | .int n => .number (.int (.ofInt64 n))
  | .string s => .string s

namespace Event

/-- The member for something that may be absent. -/
def optionalMember (name : String) (f : α → Json) : Option α → List (String × Json)
  | none => []
  | some a => [(name, f a)]

/-- The members for the fields of an event. -/
def fieldMembers (e : Event) : List (String × Json) :=
  [("id", .string e.id), ("source", .string e.source),
    ("specversion", .string e.specVersion.text), ("type", .string e.type)] ++
  optionalMember "subject" .string e.subject ++
  optionalMember "time" (fun t => .string t.documentText) e.time ++
  optionalMember "datacontenttype" .string e.dataContentType ++
  optionalMember "dataschema" .string e.dataSchema ++
  optionalMember "data" (fun j => j) e.data ++
  optionalMember "data_base64" .string e.dataBase64

/-- The members for the extensions of an event. -/
def extensionMembers (e : Event) : List (String × Json) :=
  e.extensions.entries.map fun x => (x.1, x.2.toJson)

/-- An event as a value. An extension that has the name of a field comes as a second member of that
name. -/
def toJson (e : Event) : Json := .object (e.fieldMembers ++ e.extensionMembers)

/-- The text of an event. -/
def text (e : Event) : String := e.toJson.text

end Event

end EventRouter
