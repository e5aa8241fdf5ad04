import EventRouter.Event.Basic
import EventRouter.Instant.Printer

/-! What an event answers to a name: its context attributes and extensions in string form. -/

namespace EventRouter.Event

/-- The string-valued extension of a name. -/
def extension? (e : Event) (name : String) : Option String :=
  (e.extensions.get? name).bind ExtensionValue.string?

/-- The context attribute or extension of a name, in string form. A context attribute hides the
extension of the same name even when it is absent; the schema of the data has two names. -/
def attribute? (e : Event) (name : String) : Option String :=
  match name with
  | "specversion" => some e.specVersion.text
  | "id" => some e.id
  | "source" => some e.source
  | "type" => some e.type
  | "subject" => e.subject
  | "time" => e.time.map Instant.text
  | "datacontenttype" => e.dataContentType
  | "dataschema" => e.dataSchema
  | "schemaurl" => e.dataSchema
  | name => (e.extensions.get? name).map ExtensionValue.text

/-- A text as logs show it: a word stands for the empty one. -/
def orNone (s : String) : String := if s.isEmpty then "none" else s

/-- The id of an event in logs. -/
def logId (e : Event) : String := orNone e.id

/-- The type of an event in logs. -/
def logType (e : Event) : String := orNone e.type

end EventRouter.Event
