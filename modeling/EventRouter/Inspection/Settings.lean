import EventRouter.Decode.Record

/-! The settings of an inspection: which files hold the snapshot and the event, and how the report
is written. -/

namespace EventRouter.Inspection

/-- How a report is written. -/
inductive OutputFormat where
  | text
  | json
deriving DecidableEq, Repr, Inhabited

/-- The word for a format. -/
def OutputFormat.word : OutputFormat → String
  | text => "text"
  | json => "json"

/-- The formats by their words. -/
def OutputFormat.decode : Decoder OutputFormat :=
  .choice [(OutputFormat.text.word, .text), (OutputFormat.json.word, .json)]

/-- The settings of an inspection. -/
structure Settings where
  targetsFile : String
  eventFile : Option String
  output : OutputFormat
deriving DecidableEq, Repr

namespace Settings

/-- The fields of settings. -/
def schema : Schema Settings where
  name := "Config"
  blank := ⟨"", none, .text⟩
  fields := [
    .needed "targets_file" .string fun s c => { c with targetsFile := s },
    .optional "event_file" (.option .string) fun s c => { c with eventFile := s },
    .optional "output" OutputFormat.decode fun o c => { c with output := o }]

/-- Settings. -/
def decode : Decoder Settings := schema.decode

/-- Settings as a value. -/
def toJson (c : Settings) : Json :=
  .object [
    ("targets_file", .string c.targetsFile),
    ("event_file", .ofOption .string c.eventFile),
    ("output", .string c.output.word)]

end Settings

end EventRouter.Inspection
