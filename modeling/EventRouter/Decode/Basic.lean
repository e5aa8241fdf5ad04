import EventRouter.Decode.Flaw
import EventRouter.Json.Text
import EventRouter.Json5.Text

/-! Decoders of documents: strings, optional values, maps and choices, and the sources that a
document can come from. -/

namespace EventRouter

/-- A decoder reads a document, given in some form, as a value of the domain. -/
abbrev Decoder (α : Type) := Dialect → Doc → Except Flaw α

/-- Refuses a document that is not what is wanted. -/
def Doc.refuse (d : Doc) (wanted : Wanted) : Except Flaw α :=
  match d.found? with
  | .ok found => .error (.wrongType found wanted)
  | .error f => .error (.stopped f)

/-- The text of a member name. -/
def Name.decode : Name → Except Flaw String
  | .text s => .ok s
  | .fault f => .error (.stopped f)

namespace Decoder

/-- A string. -/
def string : Decoder String
  | _, .string s => .ok s
  | _, d => d.refuse .string

/-- A value that may be absent, `null` standing for its absence. -/
def option (value : Decoder α) : Decoder (Option α)
  | _, .null => .ok none
  | dialect, d => some <$> value dialect d

/-- The entries of a map, in reading order. -/
def entries (value : Decoder α) (dialect : Dialect) :
    List (Name × Doc) → Except Flaw (List (String × α))
  | [] => .ok []
  | (name, d) :: rest => do
    let key ← name.decode
    let a ← value dialect d
    return (key, a) :: (← entries value dialect rest)

/-- A map from strings; the last value under a key stays. -/
def dict (value : Decoder α) : Decoder (Dict α)
  | dialect, .object members => .ofList <$> entries value dialect members
  | _, d => d.refuse .map

/-! ### Choices -/

/-- The choice with the given name. -/
def chosen (choices : List (String × α)) (name : String) : Except Flaw α :=
  match choices.lookup name with
  | some a => .ok a
  | none => .error (.unknownChoice name (choices.map (·.1)))

/-- Nothing, written as `null`. -/
def unit : Doc → Except Flaw Unit
  | .null => .ok ()
  | d => d.refuse .unit

/-- A choice in a value: a name, or an object whose only member has that name and no content. -/
def choiceInValue (choices : List (String × α)) : Doc → Except Flaw α
  | .string s => chosen choices s
  | .object [(name, d)] => do
    let a ← chosen choices (← name.decode)
    unit d
    return a
  | .object _ => .error .notSingle
  | d => d.refuse .stringOrMap

/-- A choice in a JSON text. Whatever is neither a string nor an object with one member does not
follow the grammar of choices. -/
def choiceInJson (choices : List (String × α)) : Doc → Except Flaw α
  | .string s => chosen choices s
  | .object ((name, d) :: rest) => do
    let a ← chosen choices (← name.decode)
    unit d
    if rest.isEmpty then return a else throw (.stopped .malformed)
  | _ => .error (.stopped .malformed)

/-- A choice in a JSON5 text: a name, or an object whose first member has that name. -/
def choiceInJson5 (choices : List (String × α)) : Doc → Except Flaw α
  | .string s => chosen choices s
  | .object ((name, _) :: _) => do chosen choices (← name.decode)
  | .object [] => .error .emptyChoice
  | .fault f => .error (if f.isOfText then .stopped f else .noChoice)
  | _ => .error .noChoice

/-- One of several named values. -/
def choice (choices : List (String × α)) : Decoder α
  | .value, d => choiceInValue choices d
  | .json, d => choiceInJson choices d
  | .json5, d => choiceInJson5 choices d

end Decoder

/-! ### Sources -/

/-- Where a document comes from: a value, or a text in one of two formats. -/
inductive Source where
  | value (j : Json)
  | json (text : String)
  | json5 (text : String)

/-- The form of a document from a source. -/
def Source.dialect : Source → Dialect
  | .value _ => .value
  | .json _ => .json
  | .json5 _ => .json5

/-- Decodes a source. Members of a value are met in ascending order. A JSON text is decoded while it
is read, so that what is wrong with it counts only when no flaw comes before; a JSON5 text is read
as a whole first. -/
def Decoder.run (decode : Decoder α) : Source → Except Flaw α
  | .value j => decode .value (.ofJson j.sorted)
  | .json text => do
    let place := Json.read text
    let a ← decode .json place.finish
    if place.isWhole then return a else throw (.stopped .malformed)
  | .json5 text =>
    match Json5.read? text with
    | some d => decode .json5 d
    | none => .error (.stopped .malformed)

end EventRouter
