import EventRouter.Doc.Basic
import EventRouter.Instant.Parser
import EventRouter.Json.Printer
import EventRouter.Text.Quoted

/-! What can be wrong with a document that is read as a value of the domain, and the wording. -/

namespace EventRouter

/-- The forms in which a document can be given. They differ in what they allow for a choice and for
the length of a record, and in some wordings. -/
inductive Dialect where
  | value
  | json
  | json5
deriving DecidableEq, Repr

/-- What a decoder asks for. -/
inductive Wanted where
  | string
  | map
  | record (name : String)
  | stringOrMap
  | unit
  | time
deriving DecidableEq, Repr

/-- A reason for which a document is not a value of the domain. -/
inductive Flaw where
  /-- The document cannot be read so far. -/
  | stopped (f : Fault)
  | wrongType (found : Found) (wanted : Wanted)
  /-- A record in positional form ends before a field that it must have. -/
  | tooFew (length : Nat) (record : String) (fields : Nat)
  /-- A record in positional form has more items than fields. -/
  | tooMany (length : Nat)
  | unknownField (name : String) (fields : List String)
  | duplicateField (name : String)
  | missingField (name : String)
  | unknownChoice (name : String) (choices : List String)
  /-- An object in the place of a choice has not exactly one member. -/
  | notSingle
  /-- An object in the place of a choice has no member. -/
  | emptyChoice
  /-- Neither a string nor an object stands in the place of a choice. -/
  | noChoice
  | noExtensionValue
  | time (e : Instant.ParseError)
deriving DecidableEq, Repr

/-- Doubles in messages about JSON5 documents stand by position, whatever their exponent; of two
decimals that are equally near, the larger one is written. -/
def Dialect.plainStyle : DecimalStyle := ⟨-400, 400, .up⟩

/-- The text of a double in a message. -/
def Dialect.floatText (dialect : Dialect) (x : Binary64) : String :=
  let style := if dialect = .json5 then plainStyle else Number.style
  String.ofList (style.write x)

/-- The wording of what was found. -/
def Found.message (dialect : Dialect) : Found → String
  | .null => if dialect = .json5 then "unit value" else "null"
  | .bool true => "boolean `true`"
  | .bool false => "boolean `false`"
  | .int n => "integer `" ++ String.ofList (Numeral.writeInt n) ++ "`"
  | .float x => "floating point `" ++ dialect.floatText x ++ "`"
  | .infinity false => "floating point `inf`"
  | .infinity true => "floating point `-inf`"
  | .nan => "floating point `NaN`"
  | .string s => "string " ++ Text.quote s
  | .sequence => "sequence"
  | .map => "map"

/-- The wording of what was wanted. -/
def Wanted.message : Wanted → String
  | .string => "a string"
  | .map => "a map"
  | .record name => "struct " ++ name
  | .stringOrMap => "string or map"
  | .unit => "unit"
  | .time => "an RFC 3339 formatted date and time string"

namespace Flaw

/-- A name between back quotes. -/
def quoted (name : String) : String := "`" ++ name ++ "`"

/-- The wording of the names that may stand at a place. -/
def oneOf : List String → String
  | [a] => quoted a
  | [a, b] => quoted a ++ " or " ++ quoted b
  | names => "one of " ++ ", ".intercalate (names.map quoted)

/-- The wording of a flaw. -/
def message (dialect : Dialect) : Flaw → String
  | stopped f => f.message
  | wrongType found wanted =>
    "invalid type: " ++ found.message dialect ++ ", expected " ++ wanted.message
  | tooFew length record fields =>
    s!"invalid length {length}, expected struct {record} with {fields} elements"
  | tooMany length => s!"invalid length {length}, expected fewer elements in array"
  | unknownField name fields => "unknown field " ++ quoted name ++ ", expected " ++ oneOf fields
  | duplicateField name => "duplicate field " ++ quoted name
  | missingField name => "missing field " ++ quoted name
  | unknownChoice name choices =>
    "unknown variant " ++ quoted name ++ ", expected " ++ oneOf choices
  | notSingle => "invalid value: map, expected map with a single key"
  | emptyChoice => "expected a nonempty object"
  | noChoice => "expected a string or an object"
  | noExtensionValue => "data did not match any variant of untagged enum ExtensionValue"
  | time e => e.message

end Flaw

end EventRouter
