import EventRouter.Decode.Basic

/-! Decoding of records: a record is built from a blank one by its fields, which stand by name in an
object or by position in an array. -/

namespace EventRouter

/-- A field of a record: how a document changes the record that is being built. -/
structure Field (σ : Type) where
  name : String
  required : Bool
  read : Decoder (σ → σ)

/-- A field that may be left out and keeps its blank value then. -/
def Field.optional (name : String) (value : Decoder α) (put : α → σ → σ) : Field σ :=
  ⟨name, false, fun dialect d => put <$> value dialect d⟩

/-- A field that must be there. -/
def Field.needed (name : String) (value : Decoder α) (put : α → σ → σ) : Field σ :=
  ⟨name, true, fun dialect d => put <$> value dialect d⟩

/-- The fields of a record in order, and the record before any field is read. -/
structure Schema (σ : Type) where
  name : String
  blank : σ
  fields : List (Field σ)

namespace Schema

/-- The names of the fields. -/
def names (schema : Schema σ) : List String := schema.fields.map (·.name)

/-- The field with the given name. -/
def field? (schema : Schema σ) (name : String) : Option (Field σ) :=
  schema.fields.find? (·.name = name)

/-- Reads the members of an object into a record. Each field may come once; what becomes of a member
that is no field is up to `other`. -/
def readMembers (schema : Schema σ) (dialect : Dialect)
    (other : String → Doc → Except Flaw (σ → σ)) :
    (seen : List String) → σ → List (Name × Doc) → Except Flaw (List String × σ)
  | seen, record, [] => .ok (seen, record)
  | seen, record, (name, d) :: rest => do
    let name ← name.decode
    match schema.field? name with
    | some field =>
      if name ∈ seen then throw (.duplicateField name)
      let put ← field.read dialect d
      readMembers schema dialect other (name :: seen) (put record) rest
    | none =>
      let put ← other name d
      readMembers schema dialect other seen (put record) rest

/-- The first field that is required and was not seen. -/
def missing? (schema : Schema σ) (seen : List String) : Option (Field σ) :=
  schema.fields.find? fun field => field.required && field.name ∉ seen

/-- A record by name. -/
def decodeMembers (schema : Schema σ) (dialect : Dialect)
    (other : String → Doc → Except Flaw (σ → σ)) (members : List (Name × Doc)) :
    Except Flaw σ := do
  let (seen, record) ← schema.readMembers dialect other [] schema.blank members
  match schema.missing? seen with
  | some field => throw (.missingField field.name)
  | none => return record

/-- Refuses a member that is no field. -/
def refuseOther (schema : Schema σ) (name : String) (_ : Doc) : Except Flaw (σ → σ) :=
  .error (.unknownField name schema.names)

/-- Reads items into the fields from the one at `index` on. -/
def readItems (schema : Schema σ) (dialect : Dialect) (index : Nat) (record : σ) :
    List (Field σ) → List Doc → Except Flaw (σ × List Doc)
  | [], items => .ok (record, items)
  | field :: fields, [] =>
    if field.required then .error (.tooFew index schema.name schema.fields.length)
    else readItems schema dialect (index + 1) record fields []
  | field :: fields, d :: items => do
    let put ← field.read dialect d
    readItems schema dialect (index + 1) (put record) fields items

/-- A record by position. Items behind the last field are allowed in JSON5 only. -/
def decodeItems (schema : Schema σ) (dialect : Dialect) (items : List Doc) : Except Flaw σ := do
  let (record, excess) ← schema.readItems dialect 0 schema.blank schema.fields items
  match dialect, excess with
  | _, [] => return record
  | .value, _ => throw (.tooMany items.length)
  | .json, _ => throw (.stopped .malformed)
  | .json5, _ => return record

/-- A record, by name or by position. -/
def decode (schema : Schema σ) : Decoder σ
  | dialect, .object members => schema.decodeMembers dialect schema.refuseOther members
  | dialect, .array items => schema.decodeItems dialect items
  | _, d => d.refuse (.record schema.name)

end Schema

end EventRouter
