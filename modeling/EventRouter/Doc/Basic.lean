import EventRouter.Json.Basic

/-! Documents as a decoder meets them: a tree in reading order, which marks the place where reading
cannot go on. A decoder that stops before it comes to such a place never learns of it, so the first
error in reading order is the one that counts. -/

namespace EventRouter

/-- Why reading cannot go on at a place of a document. -/
inductive Fault where
  /-- The text does not follow the grammar, ends too early or nests too deeply. -/
  | malformed
  | integerOutOfRange
  | hexOutOfRange
  | notANumber
  | numberTooLarge
  /-- Behind the first half of a character, a text ends. -/
  | missingTrail
  /-- Behind the first half of a character, a text goes on with what is no number. -/
  | noTrailNumber
  /-- Behind the first half of a character, a text goes on with a number that is no second half. -/
  | wrongTrail
  | loneTrail
deriving DecidableEq, Repr

/-- Whether a fault is one of a string or a name. -/
def Fault.isOfText : Fault → Bool
  | .missingTrail | .noTrailNumber | .wrongTrail | .loneTrail => true
  | .malformed | .integerOutOfRange | .hexOutOfRange | .notANumber | .numberTooLarge => false

/-- The wording of a fault inside a token. -/
def Fault.message : Fault → String
  | .malformed => ""
  | .integerOutOfRange => "error parsing integer"
  | .hexOutOfRange | .noTrailNumber => "error parsing hex"
  | .notANumber => "error parsing number"
  | .numberTooLarge => "error parsing number: too large"
  | .missingTrail => "missing unicode trail surrogate"
  | .wrongTrail => "expecting unicode trail surrogate"
  | .loneTrail => "unexpected unicode trail surrogate"

/-- What stands at a place of a document, as far as a message says it. -/
inductive Found where
  | null
  | bool (b : Bool)
  | int (n : Int)
  | float (x : Binary64)
  | infinity (negative : Bool)
  | nan
  | string (s : String)
  | sequence
  | map
deriving DecidableEq, Repr

/-- What stands where a member name belongs. -/
inductive Name where
  | text (s : String)
  | fault (f : Fault)
deriving DecidableEq, Repr

/-- A document in reading order. -/
inductive Doc where
  | null
  | bool (b : Bool)
  | int (n : Integer)
  | float (x : Binary64)
  | infinity (negative : Bool)
  | nan
  | string (s : String)
  | array (items : List Doc)
  | object (members : List (Name × Doc))
  | fault (f : Fault)
deriving Repr, Inhabited

namespace Doc

/-- What a message says of a document; none where reading stops. -/
def found? : Doc → Except Fault Found
  | .null => .ok .null
  | .bool b => .ok (.bool b)
  | .int n => .ok (.int n.val)
  | .float x => .ok (.float x)
  | .infinity negative => .ok (.infinity negative)
  | .nan => .ok .nan
  | .string s => .ok (.string s)
  | .array _ => .ok .sequence
  | .object _ => .ok .map
  | .fault f => .error f

/-- The document for a number. -/
def ofNumber : Number → Doc
  | .int n => .int n
  | .float x => .float x

mutual

/-- A value as a document, which can be read to its end. -/
def ofJson : Json → Doc
  | .null => .null
  | .bool b => .bool b
  | .number n => ofNumber n
  | .string s => .string s
  | .array items => .array (ofItems items)
  | .object members => .object (ofMembers members)

/-- The items of an array as documents. -/
def ofItems : List Json → List Doc
  | [] => []
  | j :: rest => ofJson j :: ofItems rest

/-- The members of an object as members of a document. -/
def ofMembers : List (String × Json) → List (Name × Doc)
  | [] => []
  | (name, j) :: rest => (.text name, ofJson j) :: ofMembers rest

end

mutual

/-- The value of a document, with sorted objects; the last member of one name stays. Numbers that
are not finite have no value in JSON and become `null`. -/
def toJson : Doc → Except Fault Json
  | .null => .ok .null
  | .bool b => .ok (.bool b)
  | .int n => .ok (.number (.int n))
  | .float x => .ok (.number (.float x))
  | .infinity _ => .ok .null
  | .nan => .ok .null
  | .string s => .ok (.string s)
  | .array items => do return .array (← toItems items)
  | .object members => do return .object (Dict.ofList (← toMembers members)).entries
  | .fault f => .error f

/-- The values of the items of an array. -/
def toItems : List Doc → Except Fault (List Json)
  | [] => .ok []
  | d :: rest => do
    let j ← toJson d
    return j :: (← toItems rest)

/-- The values of the members of an object. -/
def toMembers : List (Name × Doc) → Except Fault (List (String × Json))
  | [] => .ok []
  | (.text name, d) :: rest => do
    let j ← toJson d
    return (name, j) :: (← toMembers rest)
  | (.fault f, _) :: _ => .error f

end

end Doc

end EventRouter
