import EventRouter.Doc.Basic

/-! The tokens that documents are written with, and the rules in which their grammars differ. -/

namespace EventRouter

/-- The words that stand for values. -/
inductive Word where
  | null
  | true
  | false
  | infinity
  | nan
deriving DecidableEq, Repr

/-- The spelling of a word. -/
def Word.text : Word → String
  | .null => "null"
  | .true => "true"
  | .false => "false"
  | .infinity => "Infinity"
  | .nan => "NaN"

/-- The value of a word. -/
def Word.doc : Word → Doc
  | .null => .null
  | .true => .bool .true
  | .false => .bool .false
  | .infinity => .infinity .false
  | .nan => .nan

/-- A token. A string or a number that has no value keeps its fault until a decoder asks for it. -/
inductive Token where
  | openArray
  | closeArray
  | openObject
  | closeObject
  | colon
  | comma
  | string (s : Except Fault String)
  | number (d : Except Fault Doc)
  | word (w : Word)
  /-- A name without quotes that is no word. -/
  | name (s : Except Fault String)
  /-- Text that begins no token. -/
  | bad

namespace Token

/-- The value that a single token stands for. -/
def value? : Token → Option Doc
  | .string (.ok s) => some (.string s)
  | .string (.error f) => some (.fault f)
  | .number (.ok d) => some d
  | .number (.error f) => some (.fault f)
  | .word w => some w.doc
  | _ => none

end Token

/-- The rules in which the grammars of documents differ. -/
structure Grammar where
  /-- Whether a comma may stand behind the last item or member. -/
  trailingComma : Bool
  /-- Whether member names may stand without quotes. -/
  bareNames : Bool
  /-- The number of brackets that may be open at once, if it is limited. -/
  depth : Option Nat

end EventRouter
