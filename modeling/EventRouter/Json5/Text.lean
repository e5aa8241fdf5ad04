import EventRouter.Doc.Reader
import EventRouter.Json5.Lexer

/-! JSON5 texts as documents. A text is read as a whole before anything in it is decoded. -/

namespace EventRouter.Json5

/-- JSON5 allows a comma behind the last item and names without quotes, at any depth. -/
def grammar : Grammar := ⟨true, true, none⟩

/-- Reads a text that is JSON5 from its beginning to its end. -/
def read? (s : String) : Option Doc :=
  let place := grammar.read (tokens s.toList)
  if place.isWhole then some place.finish else none

end EventRouter.Json5
