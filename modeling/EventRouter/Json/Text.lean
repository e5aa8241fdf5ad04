import EventRouter.Doc.Reader
import EventRouter.Json.Lexer

/-! JSON texts as documents. Brackets nest to a depth of 127. -/

namespace EventRouter.Json

/-- JSON has no comma behind the last item, no names without quotes, and a limited depth. -/
def grammar : Grammar := ⟨false, false, some 127⟩

/-- Reads a text, as far as it is JSON. -/
def read (s : String) : Place := grammar.read (tokens s.toList)

/-- The value of a text that is JSON from its beginning to its end. -/
def parse? (s : String) : Option Json :=
  let place := read s
  if place.isWhole then place.finish.toJson.toOption else none

end EventRouter.Json
