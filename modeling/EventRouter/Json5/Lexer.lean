import EventRouter.Doc.Token
import EventRouter.Json5.Literal
import EventRouter.Text.Blank

/-! The tokens of a JSON5 text. White space and comments separate tokens. -/

namespace EventRouter.Json5

/-- The white space of JSON5. -/
def isBlank (c : Char) : Bool :=
  c = '\t' || c = '\x0b' || c = '\x0c' || c = '\ufeff' || isLineEnd c || Text.isSpaceSeparator c

/-- The parts of a text between tokens. -/
inductive Region where
  | blank
  | lineComment
  | blockComment

/-- The text from its next token on; none if a comment does not end. -/
def skip : Region → List Char → Option (List Char)
  | .blank, [] => some []
  | .blank, '/' :: '/' :: rest => skip .lineComment rest
  | .blank, '/' :: '*' :: rest => skip .blockComment rest
  | .blank, c :: rest => if isBlank c then skip .blank rest else some (c :: rest)
  | .lineComment, [] => some []
  | .lineComment, c :: rest => skip (if isLineEnd c then .blank else .lineComment) rest
  | .blockComment, [] => none
  | .blockComment, '*' :: '/' :: rest => skip .blank rest
  | .blockComment, _ :: rest => skip .blockComment rest

/-- The word with the given spelling. -/
def wordOf? : List Char → Option Word
  | ['n', 'u', 'l', 'l'] => some .null
  | ['t', 'r', 'u', 'e'] => some .true
  | ['f', 'a', 'l', 's', 'e'] => some .false
  | ['I', 'n', 'f', 'i', 'n', 'i', 't', 'y'] => some .infinity
  | ['N', 'a', 'N'] => some .nan
  | _ => none

/-- The characters of pieces without escape sequences. -/
def plain? : List Piece → Option (List Char)
  | [] => some []
  | .char c :: rest => (c :: ·) <$> plain? rest
  | .escaped .. :: _ | .unit _ :: _ => none

/-- The token for the pieces of a name: a word if it is spelled without escape sequences. -/
def nameToken (pieces : List Piece) : Token :=
  match (plain? pieces).bind wordOf? with
  | some w => .word w
  | none => .name (textOf pieces)

/-- Reads a token that is neither a bracket nor a separator. -/
def literalToken (cs : List Char) : Token × List Char :=
  match cs with
  | [] => (.bad, [])
  | c :: rest =>
    if c = '"' ∨ c = '\x27' then
      match scanString c rest with
      | some (pieces, rest) => (.string (textOf pieces), rest)
      | none => (.bad, [])
    else if c = '\\' ∨ startsName c then
      match scanName cs with
      | ([], _) => (.bad, [])
      | (pieces, rest) => (nameToken pieces, rest)
    else
      match scanNumber? cs with
      | some (n, rest) => (.number n, rest)
      | none => (.bad, [])

/-- Reads the token at the front of a text. -/
def token (cs : List Char) : Token × List Char :=
  match cs with
  | '[' :: rest => (.openArray, rest)
  | ']' :: rest => (.closeArray, rest)
  | '\x7b' :: rest => (.openObject, rest)
  | '\x7d' :: rest => (.closeObject, rest)
  | ':' :: rest => (.colon, rest)
  | ',' :: rest => (.comma, rest)
  | cs => literalToken cs

/-- Reads the next token; none at the end of the text. -/
def next? (cs : List Char) : Option (Token × List Char) :=
  match skip .blank cs with
  | none => some (.bad, [])
  | some [] => none
  | some cs => some (token cs)

theorem length_of_skip {r : Region} {cs rest : List Char} (h : skip r cs = some rest) :
    rest.length ≤ cs.length := by
  fun_induction skip r cs <;> simp_all <;> omega

theorem length_literalToken {cs : List Char} (hne : cs ≠ []) :
    (literalToken cs).2.length < cs.length := by
  cases cs with
  | nil => exact absurd rfl hne
  | cons c rest =>
    unfold literalToken
    simp only
    split
    · split
      · next h => have := length_of_scanString h; simp; omega
      · simp
    · split
      · have hlen := length_scanName (c :: rest)
        split
        · simp
        · next pieces _ hp heq =>
          have hpos : 0 < pieces.length := List.length_pos_iff.2 hp
          rw [heq] at hlen
          simp only at hlen ⊢
          omega
      · split
        · next h => exact length_of_scanNumber? h
        · simp

theorem length_token {cs : List Char} (hne : cs ≠ []) : (token cs).2.length < cs.length := by
  unfold token
  split
  case h_7 => exact length_literalToken hne
  all_goals simp

theorem length_of_next? {cs rest : List Char} {t : Token} (h : next? cs = some (t, rest)) :
    rest.length < cs.length ∨ rest = [] := by
  unfold next? at h
  split at h
  · simp_all
  · simp at h
  · next r hne hr =>
    have hlen := length_of_skip hr
    have hr' : r ≠ [] := by rintro rfl; exact hne rfl
    have := length_token hr'
    simp only [Option.some.injEq] at h
    rw [h] at this
    simp only at this
    omega

/-- The tokens of a text. -/
def tokens (cs : List Char) : List Token :=
  match _h : next? cs with
  | none => []
  | some (t, []) => [t]
  | some (t, c :: rest) => t :: tokens (c :: rest)
termination_by cs.length
decreasing_by simpa using length_of_next? _h

end EventRouter.Json5
