import EventRouter.Doc.Token
import EventRouter.Json.Literal

/-! The tokens of a JSON text. White space separates tokens; where no token can be read, the text
ends with a bad one. -/

namespace EventRouter.Json

/-- The white space of JSON. -/
def isBlank (c : Char) : Bool := c = ' ' || c = '\t' || c = '\n' || c = '\r'

/-- Whether a code unit is the first half of a character beyond the basic plane. -/
def isLead (u : Nat) : Bool := 0xd800 ≤ u && u ≤ 0xdbff

/-- Whether a code unit is the second half of a character beyond the basic plane. -/
def isTrail (u : Nat) : Bool := 0xdc00 ≤ u && u ≤ 0xdfff

/-- The character of two code units. -/
def pairedChar (lead trail : Nat) : Char :=
  Char.ofNat (0x10000 + (lead - 0xd800) * 0x400 + (trail - 0xdc00))

/-- The character of an escape sequence of one letter. -/
def simpleEscape? : Char → Option Char
  | '"' => some '"'
  | '\\' => some '\\'
  | '/' => some '/'
  | 'b' => some '\x08'
  | 'f' => some '\x0c'
  | 'n' => some '\n'
  | 'r' => some '\r'
  | 't' => some '\t'
  | _ => none

/-- Adds a character to the front of what was read. -/
def consRead (c : Char) (read : Option (List Char × List Char)) : Option (List Char × List Char) :=
  read.map fun r => (c :: r.1, r.2)

/-- Reads the rest of a string behind its opening quote. Controls have to be escaped, and the two
halves of a character beyond the basic plane have to stand together. -/
def scanString : List Char → Option (List Char × List Char)
  | [] => none
  | '"' :: rest => some ([], rest)
  | '\\' :: 'u' :: a :: b :: c :: d :: rest =>
    match Numeral.read? 16 [a, b, c, d] with
    | none => none
    | some u =>
      if isTrail u then none
      else if isLead u then
        match rest with
        | '\\' :: 'u' :: e :: f :: g :: h :: rest =>
          match Numeral.read? 16 [e, f, g, h] with
          | none => none
          | some v => if isTrail v then consRead (pairedChar u v) (scanString rest) else none
        | _ => none
      else consRead (Char.ofNat u) (scanString rest)
  | '\\' :: c :: rest =>
    match simpleEscape? c with
    | none => none
    | some e => consRead e (scanString rest)
  | c :: rest => if c < ' ' ∨ c = '\\' then none else consRead c (scanString rest)

/-- Reads a string token behind its opening quote. -/
def stringToken (cs : List Char) : Token × List Char :=
  match scanString cs with
  | some (s, rest) => (.string (.ok (String.ofList s)), rest)
  | none => (.bad, [])

/-- Reads a number token. -/
def numberToken (cs : List Char) : Token × List Char :=
  match NumberLiteral.scan? cs with
  | some (l, rest) =>
    match l.value? with
    | some n => (.number (.ok (Doc.ofNumber n)), rest)
    | none => (.bad, [])
  | none => (.bad, [])

/-- Reads the token at the front of a text. -/
def next? : List Char → Option (Token × List Char)
  | [] => none
  | '[' :: rest => some (.openArray, rest)
  | ']' :: rest => some (.closeArray, rest)
  | '\x7b' :: rest => some (.openObject, rest)
  | '\x7d' :: rest => some (.closeObject, rest)
  | ':' :: rest => some (.colon, rest)
  | ',' :: rest => some (.comma, rest)
  | '"' :: rest => some (stringToken rest)
  | 'n' :: 'u' :: 'l' :: 'l' :: rest => some (.word .null, rest)
  | 't' :: 'r' :: 'u' :: 'e' :: rest => some (.word .true, rest)
  | 'f' :: 'a' :: 'l' :: 's' :: 'e' :: rest => some (.word .false, rest)
  | c :: rest => if isBlank c then next? rest else some (numberToken (c :: rest))

theorem length_of_scanString {cs s rest : List Char} (h : scanString cs = some (s, rest)) :
    rest.length < cs.length := by
  fun_induction scanString cs generalizing s <;>
    simp_all [consRead, Option.map_eq_some_iff] <;> grind

theorem length_stringToken (cs : List Char) : (stringToken cs).2.length ≤ cs.length := by
  unfold stringToken
  split
  · next h => exact Nat.le_of_lt (length_of_scanString h)
  · simp

theorem length_numberToken {cs : List Char} (hne : cs ≠ []) :
    (numberToken cs).2.length < cs.length := by
  have hpos := List.length_pos_iff.2 hne
  unfold numberToken
  split
  · next h =>
    split
    · exact NumberLiteral.length_of_scan? h
    · simpa
  · simpa

theorem length_of_next? {cs rest : List Char} {t : Token} (h : next? cs = some (t, rest)) :
    rest.length < cs.length := by
  fun_induction next? cs
  case case1 => simp at h
  case case8 tail =>
    have hlen := length_stringToken tail
    rw [Option.some.inj h] at hlen
    exact Nat.lt_succ_of_le hlen
  case case12 ih => exact Nat.lt_succ_of_lt (ih h)
  case case13 c tail _ _ _ _ _ _ _ _ _ _ _ =>
    have hlen := length_numberToken (List.cons_ne_nil c tail)
    rw [Option.some.inj h] at hlen
    exact hlen
  all_goals
    obtain ⟨_, rfl⟩ := Prod.mk.inj (Option.some.inj h)
    simp only [List.length_cons]
    omega

/-- The tokens of a text. -/
def tokens (cs : List Char) : List Token :=
  match _h : next? cs with
  | none => []
  | some (t, rest) => t :: tokens rest
termination_by cs.length
decreasing_by exact length_of_next? _h

end EventRouter.Json
