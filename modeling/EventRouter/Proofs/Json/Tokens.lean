import EventRouter.Json.Printer
import EventRouter.Proofs.Doc.Reader

/-! Compact texts, token by token. A lexer that splits off one token at a time from whatever follows
it splits the text of a value into the tokens of the value, as far as it takes the strings and the
numbers in it. -/

namespace EventRouter.Json

mutual

/-- All strings in a value, names of members included, have one property, and all numbers another
one. -/
def Spelled (p : String → Prop) (q : Number → Prop) : Json → Prop
  | .null | .bool _ => True
  | .number n => q n
  | .string s => p s
  | .array items => SpelledItems p q items
  | .object members => SpelledMembers p q members

/-- The same for the items of an array. -/
def SpelledItems (p : String → Prop) (q : Number → Prop) : List Json → Prop
  | [] => True
  | j :: rest => Spelled p q j ∧ SpelledItems p q rest

/-- The same for the members of an object. -/
def SpelledMembers (p : String → Prop) (q : Number → Prop) : List (String × Json) → Prop
  | [] => True
  | (name, j) :: rest => p name ∧ Spelled p q j ∧ SpelledMembers p q rest

end

theorem spelledMembers_iff {p : String → Prop} {q : Number → Prop}
    {members : List (String × Json)} :
    SpelledMembers p q members ↔ ∀ m ∈ members, p m.1 ∧ m.2.Spelled p q := by
  induction members with
  | nil => simp [SpelledMembers]
  | cons m rest ih => rw [SpelledMembers, ih, List.forall_mem_cons, and_assoc]

/-- What stands behind a value in a compact text: nothing, or what goes on with an array or an
object. -/
def Ends (rest : List Char) : Prop := ∀ c ∈ rest.head?, c = ',' ∨ c = ']' ∨ c = '\x7d'

theorem ends_nil : Ends [] := by
  intro c hc
  contradiction

theorem ends_renderItems (items : List Json) (rest : List Char) :
    Ends (renderItems items ++ rest) := by
  cases items <;> simp [Ends, renderItems]

theorem ends_renderMembers (members : List (String × Json)) (rest : List Char) :
    Ends (renderMembers members ++ rest) := by
  cases members with
  | nil => simp [Ends, renderMembers]
  | cons m members => simp [Ends, renderMembers]

/-- A lexer splits off the tokens of compact texts with such strings and numbers. -/
structure Splits (tokens : List Char → List Token) (p : String → Prop) (q : Number → Prop) :
    Prop where
  openArray : ∀ cs, tokens ('[' :: cs) = .openArray :: tokens cs
  closeArray : ∀ cs, tokens (']' :: cs) = .closeArray :: tokens cs
  openObject : ∀ cs, tokens ('\x7b' :: cs) = .openObject :: tokens cs
  closeObject : ∀ cs, tokens ('\x7d' :: cs) = .closeObject :: tokens cs
  colon : ∀ cs, tokens (':' :: cs) = .colon :: tokens cs
  comma : ∀ cs, tokens (',' :: cs) = .comma :: tokens cs
  null : ∀ {cs}, Ends cs → tokens ('n' :: 'u' :: 'l' :: 'l' :: cs) = .word .null :: tokens cs
  true : ∀ {cs}, Ends cs → tokens ('t' :: 'r' :: 'u' :: 'e' :: cs) = .word .true :: tokens cs
  false : ∀ {cs}, Ends cs →
    tokens ('f' :: 'a' :: 'l' :: 's' :: 'e' :: cs) = .word .false :: tokens cs
  string : ∀ {s}, p s → ∀ cs, tokens (renderString s ++ cs) = .string (.ok s) :: tokens cs
  number : ∀ {n cs}, q n → Ends cs →
    tokens (n.render ++ cs) = .number (.ok (Doc.ofNumber n)) :: tokens cs

namespace Splits

variable {tokens : List Char → List Token} {p : String → Prop} {q : Number → Prop}
  (h : Splits tokens p q)
include h

mutual

/-- The text of a value is split into the tokens of the value. -/
theorem render (j : Json) (hj : j.Spelled p q) (rest : List Char) (hrest : Ends rest) :
    tokens (j.render ++ rest) = j.toTokens ++ tokens rest := by
  match j with
  | .null => exact h.null hrest
  | .bool .true => exact h.true hrest
  | .bool .false => exact h.false hrest
  | .number n => exact h.number hj hrest
  | .string s => exact h.string hj rest
  | .array [] => simp [Json.render, toTokens, h.openArray, h.closeArray]
  | .array (j :: items) =>
    obtain ⟨hfirst, hitems⟩ := hj
    have hj := render j hfirst _ (ends_renderItems items rest)
    have hrest := renderItems items hitems rest
    simp [Json.render, toTokens, h.openArray, hj, hrest]
  | .object [] => simp [Json.render, toTokens, h.openObject, h.closeObject]
  | .object ((name, j) :: members) =>
    obtain ⟨hname, hfirst, hmembers⟩ := hj
    have hj := render j hfirst _ (ends_renderMembers members rest)
    have hrest := renderMembers members hmembers rest
    simp [Json.render, toTokens, h.openObject, h.string hname, h.colon, hj, hrest]

theorem renderItems (items : List Json) (hitems : SpelledItems p q items) (rest : List Char) :
    tokens (Json.renderItems items ++ rest) = itemTokens items ++ tokens rest := by
  match items with
  | [] => simp [Json.renderItems, itemTokens, h.closeArray]
  | j :: items =>
    obtain ⟨hfirst, hitems⟩ := hitems
    have hj := render j hfirst _ (ends_renderItems items rest)
    have hrest := renderItems items hitems rest
    simp [Json.renderItems, itemTokens, h.comma, hj, hrest]

theorem renderMembers (members : List (String × Json)) (hmembers : SpelledMembers p q members)
    (rest : List Char) :
    tokens (Json.renderMembers members ++ rest) = memberTokens members ++ tokens rest := by
  match members with
  | [] => simp [Json.renderMembers, memberTokens, h.closeObject]
  | (name, j) :: members =>
    obtain ⟨hname, hfirst, hmembers⟩ := hmembers
    have hj := render j hfirst _ (ends_renderMembers members rest)
    have hrest := renderMembers members hmembers rest
    simp [Json.renderMembers, memberTokens, h.comma, h.string hname, h.colon, hj, hrest]

end

end Splits

end EventRouter.Json
