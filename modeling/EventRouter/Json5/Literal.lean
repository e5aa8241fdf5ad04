import EventRouter.Doc.Basic
import EventRouter.Json.Lexer
import EventRouter.Text.Letter

/-! Strings, names and numbers as JSON5 texts write them. A literal that fits the grammar but has no
value, such as half of a character or an integer that is too large, keeps its fault. -/

namespace EventRouter.Json5

/-- The characters that end a line. -/
def isLineEnd (c : Char) : Bool := c = '\n' || c = '\r' || c = '\u2028' || c = '\u2029'

/-- A piece of a string or a name. -/
inductive Piece where
  /-- A character that stands for itself. -/
  | char (c : Char)
  /-- A character in an escape sequence, and what is written behind the backslash and an `x`. -/
  | escaped (written : List Char) (c : Char)
  /-- A code unit in an escape sequence. -/
  | unit (u : Nat)
deriving DecidableEq, Repr

/-- The hexadecimal number that a piece is written as, if it is one. -/
def Piece.hex? : Piece → Option Nat
  | char c => Numeral.read? 16 [c]
  | escaped written _ => Numeral.read? 16 written
  | unit u => some u

/-- The character of two halves. Its plane always has an odd number: halves of a character on a
plane with an even number give the one at the same place of the plane below. -/
def pairedChar (lead trail : Nat) : Char :=
  let n := (lead - 0xd800) * 0x400 + (trail - 0xdc00)
  Char.ofNat (if n / 0x10000 % 2 = 0 then n + 0x10000 else n)

/-- The text of the pieces. Behind the first half of a character, the next piece has to be written
as the number of a second half. -/
def joinPieces : List Piece → Except Fault (List Char)
  | [] => .ok []
  | .char c :: rest => (c :: ·) <$> joinPieces rest
  | .escaped _ c :: rest => (c :: ·) <$> joinPieces rest
  | .unit u :: rest =>
    if Json.isTrail u then .error .loneTrail
    else if Json.isLead u then
      match rest with
      | [] => .error .missingTrail
      | p :: rest =>
        match p.hex? with
        | none => .error .noTrailNumber
        | some v =>
          if Json.isTrail v then (pairedChar u v :: ·) <$> joinPieces rest
          else .error .wrongTrail
    else (Char.ofNat u :: ·) <$> joinPieces rest

/-- The text of the pieces as a string. -/
def textOf (pieces : List Piece) : Except Fault String := String.ofList <$> joinPieces pieces

/-! ### Strings -/

/-- The character for a letter behind a backslash; digits, `x` and `u` have other meanings. -/
def escaped? (c : Char) : Option Char :=
  match c with
  | 'b' => some '\x08'
  | 'f' => some '\x0c'
  | 'n' => some '\n'
  | 'r' => some '\r'
  | 't' => some '\t'
  | 'v' => some '\x0b'
  | '0' => some '\x00'
  | c => if c.isDigit ∨ c = 'x' ∨ c = 'u' then none else some c

/-- Adds a piece to the front of what was read. -/
def consPiece (p : Piece) (read : Option (List Piece × List Char)) :
    Option (List Piece × List Char) :=
  read.map fun r => (p :: r.1, r.2)

/-- Reads the rest of a string behind its opening quote. A line end has to stand behind a backslash
and then counts for nothing. -/
def scanString (quote : Char) : List Char → Option (List Piece × List Char)
  | [] => none
  | '\\' :: 'x' :: a :: b :: rest =>
    match Numeral.read? 16 [a, b] with
    | some u => consPiece (.escaped [a, b] (Char.ofNat u)) (scanString quote rest)
    | none => none
  | '\\' :: 'u' :: a :: b :: c :: d :: rest =>
    match Numeral.read? 16 [a, b, c, d] with
    | some u => consPiece (.unit u) (scanString quote rest)
    | none => none
  | '\\' :: '\r' :: '\n' :: rest => scanString quote rest
  | '\\' :: c :: rest =>
    if isLineEnd c then scanString quote rest
    else
      match escaped? c with
      | some e => consPiece (.escaped [c] e) (scanString quote rest)
      | none => none
  | c :: rest =>
    if c = quote then some ([], rest)
    else if isLineEnd c ∨ c = '\\' then none
    else consPiece (.char c) (scanString quote rest)

/-! ### Names -/

/-- Whether a name may begin with a character. -/
def startsName (c : Char) : Bool := c = '$' || c = '_' || Text.isLetter c

/-- Whether a name may go on with a character. -/
def continuesName (c : Char) : Bool :=
  startsName c || Text.isContinuing c || c = '\u200c' || c = '\u200d'

/-- Reads the characters of a name as far as they go. -/
def scanName : List Char → List Piece × List Char
  | [] => ([], [])
  | '\\' :: 'u' :: a :: b :: c :: d :: rest =>
    match Numeral.read? 16 [a, b, c, d] with
    | some u => ((.unit u) :: (scanName rest).1, (scanName rest).2)
    | none => ([], '\\' :: 'u' :: a :: b :: c :: d :: rest)
  | c :: rest =>
    if continuesName c then (.char c :: (scanName rest).1, (scanName rest).2)
    else ([], c :: rest)

/-! ### Numbers -/

/-- The sign of a number. -/
inductive Sign where
  | none
  | plus
  | minus
deriving DecidableEq, Repr

/-- The sign in front of a number, and the rest. -/
def scanSign : List Char → Sign × List Char
  | '+' :: rest => (.plus, rest)
  | '-' :: rest => (.minus, rest)
  | cs => (.none, cs)

/-- The value of hexadecimal digits: 32 bits without a sign. With a sign there is none, and the
fault says which kind of number the digits look like. -/
def hexValue (sign : Sign) (ds : List Char) : Except Fault Doc :=
  if sign = .none then
    match Numeral.read? 16 ds with
    | some n =>
      if h : n < 4294967296 then .ok (.int ⟨n, by omega, by omega⟩) else .error .hexOutOfRange
    | none => .error .hexOutOfRange
  else if ds.any fun c => c = 'e' || c = 'E' then .error .notANumber
  else .error .integerOutOfRange

/-- The value of an integer: 63 bits and a sign. -/
def integerValue (sign : Sign) (ds : List Char) : Except Fault Doc :=
  match Numeral.read? 10 ds with
  | none => .error .integerOutOfRange
  | some n =>
    match Integer.ofInt? (if sign = .minus then -(n : Int) else n) with
    | none => .error .integerOutOfRange
    | some n => if n.toInt64?.isSome then .ok (.int n) else .error .integerOutOfRange

/-- The value of a number with a point or an exponent: the nearest double. -/
def floatValue (sign : Sign) (whole fraction : List Char) (exponent : Option (Bool × List Char)) :
    Except Fault Doc :=
  let digits := (Numeral.read? 10 (whole ++ fraction)).getD 0
  let scale := NumberLiteral.exponentValue exponent - fraction.length
  match Binary64.ofDecimal? (sign = .minus) digits scale with
  | some x => .ok (.float x)
  | none => .error .numberTooLarge

/-- A special value; a plus in front of it makes it look like an integer. -/
def specialValue (sign : Sign) (d : Doc) : Except Fault Doc :=
  if sign = .plus then .error .integerOutOfRange else .ok d

/-- The digits before the point: a single zero, or digits that do not begin with one. -/
def scanWhole : List Char → List Char × List Char
  | '0' :: rest => (['0'], rest)
  | cs => NumberLiteral.digits cs

/-- Reads an exponent if there is a whole one. -/
def scanExponent (cs : List Char) : Option (Bool × List Char) × List Char :=
  (NumberLiteral.scanExponent? cs).getD (none, cs)

/-- Reads what follows the digits `whole` of a decimal number. -/
def scanBehind? (sign : Sign) (whole : List Char) :
    List Char → Option (Except Fault Doc × List Char)
  | '.' :: rest =>
    let (fraction, rest) := NumberLiteral.digits rest
    let (exponent, rest) := scanExponent rest
    if whole.isEmpty ∧ fraction.isEmpty then none
    else some (floatValue sign whole fraction exponent, rest)
  | cs =>
    if whole.isEmpty then none
    else
      match scanExponent cs with
      | (none, rest) => some (integerValue sign whole, rest)
      | (exponent, rest) => some (floatValue sign whole [] exponent, rest)

/-- Reads a decimal number behind its sign. -/
def scanDecimal? (sign : Sign) (cs : List Char) : Option (Except Fault Doc × List Char) :=
  scanBehind? sign (scanWhole cs).1 (scanWhole cs).2

/-- Whether a character is a hexadecimal digit. -/
def isHexDigit (c : Char) : Bool := (Numeral.digitValue? c).isSome

/-- Reads a number behind its sign. -/
def scanUnsigned? (sign : Sign) : List Char → Option (Except Fault Doc × List Char)
  | 'I' :: 'n' :: 'f' :: 'i' :: 'n' :: 'i' :: 't' :: 'y' :: rest =>
    some (specialValue sign (.infinity (sign = .minus)), rest)
  | 'N' :: 'a' :: 'N' :: rest => some (specialValue sign .nan, rest)
  | '0' :: x :: c :: rest =>
    if (x = 'x' ∨ x = 'X') ∧ isHexDigit c then
      some (hexValue sign ((c :: rest).takeWhile isHexDigit), (c :: rest).dropWhile isHexDigit)
    else scanDecimal? sign ('0' :: x :: c :: rest)
  | cs => scanDecimal? sign cs

/-- Reads a number. -/
def scanNumber? (cs : List Char) : Option (Except Fault Doc × List Char) :=
  scanUnsigned? (scanSign cs).1 (scanSign cs).2

/-! ### Reading takes characters away -/

theorem length_of_scanString {quote : Char} {cs rest : List Char} {ps : List Piece}
    (h : scanString quote cs = some (ps, rest)) : rest.length < cs.length := by
  fun_induction scanString quote cs generalizing ps <;>
    simp_all [consPiece, Option.map_eq_some_iff] <;> grind

theorem length_scanName (cs : List Char) :
    (scanName cs).2.length + (scanName cs).1.length ≤ cs.length := by
  fun_induction scanName cs <;> simp_all <;> omega

theorem length_scanSign (cs : List Char) : (scanSign cs).2.length ≤ cs.length := by
  unfold scanSign
  split <;> simp

theorem length_scanExponent (cs : List Char) : (scanExponent cs).2.length ≤ cs.length := by
  unfold scanExponent
  cases h : NumberLiteral.scanExponent? cs with
  | none => simp
  | some r =>
    obtain ⟨e, rest⟩ := r
    simpa using NumberLiteral.length_of_scanExponent? h

theorem length_scanWhole (cs : List Char) :
    (scanWhole cs).1.length + (scanWhole cs).2.length = cs.length := by
  unfold scanWhole
  split
  · simp; omega
  · exact NumberLiteral.length_digits _

theorem length_of_scanBehind? {sign : Sign} {whole cs rest : List Char} {d : Except Fault Doc}
    (h : scanBehind? sign whole cs = some (d, rest)) : rest.length < whole.length + cs.length := by
  unfold scanBehind? at h
  split at h
  · next tail =>
    have hd := NumberLiteral.length_digits tail
    have he := length_scanExponent (NumberLiteral.digits tail).2
    simp only at h
    split at h
    · simp at h
    · simp only [Option.some.injEq, Prod.mk.injEq] at h
      rw [← h.2, List.length_cons]
      omega
  · have he := length_scanExponent cs
    split at h
    · simp at h
    · next hne =>
      have hpos : 0 < whole.length := List.length_pos_iff.2 (by simpa using hne)
      split at h <;> next heq =>
        simp only [Option.some.injEq, Prod.mk.injEq] at h
        rw [heq] at he
        rw [← h.2]
        simp only at he
        omega

theorem length_of_scanDecimal? {sign : Sign} {cs rest : List Char} {d : Except Fault Doc}
    (h : scanDecimal? sign cs = some (d, rest)) : rest.length < cs.length :=
  length_scanWhole cs ▸ length_of_scanBehind? h

theorem length_of_scanUnsigned? {sign : Sign} {cs rest : List Char} {d : Except Fault Doc}
    (h : scanUnsigned? sign cs = some (d, rest)) : rest.length < cs.length := by
  unfold scanUnsigned? at h
  split at h
  · simp only [Option.some.injEq, Prod.mk.injEq] at h
    rw [← h.2]
    simp only [List.length_cons]
    omega
  · simp only [Option.some.injEq, Prod.mk.injEq] at h
    rw [← h.2]
    simp only [List.length_cons]
    omega
  · next x c tail =>
    split at h
    · simp only [Option.some.injEq, Prod.mk.injEq] at h
      rw [← h.2]
      have hsub : ((c :: tail).dropWhile isHexDigit).Sublist (c :: tail) :=
        List.dropWhile_sublist _
      have := hsub.length_le
      simp only [List.length_cons] at this ⊢
      omega
    · exact length_of_scanDecimal? h
  · exact length_of_scanDecimal? h

theorem length_of_scanNumber? {cs rest : List Char} {d : Except Fault Doc}
    (h : scanNumber? cs = some (d, rest)) : rest.length < cs.length :=
  Nat.lt_of_lt_of_le (length_of_scanUnsigned? h) (length_scanSign cs)

end EventRouter.Json5
