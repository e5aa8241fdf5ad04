import EventRouter.Json5.Text
import EventRouter.Proofs.Json.Lexer

/-! The compact text of a JSON value, read as JSON5. JSON leaves two characters alone in a string
that JSON5 takes for the end of a line. A text without them reads as it does in JSON, and a text
with one of them is no JSON5. -/

namespace EventRouter.Json5

/-- Whether a character ends a line in JSON5 though a JSON text does not escape it. -/
def breaks (c : Char) : Bool := c = '\u2028' || c = '\u2029'

/-- No character of a text breaks a string of JSON5. -/
def Unbroken (s : String) : Prop := ∀ c ∈ s.toList, breaks c = false

instance (s : String) : Decidable (Unbroken s) := List.decidableBAll ..

/-! ### Strings -/

theorem scanString_plain {c : Char} (hquote : c ≠ '"') (hslash : c ≠ '\\')
    (hend : isLineEnd c = false) (rest : List Char) :
    scanString '"' (c :: rest) = consPiece (.char c) (scanString '"' rest) := by
  rw [scanString.eq_def]
  split
  case h_6 heq =>
    obtain ⟨rfl, rfl⟩ := List.cons.inj heq
    simp [hquote, hslash, hend]
  all_goals simp_all

/-- A character of a JSON text is read as a piece that stands for it. -/
theorem exists_piece {c : Char} (h : breaks c = false) : ∃ p : Piece,
    (∀ rest, scanString '"' (Json.escapeChar c ++ rest) = consPiece p (scanString '"' rest)) ∧
      ∀ pieces, joinPieces (p :: pieces) = (c :: ·) <$> joinPieces pieces := by
  unfold Json.escapeChar
  split
  -- Characters that JSON escapes with one character of their own.
  any_goals exact ⟨.escaped [_] _, fun _ => rfl, fun _ => rfl⟩
  next hquote hslash _ _ hline hreturn _ =>
    split
    · next hcontrol =>
      have hsmall := Json.toNat_lt_of_control hcontrol
      obtain ⟨d₁, d₂, d₃, d₄, hdigits, hread⟩ := Json.exists_four_digits hsmall
      -- A control character is neither half of a surrogate pair, so its unit stands alone.
      refine ⟨.unit c.toNat, fun rest => ?_, fun pieces => ?_⟩
      · rw [hdigits]
        simp only [List.cons_append, List.nil_append]
        rw [scanString]
        simp [hread]
      · rw [joinPieces.eq_def]
        simp [Json.isTrail_of_small hsmall, Json.isLead_of_small hsmall, Char.ofNat_toNat]
    · have hend : isLineEnd c = false := by
        simp only [breaks, isLineEnd] at h ⊢
        simp_all
      exact ⟨.char c, scanString_plain hquote hslash hend, fun _ => rfl⟩

theorem scanString_of_breaks {c : Char} (h : breaks c = true) (rest : List Char) :
    scanString '"' (Json.escapeChar c ++ rest) = none := by
  simp only [breaks, Bool.or_eq_true, decide_eq_true_eq] at h
  rcases h with rfl | rfl <;> rfl

theorem scanString_escape {cs : List Char} (h : ∀ c ∈ cs, breaks c = false) (rest : List Char) :
    ∃ pieces, scanString '"' (cs.flatMap Json.escapeChar ++ '"' :: rest) = some (pieces, rest) ∧
      joinPieces pieces = .ok cs := by
  induction cs with
  | nil => exact ⟨[], rfl, rfl⟩
  | cons c cs ih =>
    obtain ⟨hc, hcs⟩ := List.forall_mem_cons.1 h
    obtain ⟨p, hscan, hjoin⟩ := exists_piece hc
    obtain ⟨pieces, hpieces, htext⟩ := ih hcs
    refine ⟨p :: pieces, ?_, ?_⟩
    · rw [List.flatMap_cons, List.append_assoc, hscan, hpieces]
      rfl
    · rw [hjoin, htext]
      rfl

theorem scanString_escape_of_breaks {cs : List Char} (h : ¬ ∀ c ∈ cs, breaks c = false)
    (rest : List Char) : scanString '"' (cs.flatMap Json.escapeChar ++ rest) = none := by
  induction cs with
  | nil => exact absurd (List.forall_mem_nil _) h
  | cons c cs ih =>
    rw [List.flatMap_cons, List.append_assoc]
    by_cases hc : breaks c = false
    · obtain ⟨p, hscan, -⟩ := exists_piece hc
      have hcs : ¬ ∀ c ∈ cs, breaks c = false := fun hcs => h (List.forall_mem_cons.2 ⟨hc, hcs⟩)
      rw [hscan, ih hcs]
      rfl
    · exact scanString_of_breaks (by simpa using hc) _

/-! ### Tokens -/

variable {cs rest : List Char}

theorem tokens_nil : tokens [] = [] := by
  rw [tokens]
  rfl

theorem tokens_of_next? {t : Token} (h : next? cs = some (t, rest)) :
    tokens cs = t :: tokens rest := by
  cases rest with
  | nil =>
    rw [tokens, tokens_nil]
    split <;> simp_all
  | cons c rest =>
    rw [tokens]
    split <;> simp_all

theorem next?_quote (cs : List Char) : next? ('"' :: cs) = some (literalToken ('"' :: cs)) := rfl

theorem tokens_string {s : String} (h : Unbroken s) (rest : List Char) :
    tokens (Json.renderString s ++ rest) = .string (.ok s) :: tokens rest := by
  obtain ⟨pieces, hscan, hjoin⟩ := scanString_escape h rest
  have htext : textOf pieces = .ok s := by
    rw [textOf, hjoin]
    exact congrArg Except.ok s.ofList_toList
  refine tokens_of_next? ?_
  rw [Json.renderString, List.append_assoc, List.cons_append, List.singleton_append, next?_quote,
    literalToken, if_pos (.inl rfl), hscan]
  dsimp only
  rw [htext]

theorem tokens_string_of_broken {s : String} (h : ¬ Unbroken s) (rest : List Char) :
    tokens (Json.renderString s ++ rest) = [.bad] := by
  have hnext : next? (Json.renderString s ++ rest) = some (.bad, []) := by
    rw [Json.renderString, List.append_assoc, List.cons_append, next?_quote, literalToken,
      if_pos (.inl rfl), scanString_escape_of_breaks h]
  rw [tokens_of_next? hnext, tokens_nil]

/-! ### Words -/

theorem scanName_of_ends (h : Json.Ends rest) : scanName rest = ([], rest) := by
  cases rest with
  | nil => rfl
  | cons c rest =>
    have hc : continuesName c = false := by
      rcases h c rfl with rfl | rfl | rfl <;> decide +kernel
    have hslash : c ≠ '\\' := by
      rcases h c rfl with rfl | rfl | rfl <;> decide
    rw [scanName.eq_def]
    split <;> simp_all

theorem scanName_plain {name : List Char} (hname : name.all continuesName = true)
    (hrest : Json.Ends rest) :
    scanName (name ++ rest) = (name.map .char, rest) := by
  induction name with
  | nil => exact scanName_of_ends hrest
  | cons c name ih =>
    obtain ⟨hc, hname⟩ := Bool.and_eq_true_iff.1 hname
    have hslash : c ≠ '\\' := by
      rintro rfl
      revert hc
      decide +kernel
    rw [List.cons_append, scanName.eq_def]
    split
    case h_3 heq =>
      obtain ⟨rfl, rfl⟩ := List.cons.inj heq
      rw [if_pos hc, ih hname, List.map_cons]
    all_goals simp_all

theorem literalToken_word {name : List Char} {w : Word} (hword : wordOf? name = some w)
    (hrest : Json.Ends rest) :
    literalToken (name ++ rest) = (.word w, rest) := by
  unfold wordOf? at hword
  split at hword
  case h_6 => contradiction
  all_goals
    obtain rfl := Option.some.inj hword
    rw [List.cons_append, literalToken, if_neg (by decide), if_pos (by decide),
      ← List.cons_append, scanName_plain (by decide) hrest]
    rfl

theorem tokens_word (name : List Char) {w : Word} (hword : wordOf? name = some w)
    (hnext : next? (name ++ rest) = some (literalToken (name ++ rest)))
    (hrest : Json.Ends rest) :
    tokens (name ++ rest) = .word w :: tokens rest := by
  rw [literalToken_word hword hrest] at hnext
  exact tokens_of_next? hnext

/-! ### Values -/

/-- JSON5 splits the texts of values without numbers, if nothing in their strings breaks them. -/
theorem splits_tokens : Json.Splits tokens Unbroken fun _ => False where
  openArray _ := tokens_of_next? rfl
  closeArray _ := tokens_of_next? rfl
  openObject _ := tokens_of_next? rfl
  closeObject _ := tokens_of_next? rfl
  colon _ := tokens_of_next? rfl
  comma _ := tokens_of_next? rfl
  null hcs := tokens_word ['n', 'u', 'l', 'l'] rfl rfl hcs
  true hcs := tokens_word ['t', 'r', 'u', 'e'] rfl rfl hcs
  false hcs := tokens_word ['f', 'a', 'l', 's', 'e'] rfl rfl hcs
  string hs cs := tokens_string hs cs
  number hn := hn.elim

mutual

/-- Behind a string that is broken, a text has no more tokens. -/
theorem bad_mem_tokens_render (j : Json) (hj : j.Spelled (fun _ => True) fun _ => False)
    (hbroken : ¬ j.Spelled Unbroken fun _ => False) (rest : List Char) :
    .bad ∈ tokens (j.render ++ rest) := by
  match j with
  | .null | .bool _ | .array [] | .object [] => exact absurd trivial hbroken
  | .number n => exact hj.elim
  | .string s => simp [Json.render, tokens_string_of_broken hbroken]
  | .array (j :: items) =>
    have hrest := bad_mem_tokens_renderItems (j :: items) hj hbroken rest
    simpa [Json.render, Json.renderItems, splits_tokens.openArray, splits_tokens.comma] using hrest
  | .object ((name, j) :: members) =>
    have hrest := bad_mem_tokens_renderMembers ((name, j) :: members) hj hbroken rest
    simpa [Json.render, Json.renderMembers, splits_tokens.openObject, splits_tokens.comma]
      using hrest

theorem bad_mem_tokens_renderItems (items : List Json)
    (hitems : Json.SpelledItems (fun _ => True) (fun _ => False) items)
    (hbroken : ¬ Json.SpelledItems Unbroken (fun _ => False) items) (rest : List Char) :
    .bad ∈ tokens (Json.renderItems items ++ rest) := by
  match items with
  | [] => exact absurd trivial hbroken
  | j :: items =>
    obtain ⟨hfirst, hitems⟩ := hitems
    -- An item without broken strings is split off as in JSON, which leads to the next one.
    by_cases hj : j.Spelled Unbroken fun _ => False
    · have hrest := bad_mem_tokens_renderItems items hitems (fun h => hbroken ⟨hj, h⟩) rest
      have hfirst := splits_tokens.render j hj _ (Json.ends_renderItems items rest)
      simp [Json.renderItems, splits_tokens.comma, hfirst, hrest]
    · have hbad := bad_mem_tokens_render j hfirst hj (Json.renderItems items ++ rest)
      simp [Json.renderItems, splits_tokens.comma, hbad]

theorem bad_mem_tokens_renderMembers (members : List (String × Json))
    (hmembers : Json.SpelledMembers (fun _ => True) (fun _ => False) members)
    (hbroken : ¬ Json.SpelledMembers Unbroken (fun _ => False) members) (rest : List Char) :
    .bad ∈ tokens (Json.renderMembers members ++ rest) := by
  match members with
  | [] => exact absurd trivial hbroken
  | (name, j) :: members =>
    obtain ⟨-, hfirst, hmembers⟩ := hmembers
    by_cases hname : Unbroken name
    · by_cases hj : j.Spelled Unbroken fun _ => False
      · have hrest := bad_mem_tokens_renderMembers members hmembers
          (fun h => hbroken ⟨hname, hj, h⟩) rest
        have hfirst := splits_tokens.render j hj _ (Json.ends_renderMembers members rest)
        simp [Json.renderMembers, splits_tokens.comma, tokens_string hname, splits_tokens.colon,
          hfirst, hrest]
      · have hbad := bad_mem_tokens_render j hfirst hj (Json.renderMembers members ++ rest)
        simp [Json.renderMembers, splits_tokens.comma, tokens_string hname, splits_tokens.colon,
          hbad]
    · simp [Json.renderMembers, splits_tokens.comma, tokens_string_of_broken hname]

end

/-! ### Whole texts -/

variable {j : Json}

theorem read?_text (hj : j.Spelled Unbroken fun _ => False) :
    read? j.text = some (Doc.ofJson j) := by
  have htokens : tokens j.render = j.toTokens := by
    simpa [tokens_nil] using splits_tokens.render j hj [] Json.ends_nil
  have hread := grammar.read_toTokens j (fun limit hlimit => by contradiction)
  rw [read?, Json.text, String.toList_ofList, htokens, hread]
  rfl

theorem read?_text_of_broken (hj : j.Spelled (fun _ => True) fun _ => False)
    (hbroken : ¬ j.Spelled Unbroken fun _ => False) : read? j.text = none := by
  have hbad : .bad ∈ tokens j.render := by
    simpa using bad_mem_tokens_render j hj hbroken []
  have hwhole := grammar.not_isWhole_of_bad hbad
  rw [read?, Json.text, String.toList_ofList]
  simp [hwhole]

end EventRouter.Json5
