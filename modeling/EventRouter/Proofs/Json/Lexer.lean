import EventRouter.Json.Text
import EventRouter.Proofs.Json.Literal
import EventRouter.Proofs.Json.Tokens

/-! The compact text of a value, token by token. Strings come back with all of their characters, and
so do all numbers that are integers. -/

namespace EventRouter.Json

mutual

/-- Whether all numbers in a value are integers. -/
def isIntegral : Json → Bool
  | .number (.float _) => false
  | .array items => integralItems items
  | .object members => integralMembers members
  | _ => true

/-- Whether all numbers in the items of an array are integers. -/
def integralItems : List Json → Bool
  | [] => true
  | j :: rest => isIntegral j && integralItems rest

/-- Whether all numbers in the members of an object are integers. -/
def integralMembers : List (String × Json) → Bool
  | [] => true
  | (_, j) :: rest => isIntegral j && integralMembers rest

end

theorem integralMembers_of_forall {members : List (String × Json)}
    (h : ∀ m ∈ members, m.2.isIntegral = true) : integralMembers members = true := by
  induction members with
  | nil => rfl
  | cons m rest ih =>
    have hrest := ih fun m hm => h m (List.mem_cons_of_mem _ hm)
    exact Bool.and_eq_true_iff.2 ⟨h m List.mem_cons_self, hrest⟩

/-! ### Strings -/

theorem exists_of_length_four {cs : List Char} (h : cs.length = 4) :
    ∃ a b c d, cs = [a, b, c, d] := by
  obtain ⟨a, as, rfl⟩ := List.exists_cons_of_length_eq_add_one h
  obtain ⟨b, bs, rfl⟩ := List.exists_cons_of_length_eq_add_one (Nat.succ.inj h)
  obtain ⟨c, cs, rfl⟩ := List.exists_cons_of_length_eq_add_one (Nat.succ.inj (Nat.succ.inj h))
  obtain ⟨d, rfl⟩ := List.length_eq_one_iff.1 (Nat.succ.inj (Nat.succ.inj (Nat.succ.inj h)))
  exact ⟨a, b, c, d, rfl⟩

/-- A number below the halves of characters, written with four digits, is read again. -/
theorem exists_four_digits {n : Nat} (hn : n < 0xd800) : ∃ a b c d,
    Numeral.writePadded 16 4 n = [a, b, c, d] ∧ Numeral.read? 16 [a, b, c, d] = some n := by
  have hlength : (Numeral.writePadded 16 4 n).length = 4 :=
    Numeral.length_writePadded (by decide) (Nat.lt_trans hn (by decide))
  have hread : Numeral.read? 16 (Numeral.writePadded 16 4 n) = some n := by
    rw [Numeral.read?, if_neg (by simp [Numeral.writePadded_ne_nil]),
      Numeral.readFrom?_writePadded (by decide) (by decide)]
  obtain ⟨a, b, c, d, hdigits⟩ := exists_of_length_four hlength
  exact ⟨a, b, c, d, hdigits, hdigits ▸ hread⟩

theorem isTrail_of_small {n : Nat} (hn : n < 0xd800) : isTrail n = false := by
  simp [isTrail]
  omega

theorem isLead_of_small {n : Nat} (hn : n < 0xd800) : isLead n = false := by
  simp [isLead]
  omega

theorem toNat_lt_of_control {c : Char} (h : c < ' ') : c.toNat < 0xd800 := by
  have hval : c.val.toNat < 32 := by
    simpa [Char.lt_def, UInt32.lt_iff_toNat_lt] using h
  exact Nat.lt_trans hval (by decide)

theorem scanString_unicode {n : Nat} (hn : n < 0xd800) (rest : List Char) :
    scanString ('\\' :: 'u' :: Numeral.writePadded 16 4 n ++ rest) =
      consRead (Char.ofNat n) (scanString rest) := by
  obtain ⟨a, b, c, d, hdigits, hread⟩ := exists_four_digits hn
  rw [hdigits]
  simp only [List.cons_append, List.nil_append]
  rw [scanString]
  simp [hread, isTrail_of_small hn, isLead_of_small hn]

theorem scanString_plain {c : Char} (hquote : c ≠ '"') (hslash : c ≠ '\\') (hcontrol : ¬ c < ' ')
    (rest : List Char) : scanString (c :: rest) = consRead c (scanString rest) := by
  have hnot : ¬ (c < ' ' ∨ c = '\\') := by simp [hcontrol, hslash]
  rw [scanString.eq_def]
  split
  case h_5 heq =>
    obtain ⟨rfl, rfl⟩ := List.cons.inj heq
    rw [if_neg hnot]
  all_goals simp_all

theorem scanString_escapeChar (c : Char) (rest : List Char) :
    scanString (escapeChar c ++ rest) = consRead c (scanString rest) := by
  unfold escapeChar
  split
  any_goals rfl
  next hquote hslash _ _ _ _ _ =>
    split
    · next hcontrol =>
      rw [List.cons_append, List.cons_append, ← List.cons_append, ← List.cons_append,
        scanString_unicode (toNat_lt_of_control hcontrol), Char.ofNat_toNat]
    · next hplain => exact scanString_plain hquote hslash hplain rest

theorem scanString_escape (cs rest : List Char) :
    scanString (cs.flatMap escapeChar ++ '"' :: rest) = some (cs, rest) := by
  induction cs with
  | nil => rfl
  | cons c cs ih =>
    rw [List.flatMap_cons, List.append_assoc, scanString_escapeChar, ih]
    rfl

/-! ### Tokens -/

variable {cs rest : List Char}

theorem tokens_of_next? {t : Token} (h : next? cs = some (t, rest)) :
    tokens cs = t :: tokens rest := by
  rw [tokens]
  split <;> simp_all

@[simp] theorem tokens_nil : tokens [] = [] := by
  rw [tokens]
  rfl

theorem tokens_string (s : String) (rest : List Char) :
    tokens (renderString s ++ rest) = .string (.ok s) :: tokens rest := by
  refine tokens_of_next? ?_
  have hscan : stringToken (s.toList.flatMap escapeChar ++ '"' :: rest) =
      (.string (.ok s), rest) := by
    rw [stringToken, scanString_escape]
    dsimp only
    rw [String.ofList_toList]
  rw [renderString, List.append_assoc, List.cons_append, next?, List.singleton_append, hscan]

theorem next?_of_numeral {c : Char} (hc : c.isDigit = true ∨ c = '-') :
    next? (c :: cs) = some (numberToken (c :: cs)) := by
  have hblank : isBlank c = false := by
    refine Bool.eq_false_iff.2 fun hblank => ?_
    simp only [isBlank, Bool.or_eq_true, decide_eq_true_eq] at hblank
    rcases hblank with ((rfl | rfl) | rfl) | rfl <;> revert hc <;> decide
  unfold next?
  split <;> simp_all

theorem tokens_number (n : Integer) (hrest : ∀ c ∈ rest.head?, NumberLiteral.continues c = false) :
    tokens (Numeral.writeInt n.val ++ rest) = .number (.ok (.int n)) :: tokens rest := by
  have htoken : numberToken (Numeral.writeInt n.val ++ rest) = (.number (.ok (.int n)), rest) := by
    rw [numberToken, NumberLiteral.scan?_writeInt n.val hrest]
    dsimp only
    rw [NumberLiteral.value?_writeInt]
    rfl
  obtain ⟨c, tail, hcons, hc⟩ := Numeral.writeInt_eq_cons n.val
  refine tokens_of_next? ?_
  rw [← htoken, hcons, List.cons_append]
  exact next?_of_numeral hc

theorem Ends.not_continues (h : Ends rest) :
    ∀ c ∈ rest.head?, NumberLiteral.continues c = false := by
  intro c hc
  rcases h c hc with rfl | rfl | rfl <;> rfl

/-- Of the numbers in a JSON text, the integers can be told from what follows them. -/
theorem splits_tokens : Splits tokens (fun _ => True) fun n => ∃ i, n = .int i where
  openArray _ := tokens_of_next? rfl
  closeArray _ := tokens_of_next? rfl
  openObject _ := tokens_of_next? rfl
  closeObject _ := tokens_of_next? rfl
  colon _ := tokens_of_next? rfl
  comma _ := tokens_of_next? rfl
  null _ := tokens_of_next? rfl
  true _ := tokens_of_next? rfl
  false _ := tokens_of_next? rfl
  string _ cs := tokens_string _ cs
  number := by
    rintro _ cs ⟨i, rfl⟩ hcs
    exact tokens_number i hcs.not_continues

mutual

theorem spelled_of_isIntegral (j : Json) (hj : j.isIntegral = true) :
    j.Spelled (fun _ => True) fun n => ∃ i, n = .int i := by
  match j with
  | .null | .bool _ | .string _ => trivial
  | .number (.int i) => exact ⟨i, rfl⟩
  | .array items => exact spelledItems_of_integral items hj
  | .object members => exact spelledMembers_of_integral members hj

theorem spelledItems_of_integral (items : List Json) (hitems : integralItems items = true) :
    SpelledItems (fun _ => True) (fun n => ∃ i, n = .int i) items := by
  match items with
  | [] => trivial
  | j :: rest =>
    obtain ⟨hfirst, hrest⟩ := Bool.and_eq_true_iff.1 hitems
    exact ⟨spelled_of_isIntegral j hfirst, spelledItems_of_integral rest hrest⟩

theorem spelledMembers_of_integral (members : List (String × Json))
    (hmembers : integralMembers members = true) :
    SpelledMembers (fun _ => True) (fun n => ∃ i, n = .int i) members := by
  match members with
  | [] => trivial
  | (_, j) :: rest =>
    obtain ⟨hfirst, hrest⟩ := Bool.and_eq_true_iff.1 hmembers
    exact ⟨trivial, spelled_of_isIntegral j hfirst, spelledMembers_of_integral rest hrest⟩

end

/-! ### Whole texts -/

/-- The compact text of a value reads as its document, if all its numbers are integers and brackets
do not nest more deeply than they may. -/
theorem read_text {j : Json} (hj : j.isIntegral = true) (hdepth : j.depth ≤ 127) :
    read j.text = .after (Doc.ofJson j) [] := by
  have htokens : tokens j.render = j.toTokens := by
    simpa using splits_tokens.render j (spelled_of_isIntegral j hj) [] ends_nil
  rw [read, text, String.toList_ofList, htokens]
  exact grammar.read_toTokens j fun limit hlimit => Option.some.inj hlimit ▸ hdepth

end EventRouter.Json
