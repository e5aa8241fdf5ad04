import EventRouter.Text.Split

/-! The written form of one component of a key: the separator and the escape character are replaced
by escape sequences, so that joined components split back into what they were. -/

namespace EventRouter.Key

/-- The character between the components of a written key. -/
def separator : Char := '/'

/-- The written form of one character of a component. -/
def escapeChar (c : Char) : List Char :=
  if c = '/' then ['%', '2', 'F'] else if c = '%' then ['%', '2', '5'] else [c]

/-- The written form of a component. -/
def escape (cs : List Char) : List Char := cs.flatMap escapeChar

/-- The component with the given written form. An escape character that begins neither of the two
escape sequences is refused. -/
def unescape? : List Char → Option (List Char)
  | [] => some []
  | '%' :: '2' :: 'F' :: rest => ('/' :: ·) <$> unescape? rest
  | '%' :: '2' :: '5' :: rest => ('%' :: ·) <$> unescape? rest
  | c :: rest => if c = '%' then none else (c :: ·) <$> unescape? rest

@[simp] theorem escape_nil : escape [] = [] := rfl

@[simp] theorem escape_cons (c : Char) (cs : List Char) :
    escape (c :: cs) = escapeChar c ++ escape cs := rfl

theorem unescape?_escape (cs : List Char) : unescape? (escape cs) = some cs := by
  induction cs with
  | nil => rfl
  | cons c rest ih =>
    rw [escape_cons, escapeChar]
    split
    · simp [unescape?, *]
    · split
      · simp [unescape?, *]
      · simp [unescape?, *]

theorem not_mem_escape (cs : List Char) : separator ∉ escape cs := by
  simp only [escape, List.mem_flatMap, not_exists, not_and]
  intro c _
  unfold escapeChar
  split
  · decide
  · split
    · decide
    · simp_all [separator, eq_comm]

/-- A text without separators is the written form of what it is read as. -/
theorem eq_escape_of_unescape? {written cs : List Char} (hsep : separator ∉ written)
    (h : unescape? written = some cs) : written = escape cs := by
  fun_induction unescape? written generalizing cs with
  | case1 => simp_all
  | case2 rest ih =>
    obtain ⟨ds, hds, rfl⟩ := Option.map_eq_some_iff.1 h
    rw [escape_cons, ← ih (by simp_all) hds]
    rfl
  | case3 rest ih =>
    obtain ⟨ds, hds, rfl⟩ := Option.map_eq_some_iff.1 h
    rw [escape_cons, ← ih (by simp_all) hds]
    rfl
  | case4 => simp at h
  | case5 c rest _ _ hc ih =>
    obtain ⟨ds, hds, rfl⟩ := Option.map_eq_some_iff.1 h
    have ⟨hhead, hrest⟩ : ¬ separator = c ∧ separator ∉ rest := by simpa using hsep
    have hslash : c ≠ '/' := fun he => hhead he.symm
    rw [escape_cons, ← ih hrest hds, escapeChar, if_neg hslash, if_neg hc]
    rfl

end EventRouter.Key
