/-! Splitting a text at every occurrence of a separator. Joining undoes splitting, and splitting
undoes joining for parts without separators. -/

namespace EventRouter.Text

/-- The parts between the separators: always one more than there are separators. -/
def split (sep : Char) : List Char → List (List Char)
  | [] => [[]]
  | c :: rest => if c = sep then [] :: split sep rest else (split sep rest).modifyHead (c :: ·)

/-- The parts, leaving out the last one if it is empty: the separator ends a part. -/
def splitTerminated (sep : Char) (cs : List Char) : List (List Char) :=
  let parts := split sep cs
  if parts.getLast? = some [] then parts.dropLast else parts

/-- The parts with the separator between them. -/
def join (sep : Char) (parts : List (List Char)) : List Char := [sep].intercalate parts

theorem split_ne_nil (sep : Char) (cs : List Char) : split sep cs ≠ [] := by
  induction cs with
  | nil => simp [split]
  | cons c rest ih =>
    unfold split
    split
    · simp
    · cases h : split sep rest with
      | nil => exact absurd h ih
      | cons part parts => simp

theorem length_split (sep : Char) (cs : List Char) :
    (split sep cs).length = cs.count sep + 1 := by
  induction cs with
  | nil => rfl
  | cons c rest ih =>
    unfold split
    split <;> simp_all

theorem join_cons {sep : Char} {part : List Char} {parts : List (List Char)} (h : parts ≠ []) :
    join sep (part :: parts) = part ++ sep :: join sep parts := by
  cases parts with
  | nil => exact absurd rfl h
  | cons next rest => simp [join, List.intercalate]

theorem join_modifyHead (sep c : Char) {parts : List (List Char)} (h : parts ≠ []) :
    join sep (parts.modifyHead (c :: ·)) = c :: join sep parts := by
  match parts with
  | [] => exact absurd rfl h
  | [part] => simp [join, List.intercalate]
  | part :: next :: rest => simp [join, List.intercalate]

/-- Splitting loses nothing. -/
theorem join_split (sep : Char) (cs : List Char) : join sep (split sep cs) = cs := by
  induction cs with
  | nil => simp [split, join, List.intercalate]
  | cons c rest ih =>
    unfold split
    split
    · next h => rw [join_cons (split_ne_nil sep rest), ih, h, List.nil_append]
    · rw [join_modifyHead sep c (split_ne_nil sep rest), ih]

theorem not_mem_of_mem_split {sep : Char} {cs part : List Char} (h : part ∈ split sep cs) :
    sep ∉ part := by
  induction cs generalizing part with
  | nil => simp_all [split]
  | cons c rest ih =>
    rw [split] at h
    split at h
    · rcases List.mem_cons.1 h with rfl | h
      · simp
      · exact ih h
    · next hc =>
      obtain ⟨first, parts, hparts⟩ := List.exists_cons_of_ne_nil (split_ne_nil sep rest)
      rw [hparts] at h ih
      rcases List.mem_cons.1 h with rfl | h
      · have := ih List.mem_cons_self
        simp_all [eq_comm]
      · exact ih (List.mem_cons_of_mem first h)

theorem split_of_not_mem {sep : Char} {part : List Char} (h : sep ∉ part) :
    split sep part = [part] := by
  induction part with
  | nil => rfl
  | cons c rest ih =>
    have ⟨hc, hrest⟩ : ¬ sep = c ∧ sep ∉ rest := by simpa using h
    rw [split, if_neg fun he => hc he.symm, ih hrest, List.modifyHead_cons]

/-- A separator behind a part without one ends the part. -/
theorem split_append_cons {sep : Char} {part : List Char} (h : sep ∉ part) (cs : List Char) :
    split sep (part ++ sep :: cs) = part :: split sep cs := by
  induction part with
  | nil => simp [split]
  | cons c rest ih =>
    have ⟨hc, hrest⟩ : ¬ sep = c ∧ sep ∉ rest := by simpa using h
    rw [List.cons_append, split, if_neg fun he => hc he.symm, ih hrest, List.modifyHead_cons]

/-- Parts without separators come back from the text that they are joined into. -/
theorem split_join {sep : Char} {parts : List (List Char)} (hne : parts ≠ [])
    (h : ∀ part ∈ parts, sep ∉ part) : split sep (join sep parts) = parts := by
  induction parts with
  | nil => exact absurd rfl hne
  | cons part rest ih =>
    have hpart := h part (by simp)
    by_cases hrest : rest = []
    · subst hrest
      simpa [join, List.intercalate] using split_of_not_mem hpart
    · rw [join_cons hrest, split_append_cons hpart,
        ih hrest fun p hp => h p (List.mem_cons_of_mem part hp)]

end EventRouter.Text
