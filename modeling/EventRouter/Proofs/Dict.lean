import EventRouter.Dict

/-! The entries of a map and its lookups tell of the same pairs, and values that tell their keys are
different under different keys. -/

namespace EventRouter.Dict

variable {α β : Type}

theorem lookup_eq_some_iff_mem {l : List (String × α)} (hl : l.Pairwise fun a b => a.1 < b.1)
    {k : String} {v : α} : l.lookup k = some v ↔ (k, v) ∈ l := by
  induction l with
  | nil => simp
  | cons e rest ih =>
    have ⟨he, hrest⟩ := List.pairwise_cons.1 hl
    rw [lookup_cons_eq, List.mem_cons]
    split
    · next hk =>
      constructor
      · intro h
        exact .inl (Prod.ext hk (Option.some.inj h).symm)
      · rintro (rfl | hmem)
        · rfl
        · exact absurd (hk ▸ he _ hmem) (String.lt_irrefl _)
    · next hk =>
      rw [ih hrest]
      constructor
      · exact .inr
      · rintro (rfl | hmem)
        · exact absurd rfl hk
        · exact hmem

theorem mem_entries_iff {d : Dict α} {k : String} {v : α} :
    (k, v) ∈ d.entries ↔ d.get? k = some v :=
  (lookup_eq_some_iff_mem d.ascending).symm

/-- What holds of all values that lookups find holds of all entries. -/
theorem forall_mem_entries_iff {d : Dict α} {p : String → α → Prop} :
    (∀ e ∈ d.entries, p e.1 e.2) ↔ ∀ k v, d.get? k = some v → p k v :=
  ⟨fun h _ _ hv => h _ (mem_entries_iff.2 hv), fun h e he => h e.1 e.2 (mem_entries_iff.1 he)⟩

/-- Under different keys stand values with different attributes, if an attribute tells the key. -/
theorem nodup_map_values {d : Dict α} {f : α → β} {g : β → String}
    (h : ∀ k v, d.get? k = some v → g (f v) = k) : (d.values.map f).Nodup := by
  rw [values, List.map_map, List.Nodup, List.pairwise_map]
  refine d.ascending.imp_of_mem fun {a b} ha hb hlt hattribute => ?_
  have hkey : a.1 = b.1 := by
    rw [← h a.1 a.2 (mem_entries_iff.1 ha), ← h b.1 b.2 (mem_entries_iff.1 hb)]
    exact congrArg g hattribute
  exact String.lt_irrefl _ (hkey ▸ hlt)

theorem mem_values_iff {d : Dict α} {v : α} : v ∈ d.values ↔ ∃ k, d.get? k = some v := by
  simp only [values, List.mem_map, Prod.exists, exists_eq_right, mem_entries_iff]

/-! ### Maps from lists of entries -/

theorem nodup_keys (d : Dict α) : (d.entries.map (·.1)).Nodup := by
  refine List.pairwise_map.2 (d.ascending.imp fun {a b} hlt heq => ?_)
  exact String.lt_irrefl b.1 (heq ▸ hlt)

/-- Two maps with the same entries are equal. -/
theorem eq_of_perm {a b : Dict α} (h : a.entries.Perm b.entries) : a = b :=
  ext_get? fun k => Option.ext fun v => by rw [← mem_entries_iff, h.mem_iff, mem_entries_iff]

theorem insertEntry_perm {l : List (String × α)} {k : String} (v : α) (h : k ∉ l.map (·.1)) :
    (insertEntry k v l).Perm ((k, v) :: l) := by
  induction l with
  | nil => exact .refl _
  | cons e rest ih =>
    obtain ⟨hne, hrest⟩ := not_or.1 (mt List.mem_cons.2 h)
    unfold insertEntry
    rw [if_neg hne]
    split
    · exact .refl _
    · exact ((ih hrest).cons e).trans (.swap ..)

theorem entries_foldl_insert_perm {l : List (String × α)} {d : Dict α}
    (h : ((d.entries ++ l).map (·.1)).Nodup) :
    (l.foldl (fun d e => d.insert e.1 e.2) d).entries.Perm (d.entries ++ l) := by
  induction l generalizing d with
  | nil => simp
  | cons e rest ih =>
    have hfresh : e.1 ∉ d.entries.map (·.1) := fun hmem => by
      rw [List.map_append] at h
      exact (List.nodup_append.1 h).2.2 _ hmem _ List.mem_cons_self rfl
    have hinsert : ((d.insert e.1 e.2).entries ++ rest).Perm (d.entries ++ e :: rest) :=
      ((insertEntry_perm e.2 hfresh).append_right rest).trans List.perm_middle.symm
    exact (ih ((hinsert.map _).nodup_iff.2 h)).trans hinsert

/-- Entries with different keys are those of their map. -/
theorem entries_ofList_perm {l : List (String × α)} (h : (l.map (·.1)).Nodup) :
    (ofList l).entries.Perm l := entries_foldl_insert_perm h

/-- The entries of a map give the map again, in whatever order they come. -/
theorem ofList_of_perm {l : List (String × α)} {d : Dict α} (h : l.Perm d.entries) :
    ofList l = d :=
  eq_of_perm ((entries_ofList_perm ((h.map _).nodup_iff.2 d.nodup_keys)).trans h)

theorem ofList_entries (d : Dict α) : ofList d.entries = d := ofList_of_perm (.refl _)

theorem mem_of_mem_foldl_insert {l : List (String × α)} {d : Dict α} {e : String × α}
    (h : e ∈ (l.foldl (fun d e => d.insert e.1 e.2) d).entries) : e ∈ d.entries ∨ e ∈ l := by
  induction l generalizing d with
  | nil => exact .inl h
  | cons a rest ih =>
    rcases ih h with hinsert | hrest
    · rcases mem_insertEntry hinsert with rfl | hmem
      · exact .inr List.mem_cons_self
      · exact .inl hmem
    · exact .inr (List.mem_cons_of_mem _ hrest)

/-- A map from a list has no other entries than those in the list. -/
theorem mem_of_mem_ofList {l : List (String × α)} {e : String × α} (h : e ∈ (ofList l).entries) :
    e ∈ l :=
  (mem_of_mem_foldl_insert h).resolve_left List.not_mem_nil

theorem get?_foldl_insert (l : List (String × α)) (d : Dict α) (k : String) :
    (l.foldl (fun d e => d.insert e.1 e.2) d).get? k =
      ((l.filter (·.1 = k)).getLast?.map (·.2)).or (d.get? k) := by
  induction l generalizing d with
  | nil => rfl
  | cons e rest ih =>
    rw [List.foldl_cons, ih, get?_insert]
    by_cases hk : e.1 = k
    · rw [List.filter_cons_of_pos (by simpa using hk), List.getLast?_cons, if_pos hk.symm]
      cases (rest.filter (·.1 = k)).getLast? <;> rfl
    · rw [List.filter_cons_of_neg (by simpa using hk), if_neg (Ne.symm hk)]

/-- Of the entries under a key, a map from a list has the last one. -/
theorem get?_ofList (l : List (String × α)) (k : String) :
    (ofList l).get? k = (l.filter (·.1 = k)).getLast?.map (·.2) := by
  rw [ofList, get?_foldl_insert, get?_empty, Option.or_none]

/-! ### One entry among others -/

section Entry

variable {key : String} {front back : List (String × α)} {a : α}

/-- The map with a changed value under a key, if there is one. -/
def adjust (d : Dict α) (key : String) (change : α → α) : Dict α :=
  match d.get? key with
  | some a => d.insert key (change a)
  | none => d

theorem get?_adjust (d : Dict α) (key : String) (change : α → α) (k : String) :
    (d.adjust key change).get? k = if k = key then (d.get? key).map change else d.get? k := by
  unfold adjust
  cases hkey : d.get? key with
  | some a => simp
  | none => by_cases hk : k = key <;> simp [hk, hkey]

/-- An entry counts under its key unless a later one has the same key. -/
theorem get?_ofList_insert (front back : List (String × α)) (key : String) (a : α) (k : String) :
    (ofList (front ++ (key, a) :: back)).get? k =
      if k = key ∧ key ∉ back.map (·.1) then some a else (ofList (front ++ back)).get? k := by
  rw [get?_ofList, get?_ofList, List.filter_append, List.filter_append, List.getLast?_append,
    List.getLast?_append]
  by_cases hk : key = k
  · subst hk
    rw [List.filter_cons_of_pos (by simp), List.getLast?_cons]
    cases hlast : (back.filter (·.1 = key)).getLast? with
    | none =>
      have hback : key ∉ back.map (·.1) := by
        rw [List.getLast?_eq_none_iff, List.filter_eq_nil_iff] at hlast
        intro hmem
        obtain ⟨e, he, hkey⟩ := List.mem_map.1 hmem
        exact hlast e he (decide_eq_true hkey)
      rw [if_pos ⟨rfl, hback⟩]
      rfl
    | some e =>
      obtain ⟨hmem, hkey⟩ := List.mem_filter.1 (List.mem_of_getLast? hlast)
      have hback : key ∈ back.map (·.1) := List.mem_map.2 ⟨e, hmem, of_decide_eq_true hkey⟩
      rw [if_neg fun h => h.2 hback]
      rfl
  · rw [List.filter_cons_of_neg (by simpa using hk), if_neg fun h => hk h.1.symm]

theorem ofList_insert (hback : key ∉ back.map (·.1)) :
    ofList (front ++ (key, a) :: back) = (ofList (front ++ back)).insert key a := by
  refine ext_get? fun k => ?_
  rw [get?_ofList_insert, get?_insert]
  simp only [hback, not_false_eq_true, and_true]

/-- A changed entry changes the value under its key, unless a later one has the same key. -/
theorem ofList_adjust (front back : List (String × α)) (key : String) (a : α) (change : α → α) :
    ofList (front ++ (key, change a) :: back) =
      if key ∈ back.map (·.1) then ofList (front ++ (key, a) :: back)
      else (ofList (front ++ (key, a) :: back)).adjust key change := by
  refine ext_get? fun k => ?_
  rw [get?_ofList_insert]
  by_cases hback : key ∈ back.map (·.1)
  · simp [hback, get?_ofList_insert]
  · by_cases hk : k = key <;> simp [hback, hk, get?_adjust, get?_ofList_insert]

end Entry

end EventRouter.Dict
