/-! Finite maps from strings to values. A map is the list of its entries in ascending key order, so
two maps with the same lookups are equal; any other order of the same entries is a permutation of
that list. -/

namespace EventRouter

/-- A finite map from strings, kept as its entries with strictly ascending keys. -/
structure Dict (α : Type) where
  entries : List (String × α)
  ascending : entries.Pairwise fun a b => a.1 < b.1

namespace Dict

variable {α β : Type}

instance [Repr α] : Repr (Dict α) := ⟨fun d n => reprPrec d.entries n⟩

instance [DecidableEq α] : DecidableEq (Dict α) := fun a b =>
  decidable_of_iff (a.entries = b.entries)
    ⟨fun h => by cases a; cases b; simp_all, fun h => h ▸ rfl⟩

/-- The map without entries. -/
def empty : Dict α := ⟨[], .nil⟩

instance : Inhabited (Dict α) := ⟨empty⟩

/-- Puts an entry at its place in an ascending list, over an entry with the same key. -/
def insertEntry (k : String) (v : α) : List (String × α) → List (String × α)
  | [] => [(k, v)]
  | e :: rest =>
    if k < e.1 then (k, v) :: e :: rest
    else if k = e.1 then (k, v) :: rest
    else e :: insertEntry k v rest

theorem mem_insertEntry {k : String} {v : α} {a : String × α} {l : List (String × α)}
    (h : a ∈ insertEntry k v l) : a = (k, v) ∨ a ∈ l := by
  induction l with
  | nil => simpa [insertEntry] using h
  | cons e rest ih =>
    unfold insertEntry at h
    split at h
    · simpa using h
    · split at h <;> simp only [List.mem_cons] at h ⊢
      · rcases h with h | h <;> simp [h]
      · rcases h with h | h
        · simp [h]
        · rcases ih h with h | h <;> simp [h]

theorem pairwise_insertEntry (k : String) (v : α) {l : List (String × α)}
    (h : l.Pairwise fun a b => a.1 < b.1) :
    (insertEntry k v l).Pairwise fun a b => a.1 < b.1 := by
  induction l with
  | nil => simp [insertEntry]
  | cons e rest ih =>
    have ⟨hhead, htail⟩ := List.pairwise_cons.1 h
    unfold insertEntry
    split
    · next hlt =>
      refine List.pairwise_cons.2 ⟨fun a ha => ?_, h⟩
      rcases List.mem_cons.1 ha with rfl | ha
      · exact hlt
      · exact String.lt_trans hlt (hhead a ha)
    · next hge =>
      split
      · next heq => exact List.pairwise_cons.2 ⟨fun a ha => heq ▸ hhead a ha, htail⟩
      · next hne =>
        refine List.pairwise_cons.2 ⟨fun a ha => ?_, ih htail⟩
        rcases mem_insertEntry ha with rfl | ha
        · rcases Std.lt_trichotomy e.1 k with hlt | heq | hgt
          · exact hlt
          · exact absurd heq.symm hne
          · exact absurd hgt hge
        · exact hhead a ha

/-- The map with a value under a key, replacing what was there. -/
def insert (d : Dict α) (k : String) (v : α) : Dict α :=
  ⟨insertEntry k v d.entries, pairwise_insertEntry k v d.ascending⟩

/-- The map without a key. -/
def erase (d : Dict α) (k : String) : Dict α :=
  ⟨d.entries.filter (·.1 ≠ k), d.ascending.filter _⟩

/-- The value under a key. -/
def get? (d : Dict α) (k : String) : Option α := d.entries.lookup k

/-- The number of entries. -/
def size (d : Dict α) : Nat := d.entries.length

/-- The keys in ascending order. -/
def keys (d : Dict α) : List String := d.entries.map (·.1)

/-- The values in the order of their keys. -/
def values (d : Dict α) : List α := d.entries.map (·.2)

/-- The entries put into an empty map one by one: the last one under a key stays. -/
def ofList (entries : List (String × α)) : Dict α :=
  entries.foldl (fun d e => d.insert e.1 e.2) empty

/-- The map with a function applied to every value. -/
def map (f : α → β) (d : Dict α) : Dict β :=
  ⟨d.entries.map fun e => (e.1, f e.2), List.pairwise_map.2 d.ascending⟩

/-! ### Lookups decide a map -/

@[simp] theorem get?_empty (k : String) : (empty : Dict α).get? k = none := rfl

theorem lookup_cons_eq (e : String × α) (l : List (String × α)) (k : String) :
    (e :: l).lookup k = if k = e.1 then some e.2 else l.lookup k := by
  obtain ⟨k', v⟩ := e
  by_cases h : k = k'
  · simp [h]
  · simp [List.lookup_cons, beq_eq_false_iff_ne.2 h, h]

theorem lookup_insertEntry (k : String) (v : α) (l : List (String × α)) (k' : String) :
    (insertEntry k v l).lookup k' = if k' = k then some v else l.lookup k' := by
  induction l with
  | nil => simp [insertEntry, lookup_cons_eq]
  | cons e rest ih => unfold insertEntry; grind [lookup_cons_eq]

theorem lookup_filter_ne (l : List (String × α)) (k k' : String) :
    (l.filter (·.1 ≠ k)).lookup k' = if k' = k then none else l.lookup k' := by
  induction l with
  | nil => simp
  | cons e rest ih => grind [lookup_cons_eq]

@[simp] theorem get?_insert (d : Dict α) (k : String) (v : α) (k' : String) :
    (d.insert k v).get? k' = if k' = k then some v else d.get? k' :=
  lookup_insertEntry k v d.entries k'

@[simp] theorem get?_erase (d : Dict α) (k k' : String) :
    (d.erase k).get? k' = if k' = k then none else d.get? k' :=
  lookup_filter_ne d.entries k k'

theorem lookup_eq_none_of_lt {l : List (String × α)} {k : String} (h : ∀ e ∈ l, k < e.1) :
    l.lookup k = none := by
  induction l with
  | nil => rfl
  | cons e rest ih =>
    have hne : k ≠ e.1 := by
      rintro rfl
      exact String.lt_irrefl _ (h e (by simp))
    rw [lookup_cons_eq, if_neg hne]
    exact ih fun e' he' => h e' (by simp [he'])

/-- The first key of an ascending list does not lie below that of a list with the same lookups. -/
theorem head_not_lt {x y : String × α} {l m : List (String × α)} (hm : ∀ z ∈ m, y.1 < z.1)
    (h : ∀ k, (x :: l).lookup k = (y :: m).lookup k) : ¬ x.1 < y.1 := by
  intro hlt
  have hnone : (y :: m).lookup x.1 = none := lookup_eq_none_of_lt fun z hz => by
    rcases List.mem_cons.1 hz with rfl | hz
    · exact hlt
    · exact String.lt_trans hlt (hm z hz)
  simpa [hnone, lookup_cons_eq] using h x.1

theorem eq_of_lookup_eq {a b : List (String × α)} (ha : a.Pairwise fun x y => x.1 < y.1)
    (hb : b.Pairwise fun x y => x.1 < y.1) (h : ∀ k, a.lookup k = b.lookup k) : a = b := by
  induction a generalizing b with
  | nil =>
    cases b with
    | nil => rfl
    | cons e _ => simpa [lookup_cons_eq] using h e.1
  | cons e rest ih =>
    have ⟨he, hrest⟩ := List.pairwise_cons.1 ha
    cases b with
    | nil => simpa [lookup_cons_eq] using h e.1
    | cons f tail =>
      have ⟨hf, htail⟩ := List.pairwise_cons.1 hb
      have hkey : e.1 = f.1 := by
        rcases Std.lt_trichotomy e.1 f.1 with hlt | heq | hgt
        · exact absurd hlt (head_not_lt hf h)
        · exact heq
        · exact absurd hgt (head_not_lt he fun k => (h k).symm)
      have hval : e.2 = f.2 := by
        have := h e.1
        simpa only [lookup_cons_eq, hkey, if_true, Option.some.injEq] using this
      have htails : rest = tail := ih hrest htail fun k => by
        by_cases hk : k = e.1
        · have hl : rest.lookup k = none := lookup_eq_none_of_lt fun z hz => hk ▸ he z hz
          have hr : tail.lookup k = none := lookup_eq_none_of_lt fun z hz => hk ▸ hkey ▸ hf z hz
          rw [hl, hr]
        · have := h k
          rwa [lookup_cons_eq, lookup_cons_eq, if_neg hk, if_neg (hkey ▸ hk)] at this
      rw [htails, Prod.ext hkey hval]

/-- Two maps that answer every lookup alike are equal. -/
theorem ext_get? {a b : Dict α} (h : ∀ k, a.get? k = b.get? k) : a = b := by
  have : a.entries = b.entries := eq_of_lookup_eq a.ascending b.ascending h
  cases a; cases b; simp_all

end Dict

end EventRouter
