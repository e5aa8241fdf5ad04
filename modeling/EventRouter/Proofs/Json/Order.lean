import EventRouter.Proofs.Json.Sorted
import EventRouter.Proofs.Json.Tokens
import Mathlib.Data.List.Perm.Basic

/-! The order of the members of objects. A value whose objects have no two members of one name is
determined by its sorted form, up to the order of the members. -/

namespace EventRouter.Json

/-! ### Names of members -/

mutual

/-- The members of every object in a value have different names. -/
def Distinct : Json → Prop
  | .array items => DistinctItems items
  | .object members => (members.map (·.1)).Nodup ∧ DistinctMembers members
  | _ => True

/-- The members of every object in the items of an array have different names. -/
def DistinctItems : List Json → Prop
  | [] => True
  | j :: rest => Distinct j ∧ DistinctItems rest

/-- The members of every object in the values of members have different names. -/
def DistinctMembers : List (String × Json) → Prop
  | [] => True
  | (_, j) :: rest => Distinct j ∧ DistinctMembers rest

end

theorem distinctMembers_iff {members : List (String × Json)} :
    DistinctMembers members ↔ ∀ m ∈ members, m.2.Distinct := by
  induction members with
  | nil => simp [DistinctMembers]
  | cons m rest ih => rw [DistinctMembers, ih, List.forall_mem_cons]

mutual

theorem distinct_sorted (j : Json) : j.sorted.Distinct := by
  match j with
  | .null | .bool _ | .number _ | .string _ => trivial
  | .array items => exact distinctItems_sortedItems items
  | .object members =>
    refine ⟨Dict.nodup_keys _, distinctMembers_iff.2 fun m hm => ?_⟩
    exact distinct_of_mem_sortedMembers members m (Dict.mem_of_mem_ofList hm)

theorem distinctItems_sortedItems (items : List Json) : DistinctItems (sortedItems items) := by
  match items with
  | [] => trivial
  | j :: rest => exact ⟨distinct_sorted j, distinctItems_sortedItems rest⟩

theorem distinct_of_mem_sortedMembers (members : List (String × Json)) :
    ∀ m ∈ sortedMembers members, m.2.Distinct := by
  match members with
  | [] => exact List.forall_mem_nil _
  | (name, j) :: rest =>
    exact List.forall_mem_cons.2 ⟨distinct_sorted j, distinct_of_mem_sortedMembers rest⟩

end

/-! ### Values in another order -/

/-- One value is the other with the members of its objects in another order, or in the same one. -/
structure Reorders (j k : Json) : Prop where
  distinct : j.Distinct
  sorted_eq : j.sorted = k.sorted

variable {j k : Json}

theorem Distinct.reorders (h : j.Distinct) : j.Reorders j := ⟨h, rfl⟩

theorem Reorders.sorted (h : j.Reorders k) : j.sorted.Reorders k :=
  ⟨distinct_sorted j, (sorted_sorted j).trans h.sorted_eq⟩

theorem eq_null_of_sorted (h : j.sorted = .null) : j = .null := by
  cases j with
  | null => rfl
  | _ => simp [Json.sorted] at h

theorem Reorders.eq_null (h : j.Reorders .null) : j = .null := eq_null_of_sorted h.sorted_eq

theorem Reorders.ne_null (h : j.Reorders k) (hk : k ≠ .null) : j ≠ .null := by
  rintro rfl
  exact hk (eq_null_of_sorted h.sorted_eq.symm)

theorem Reorders.eq_string {s : String} (h : j.Reorders (.string s)) : j = .string s := by
  have hsorted := h.sorted_eq
  cases j with
  | string t => simpa [Json.sorted] using hsorted
  | _ => simp [Json.sorted] at hsorted

theorem sortedMembers_eq_map (members : List (String × Json)) :
    sortedMembers members = members.map fun m => (m.1, m.2.sorted) := by
  induction members with
  | nil => rfl
  | cons m rest ih => rw [sortedMembers, ih, List.map_cons]

theorem perm_sortedMembers {members : List (String × Json)} (h : (members.map (·.1)).Nodup) :
    (Dict.ofList (sortedMembers members)).entries.Perm
      (members.map fun m => (m.1, m.2.sorted)) := by
  rw [sortedMembers_eq_map]
  exact Dict.entries_ofList_perm (by rwa [List.map_map])

/-- The members of a reordered object stand for the same things in another order. -/
theorem Reorders.exists_members {β : Type} {l : List β} {f : β → String × Json}
    (h : j.Reorders (.object (l.map f))) (hnames : (l.map fun b => (f b).1).Nodup) :
    ∃ members l', j = .object members ∧ l'.Perm l ∧
      List.Forall₂ (fun m b => m.1 = (f b).1 ∧ m.2.Reorders (f b).2) members l' := by
  obtain ⟨hdistinct, hsorted⟩ := h
  cases j with
  | object members =>
    obtain ⟨hnodup, hmembers⟩ := hdistinct
    rw [Json.sorted, Json.sorted, object.injEq] at hsorted
    -- Both lists of members are permutations of the one sorted list.
    have hperm : (members.map fun m => (m.1, m.2.sorted)).Perm
        ((l.map f).map fun m => (m.1, m.2.sorted)) := by
      refine (perm_sortedMembers hnodup).symm.trans ?_
      rw [hsorted]
      exact perm_sortedMembers (by rwa [List.map_map])
    have hsame : List.Forall₂ (fun m b => m = ((f b).1, (f b).2.sorted))
        ((l.map f).map fun m => (m.1, m.2.sorted)) l := by
      rw [List.map_map, List.forall₂_map_left_iff]
      exact List.forall₂_same.2 fun _ _ => rfl
    obtain ⟨l', hmatch, hl⟩ := List.perm_comp_forall₂ hperm hsame
    have hboth := (List.forall₂_and_left _ _).2
      ⟨distinctMembers_iff.1 hmembers, List.forall₂_map_left_iff.1 hmatch⟩
    refine ⟨members, l', rfl, hl, hboth.imp ?_⟩
    rintro m b ⟨hm, heq⟩
    obtain ⟨hname, hvalue⟩ := Prod.ext_iff.1 heq
    exact ⟨hname, hm, hvalue⟩
  | _ => simp [Json.sorted] at hsorted

/-! ### What holds of all strings and numbers -/

section Spelling

variable {p : String → Prop} {q : Number → Prop}

mutual

theorem spelled_sorted_iff (j : Json) (h : j.Distinct) : j.sorted.Spelled p q ↔ j.Spelled p q := by
  match j with
  | .null | .bool _ | .number _ | .string _ => rfl
  | .array items => exact spelledItems_sortedItems_iff items h
  | .object members =>
    obtain ⟨hnodup, hmembers⟩ := h
    have hperm := perm_sortedMembers hnodup
    rw [← sortedMembers_eq_map] at hperm
    rw [sorted, Spelled, Spelled, ← spelledMembers_sortedMembers_iff members hmembers]
    simp only [spelledMembers_iff, hperm.mem_iff]

theorem spelledItems_sortedItems_iff (items : List Json) (h : DistinctItems items) :
    SpelledItems p q (sortedItems items) ↔ SpelledItems p q items := by
  match items with
  | [] => rfl
  | j :: rest =>
    have hfirst := spelled_sorted_iff j h.1
    have hrest := spelledItems_sortedItems_iff rest h.2
    rw [sortedItems, SpelledItems, SpelledItems, hfirst, hrest]

theorem spelledMembers_sortedMembers_iff (members : List (String × Json))
    (h : DistinctMembers members) :
    SpelledMembers p q (sortedMembers members) ↔ SpelledMembers p q members := by
  match members with
  | [] => rfl
  | (name, j) :: rest =>
    have hfirst := spelled_sorted_iff j h.1
    have hrest := spelledMembers_sortedMembers_iff rest h.2
    rw [sortedMembers, SpelledMembers, SpelledMembers, hfirst, hrest]

end

/-- The order of members does not matter for what holds of all strings and numbers. -/
theorem Reorders.spelled_iff (h : j.Reorders k) (hk : k.Distinct) :
    j.Spelled p q ↔ k.Spelled p q := by
  rw [← spelled_sorted_iff j h.distinct, h.sorted_eq, spelled_sorted_iff k hk]

end Spelling

end EventRouter.Json
