import EventRouter.Doc.Basic
import EventRouter.Proofs.Dict

/-! Values with sorted objects. A value is read with its objects sorted, and sorting them again
changes nothing. -/

namespace EventRouter.Json

/-! ### Reading -/

mutual

/-- The document of a value has the sorted value. -/
theorem toJson_ofJson (j : Json) : (Doc.ofJson j).toJson = .ok j.sorted := by
  match j with
  | .null => rfl
  | .bool b => rfl
  | .number (.int n) => rfl
  | .number (.float x) => rfl
  | .string s => rfl
  | .array items =>
    rw [Doc.ofJson, Doc.toJson, toItems_ofItems items, sorted]
    rfl
  | .object members =>
    rw [Doc.ofJson, Doc.toJson, toMembers_ofMembers members, sorted]
    rfl

theorem toItems_ofItems (items : List Json) :
    Doc.toItems (Doc.ofItems items) = .ok (sortedItems items) := by
  match items with
  | [] => rfl
  | j :: rest =>
    rw [Doc.ofItems, Doc.toItems, toJson_ofJson j, toItems_ofItems rest, sortedItems]
    rfl

theorem toMembers_ofMembers (members : List (String × Json)) :
    Doc.toMembers (Doc.ofMembers members) = .ok (sortedMembers members) := by
  match members with
  | [] => rfl
  | (name, j) :: rest =>
    rw [Doc.ofMembers, Doc.toMembers, toJson_ofJson j, toMembers_ofMembers rest, sortedMembers]
    rfl

end

theorem eq_null_of_ofJson {j : Json} (h : Doc.ofJson j = .null) : j = .null := by
  cases j with
  | null => rfl
  | number n => cases n <;> contradiction
  | _ => contradiction

/-! ### Sorting again -/

theorem sortedMembers_eq_self {members : List (String × Json)}
    (h : ∀ m ∈ members, m.2.sorted = m.2) : sortedMembers members = members := by
  induction members with
  | nil => rfl
  | cons m rest ih =>
    have hfirst : m.2.sorted = m.2 := h m List.mem_cons_self
    rw [sortedMembers, hfirst, ih fun m hm => h m (List.mem_cons_of_mem _ hm)]

mutual

theorem sorted_sorted (j : Json) : j.sorted.sorted = j.sorted := by
  match j with
  | .null => rfl
  | .bool b => rfl
  | .number n => rfl
  | .string s => rfl
  | .array items => simp only [sorted, sortedItems_sortedItems items]
  | .object members =>
    have hsorted : sortedMembers (Dict.ofList (sortedMembers members)).entries =
        (Dict.ofList (sortedMembers members)).entries :=
      sortedMembers_eq_self fun m hm =>
        sorted_of_mem_sortedMembers members m (Dict.mem_of_mem_ofList hm)
    simp only [sorted, hsorted, Dict.ofList_entries]

theorem sortedItems_sortedItems (items : List Json) :
    sortedItems (sortedItems items) = sortedItems items := by
  match items with
  | [] => rfl
  | j :: rest => simp only [sortedItems, sorted_sorted j, sortedItems_sortedItems rest]

theorem sorted_of_mem_sortedMembers (members : List (String × Json)) :
    ∀ m ∈ sortedMembers members, m.2.sorted = m.2 := by
  match members with
  | [] => exact List.forall_mem_nil _
  | (name, j) :: rest =>
    exact List.forall_mem_cons.2 ⟨sorted_sorted j, sorted_of_mem_sortedMembers rest⟩

end

end EventRouter.Json
