import EventRouter.Proofs.Text.Parts
import EventRouter.Trace.State
import Mathlib.Data.List.Basic
import Mathlib.Data.List.Forall2
import Mathlib.Tactic.MkIffOfInductiveProp

/-! The members of a trace state. A header is a list of members, each of them a key, at least one
`=` and a value; it has the entries of its members if all of them are valid, and none otherwise. -/

namespace EventRouter.TraceState

variable {part key value rest : List Char} {entry : String × String} {header : String}

/-! ### Keys and values -/

/-- A vendor behind the `@` of a key. -/
@[mk_iff]
structure IsVendor (vendor : List Char) : Prop where
  length_le : vendor.length ≤ 13
  begins : beginsWell vendor = true
  at_not_mem : '@' ∉ vendor

/-- A key of a trace state. -/
@[mk_iff]
structure IsKey (key : List Char) : Prop where
  length_le : key.length ≤ 256
  isKeyChar : ∀ c ∈ key, isKeyChar c = true
  begins : beginsWell key = true
  vendor : ∀ tenant vendor, key = tenant ++ '@' :: vendor → IsVendor vendor

/-- A value of a trace state. -/
@[mk_iff]
structure IsValue (value : List Char) : Prop where
  size_le : (String.ofList value).utf8ByteSize ≤ 256
  comma_not_mem : ',' ∉ value
  equals_not_mem : '=' ∉ value

theorem validVendor_eq_true_iff {vendor : List Char} :
    validVendor vendor = true ↔ IsVendor vendor := by
  simp [validVendor, isVendor_iff, and_assoc]

theorem validValue_eq_true_iff : validValue value = true ↔ IsValue value := by
  simp [validValue, isValue_iff, and_assoc]

theorem isVendor_iff_forall {tenant vendor : List Char} (h : '@' ∉ tenant) :
    IsVendor vendor ↔ ∀ tenant' vendor',
      tenant ++ '@' :: vendor = tenant' ++ '@' :: vendor' → IsVendor vendor' := by
  constructor
  -- A vendor has no `@`, so the first one in the key is the only one.
  · intro hvendor tenant' vendor' heq
    obtain ⟨-, -, rfl⟩ := (List.append_cons_inj_of_notMem h hvendor.at_not_mem).1 heq
    exact hvendor
  · intro hall
    exact hall tenant vendor rfl

theorem validKey_eq_true_iff : validKey key = true ↔ IsKey key := by
  simp only [isKey_iff, validKey, Bool.and_eq_true, decide_eq_true_eq, List.all_eq_true, and_assoc]
  refine and_congr_right fun _ => and_congr_right fun _ => and_congr_right fun _ => ?_
  by_cases hat : '@' ∈ key
  · obtain ⟨tenant, vendor, rfl, htenant⟩ := List.eq_append_cons_of_mem hat
    simp only [Text.dropWhile_ne_append htenant, validVendor_eq_true_iff]
    exact isVendor_iff_forall htenant
  · simp only [Text.dropWhile_ne_eq_nil hat, true_iff]
    rintro tenant vendor rfl
    simp at hat

theorem IsKey.equals_not_mem (h : IsKey key) : '=' ∉ key := fun hmem =>
  absurd (h.isKeyChar '=' hmem) (by decide)

/-! ### Members -/

/-- A member of a trace state, with its entry. -/
structure IsMember (part : List Char) (entry : String × String) : Prop where
  key : IsKey entry.1.toList
  value : IsValue entry.2.toList
  text : ∃ n, part = entry.1.toList ++ '=' :: (List.replicate n '=' ++ entry.2.toList)

theorem entry?_of_not_mem (h : '=' ∉ part) : entry? part = none := by
  unfold entry?
  rw [Text.dropWhile_ne_eq_nil h]

theorem entry?_append (h : '=' ∉ key) : entry? (key ++ '=' :: rest) =
    if validKey key && validValue (rest.dropWhile (· = '=')) then
      some (String.ofList key, String.ofList (rest.dropWhile (· = '=')))
    else none := by
  unfold entry?
  rw [Text.dropWhile_ne_append h, Text.takeWhile_ne_append h]
  rfl

theorem exists_equals_append (rest : List Char) :
    ∃ n, rest = List.replicate n '=' ++ rest.dropWhile (· = '=') := by
  refine ⟨(rest.takeWhile (· = '=')).length, ?_⟩
  have hequals : ∀ c ∈ rest.takeWhile (· = '='), c = '=' :=
    fun c hc => of_decide_eq_true (List.mem_takeWhile_imp (p := (· = '=')) hc)
  rw [← List.eq_replicate_of_mem hequals, List.takeWhile_append_dropWhile]

theorem dropWhile_equals_append (h : '=' ∉ value) (n : Nat) :
    (List.replicate n '=' ++ value).dropWhile (· = '=') = value := by
  have hequals : ∀ c ∈ List.replicate n '=', decide (c = '=') = true :=
    fun c hc => decide_eq_true (List.eq_of_mem_replicate hc)
  rw [List.dropWhile_append_of_pos hequals]
  cases value with
  | nil => rfl
  | cons c tail =>
    have hc : c ≠ '=' := fun heq => h (heq ▸ List.mem_cons_self)
    simp [hc]

theorem entry?_eq_some_iff : entry? part = some entry ↔ IsMember part entry := by
  constructor
  · intro h
    have hequals : '=' ∈ part := by
      by_contra hnot
      simp [entry?_of_not_mem hnot] at h
    obtain ⟨key, rest, rfl, hkey⟩ := List.eq_append_cons_of_mem hequals
    rw [entry?_append hkey, Option.ite_none_right_eq_some, Bool.and_eq_true,
      validKey_eq_true_iff, validValue_eq_true_iff] at h
    obtain ⟨⟨hkey, hvalue⟩, h⟩ := h
    obtain rfl := Option.some.inj h
    obtain ⟨n, hrest⟩ := exists_equals_append rest
    exact ⟨by simpa using hkey, by simpa using hvalue, n, by simpa using hrest⟩
  · intro h
    obtain ⟨n, rfl⟩ := h.text
    rw [entry?_append h.key.equals_not_mem, dropWhile_equals_append h.value.equals_not_mem,
      validKey_eq_true_iff.2 h.key, validValue_eq_true_iff.2 h.value]
    simp

/-! ### Headers -/

/-- The members of a header. -/
def members (header : String) : List (List Char) := Text.splitTerminated ',' header.toList

theorem mapM_entry?_eq_some_iff {parts : List (List Char)} {entries : TraceState} :
    parts.mapM entry? = some entries ↔ List.Forall₂ IsMember parts entries := by
  induction parts generalizing entries with
  | nil => cases entries <;> simp
  | cons part parts ih =>
    simp only [List.mapM_cons, bind, pure, Option.bind_eq_some_iff, entry?_eq_some_iff, ih,
      List.forall₂_cons_left_iff]
    constructor
    · rintro ⟨entry, hentry, rest, hrest, h⟩
      exact ⟨entry, rest, hentry, hrest, (Option.some.inj h).symm⟩
    · rintro ⟨entry, rest, hentry, hrest, rfl⟩
      exact ⟨entry, hentry, rest, hrest, rfl⟩

theorem parse?_eq_some_iff {entries : TraceState} :
    parse? header = some entries ↔ List.Forall₂ IsMember (members header) entries :=
  mapM_entry?_eq_some_iff

theorem ofHeader_of_members {entries : TraceState}
    (h : List.Forall₂ IsMember (members header) entries) : ofHeader header = entries := by
  rw [ofHeader, parse?_eq_some_iff.2 h, Option.getD_some]

theorem exists_of_mem {parts : List (List Char)} {entries : TraceState}
    (h : List.Forall₂ IsMember parts entries) : ∀ part ∈ parts, ∃ entry, IsMember part entry := by
  induction h with
  | nil => simp
  | cons hentry _ ih => exact List.forall_mem_cons.2 ⟨⟨_, hentry⟩, ih⟩

/-- One invalid member empties the trace state. -/
theorem ofHeader_of_invalid (hpart : part ∈ members header)
    (h : ∀ entry, ¬ IsMember part entry) : ofHeader header = [] := by
  cases hparse : parse? header with
  | none => rw [ofHeader, hparse, Option.getD_none]
  | some entries =>
    obtain ⟨entry, hentry⟩ := exists_of_mem (parse?_eq_some_iff.1 hparse) part hpart
    exact absurd hentry (h entry)

end EventRouter.TraceState
