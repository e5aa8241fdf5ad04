import EventRouter.Proofs.Decode.Record
import EventRouter.Proofs.Json.Order
import Mathlib.Data.List.Nodup

/-! Decoders and what they read. A value is read as something in whatever order the members of its
objects stand, from the value itself and from its text. This carries over from the parts of a
value to maps and records. -/

namespace EventRouter

theorem exists_of_forall₂ {α β : Type} {R : α → β → Prop} {as : List α} {bs : List β}
    (h : List.Forall₂ R as bs) {a : α} (ha : a ∈ as) : ∃ b ∈ bs, R a b := by
  obtain ⟨i, hi, rfl⟩ := List.getElem_of_mem ha
  exact ⟨bs.get ⟨i, h.length_eq ▸ hi⟩, List.get_mem .., h.get hi _⟩

/-! ### Values that a text can hold -/

namespace Json

variable {n : Nat}

/-- The text of a value can be read with at most `n` open brackets, and so can the texts of all
values that differ from it in the order of members. -/
structure Readable (n : Nat) (j : Json) : Prop where
  distinct : j.Distinct
  isIntegral : ∀ k : Json, k.Reorders j → k.isIntegral = true
  depth_le : ∀ k : Json, k.Reorders j → k.depth ≤ n

theorem readable_null : Readable n .null where
  distinct := trivial
  isIntegral k hk := by rw [hk.eq_null]; rfl
  depth_le k hk := by rw [hk.eq_null]; exact Nat.zero_le n

theorem readable_string (s : String) : Readable n (.string s) where
  distinct := trivial
  isIntegral k hk := by rw [hk.eq_string]; rfl
  depth_le k hk := by rw [hk.eq_string]; exact Nat.zero_le n

theorem readable_object {β : Type} {l : List β} {f : β → String × Json}
    (hnames : (l.map fun b => (f b).1).Nodup) (h : ∀ b ∈ l, (f b).2.Readable n) :
    (object (l.map f)).Readable (n + 1) := by
  have hmembers : ∀ k : Json, k.Reorders (.object (l.map f)) → ∃ members, k = .object members ∧
      ∀ m ∈ members, m.2.isIntegral = true ∧ m.2.depth ≤ n := by
    intro k hk
    obtain ⟨members, l', rfl, hperm, hmatch⟩ := hk.exists_members hnames
    refine ⟨members, rfl, fun m hm => ?_⟩
    obtain ⟨b, hb, -, hvalue⟩ := exists_of_forall₂ hmatch hm
    have hreadable := h b (hperm.mem_iff.1 hb)
    exact ⟨hreadable.isIntegral m.2 hvalue, hreadable.depth_le m.2 hvalue⟩
  refine ⟨⟨by rwa [List.map_map], distinctMembers_iff.2 fun m hm => ?_⟩, fun k hk => ?_,
    fun k hk => ?_⟩
  · obtain ⟨b, hb, rfl⟩ := List.mem_map.1 hm
    exact (h b hb).distinct
  · obtain ⟨members, rfl, hplain⟩ := hmembers k hk
    exact integralMembers_of_forall fun m hm => (hplain m hm).1
  · obtain ⟨members, rfl, hplain⟩ := hmembers k hk
    exact Nat.succ_le_succ (depthMembers_le fun m hm => (hplain m hm).2)

end Json

/-! ### Decoders -/

/-- A decoder reads a value as `a`, in whatever order the members of its objects stand. -/
structure Decoder.Reads {α : Type} (decode : Decoder α) (n : Nat) (j : Json) (a : α) : Prop
    extends j.Readable n where
  decode_eq : ∀ dialect (k : Json), k.Reorders j → decode dialect (.ofJson k) = .ok a

namespace Decoder

variable {α β : Type} {n : Nat} {value : Decoder α} {dialect : Dialect}

/-- What is read from the value is read from the text, too. -/
theorem Reads.run_eq {j k : Json} {a : α} (h : value.Reads n j a) (hn : n ≤ 127)
    (hk : k.Reorders j) : value.run (.value k) = .ok a ∧ value.run (.json k.text) = .ok a := by
  constructor
  · exact h.decode_eq .value k.sorted hk.sorted
  · rw [run_text value (h.isIntegral k hk) (Nat.le_trans (h.depth_le k hk) hn)]
    exact h.decode_eq .json k hk

theorem Reads.map {j : Json} {a : α} (h : value.Reads n j a) (put : α → β) :
    Reads (fun dialect d => put <$> value dialect d) n j (put a) where
  toReadable := h.toReadable
  decode_eq dialect k hk := by rw [h.decode_eq dialect k hk]; rfl

theorem reads_string (s : String) : string.Reads n (.string s) s where
  toReadable := Json.readable_string s
  decode_eq dialect k hk := by rw [hk.eq_string]; rfl

theorem reads_choice {choices : List (String × α)} {word : String} {a : α}
    (h : choices.lookup word = some a) : (choice choices).Reads n (.string word) a where
  toReadable := Json.readable_string word
  decode_eq dialect k hk := by
    have hchosen : chosen choices word = .ok a := by rw [chosen, h]
    rw [hk.eq_string]
    cases dialect <;> exact hchosen

theorem reads_option {write : α → Json} (hnull : ∀ a, write a ≠ .null)
    (h : ∀ a, value.Reads n (write a) a) (o : Option α) :
    (option value).Reads n (.ofOption write o) o := by
  cases o with
  | none =>
    refine ⟨Json.readable_null, fun dialect k hk => ?_⟩
    rw [hk.eq_null]
    rfl
  | some a =>
    refine ⟨(h a).toReadable, fun dialect k hk => ?_⟩
    have hdoc : Doc.ofJson k ≠ .null := mt Json.eq_null_of_ofJson (hk.ne_null (hnull a))
    rw [option, (h a).decode_eq dialect k hk]
    · rfl
    · exact hdoc

theorem entries_eq_ok {members : List (String × Json)} {l : List (String × α)}
    (h : List.Forall₂ (fun m e => m.1 = e.1 ∧ value dialect (.ofJson m.2) = .ok e.2) members l) :
    entries value dialect (Doc.ofMembers members) = .ok l := by
  induction h with
  | nil => rfl
  | cons hm _ ih =>
    obtain ⟨hname, hvalue⟩ := hm
    simp only [Doc.ofMembers, entries, Name.decode, bind, Except.bind, hvalue, ih, hname]
    rfl

theorem reads_dict {write : α → Json} (h : ∀ a, value.Reads n (write a) a) (d : Dict α) :
    (dict value).Reads (n + 1) (.ofDict write d) d := by
  have hnames : (d.entries.map fun e => ((e.1, write e.2) : String × Json).1).Nodup := d.nodup_keys
  refine ⟨Json.readable_object hnames fun e _ => (h e.2).toReadable, fun dialect k hk => ?_⟩
  obtain ⟨members, l, rfl, hperm, hmatch⟩ := hk.exists_members hnames
  have hentries : entries value dialect (Doc.ofMembers members) = .ok l :=
    entries_eq_ok (hmatch.imp fun m e hm => ⟨hm.1, (h e.2).decode_eq dialect m.2 hm.2⟩)
  rw [Doc.ofJson, dict, hentries]
  exact congrArg Except.ok (Dict.ofList_of_perm hperm)

end Decoder

/-! ### Records -/

/-- What is written for a field of a record, and what reading it changes about the record. -/
structure Slot (σ : Type) where
  name : String
  json : Json
  put : σ → σ

/-- A slot as a member of an object. -/
def Slot.member {σ : Type} (slot : Slot σ) : String × Json := (slot.name, slot.json)

/-- A field reads what is written for it. -/
structure Field.Reads {σ : Type} (n : Nat) (field : Field σ) (slot : Slot σ) : Prop where
  name : slot.name = field.name
  read : field.read.Reads n slot.json slot.put

namespace Decoder.Reads

variable {α σ : Type} {value : Decoder α} {n : Nat} {j : Json} {a : α} {name : String}
  {put : α → σ → σ}

theorem optional (h : value.Reads n j a) :
    (Field.optional name value put).Reads n ⟨name, j, put a⟩ := ⟨rfl, h.map put⟩

theorem needed (h : value.Reads n j a) :
    (Field.needed name value put).Reads n ⟨name, j, put a⟩ := ⟨rfl, h.map put⟩

end Decoder.Reads

namespace Schema

variable {σ : Type} {schema : Schema σ} {slots : List (Slot σ)} {n : Nat}

theorem field?_of_mem {field : Field σ} (hnames : schema.names.Nodup)
    (hfield : field ∈ schema.fields) : schema.field? field.name = some field := by
  cases hfound : schema.field? field.name with
  | none => exact absurd (List.mem_map_of_mem hfield) (field?_eq_none_iff.1 hfound)
  | some other =>
    have hother : other ∈ schema.fields := List.mem_of_find?_eq_some hfound
    have hname : other.name = field.name := by simpa using List.find?_some hfound
    rw [List.inj_on_of_nodup_map hnames hother hfield hname]

section Slots

variable (hfields : List.Forall₂ (Field.Reads n) schema.fields slots)
include hfields

theorem map_name_slots : slots.map Slot.name = schema.names := by
  have hnames : List.Forall₂ Eq (slots.map Slot.name) schema.names := by
    rw [names, List.forall₂_map_left_iff, List.forall₂_map_right_iff]
    exact .flip (hfields.imp fun _ _ h => h.name)
  rwa [List.forall₂_eq_eq_eq] at hnames

theorem exists_field (hnames : schema.names.Nodup) : ∀ slot ∈ slots, ∃ field : Field σ,
    schema.field? slot.name = some field ∧ field.read.Reads n slot.json slot.put := by
  intro slot hslot
  obtain ⟨field, hfield, hread⟩ :=
    exists_of_forall₂ (R := fun slot field => Field.Reads n field slot) hfields.flip hslot
  exact ⟨field, hread.name ▸ field?_of_mem hnames hfield, hread.read⟩

end Slots

/-- Members for different fields change the record as the fields do. -/
theorem readMembers_slots {dialect : Dialect} {other : String → Doc → Except Flaw (σ → σ)}
    {seen : List String} {record : σ} {members : List (String × Json)}
    (hfields : ∀ slot ∈ slots, ∃ field : Field σ, schema.field? slot.name = some field ∧
      field.read.Reads n slot.json slot.put)
    (hmatch : List.Forall₂ (fun m slot => m.1 = slot.name ∧ m.2.Reorders slot.json) members slots)
    (hnodup : (slots.map Slot.name).Nodup) (hseen : ∀ slot ∈ slots, slot.name ∉ seen) :
    schema.readMembers dialect other seen record (Doc.ofMembers members) =
      .ok ((slots.map Slot.name).reverse ++ seen, slots.foldl (fun r s => s.put r) record) := by
  induction hmatch generalizing seen record with
  | nil => rfl
  | @cons m slot _ _ hm _ ih =>
    obtain ⟨⟨field, hfield, hread⟩, hfields⟩ := List.forall_mem_cons.1 hfields
    obtain ⟨hfirst, hseen⟩ := List.forall_mem_cons.1 hseen
    obtain ⟨hfresh, hnodup⟩ := List.nodup_cons.1 hnodup
    have hput := hread.decode_eq dialect m.2 hm.2
    rw [Doc.ofMembers, hm.1, readMembers_field hfield hfirst hput, ih hfields hnodup]
    · simp
    · intro s hs
      rw [List.mem_cons, not_or]
      exact ⟨fun heq => hfresh (heq ▸ List.mem_map_of_mem hs), hseen s hs⟩

/-- If the order does not matter in which two fields are put, it does not matter for all of them. -/
theorem foldl_put_perm {slots' : List (Slot σ)} (h : slots'.Perm slots) (record : σ)
    (hcommute : slots.Pairwise fun s t => ∀ r, t.put (s.put r) = s.put (t.put r)) :
    slots'.foldl (fun r s => s.put r) record = slots.foldl (fun r s => s.put r) record := by
  have hputs : ∀ s ∈ slots, ∀ t ∈ slots, ∀ r, t.put (s.put r) = s.put (t.put r) :=
    hcommute.forall_of_forall_of_flip (fun _ _ _ => rfl) (hcommute.imp fun h r => (h r).symm)
  exact (h.symm.foldl_eq' hputs record).symm

/-- A record is read in whatever order its members stand, if all members are for different fields
and the order does not matter in which they are put. -/
theorem reads {j : Json} {a : σ} (hfields : List.Forall₂ (Field.Reads n) schema.fields slots)
    (hj : j = .object (slots.map Slot.member)) (hnames : schema.names.Nodup)
    (hcommute : slots.Pairwise fun s t => ∀ r, t.put (s.put r) = s.put (t.put r))
    (hfill : slots.foldl (fun r s => s.put r) schema.blank = a) :
    schema.decode.Reads (n + 1) j a := by
  subst hj
  have hmap := map_name_slots hfields
  have hslots := exists_field hfields hnames
  have hnodup : (slots.map Slot.name).Nodup := hmap ▸ hnames
  refine ⟨Json.readable_object hnodup fun slot hslot => ?_, fun dialect k hk => ?_⟩
  · obtain ⟨field, -, hread⟩ := hslots slot hslot
    exact hread.toReadable
  · obtain ⟨members, slots', rfl, hperm, hmatch⟩ := hk.exists_members hnodup
    have hread : schema.readMembers dialect schema.refuseOther [] schema.blank
        (Doc.ofMembers members) = .ok ((slots'.map Slot.name).reverse ++ [],
          slots'.foldl (fun r s => s.put r) schema.blank) :=
      readMembers_slots (fun slot hslot => hslots slot (hperm.mem_iff.1 hslot)) hmatch
        ((hperm.map _).nodup_iff.2 hnodup) (fun _ _ => List.not_mem_nil)
    rw [Doc.ofJson, decode, ← hfill, ← foldl_put_perm hperm schema.blank hcommute]
    -- A member stands for every field, so none is missing.
    refine decodeMembers_of_readMembers hread fun field hfield _ => ?_
    rw [List.append_nil, List.mem_reverse, (hperm.map _).mem_iff, hmap]
    exact List.mem_map_of_mem hfield

end Schema

end EventRouter
