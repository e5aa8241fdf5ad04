import EventRouter.Proofs.Decode.Members
import EventRouter.Proofs.Event.Document

/-! What becomes of the members of an object that is read as an event. Those that are for no field
are its extensions, with the values that they have; they and the data are written again as they were
read. -/

namespace EventRouter

/-- A document that cannot be the value of an extension. -/
inductive Doc.Unfit : Doc → Prop
  | null : Unfit .null
  | float (x : Binary64) : Unfit (.float x)
  | int (n : Integer) (h : n.val < -9223372036854775808 ∨ 9223372036854775807 < n.val) :
    Unfit (.int n)
  | array (items : List Doc) : Unfit (.array items)
  | object (members : List (Name × Doc)) : Unfit (.object members)

/-! ### Values -/

theorem Json.eq_some_of_decode_option {dialect : Dialect} {d : Doc} {o : Option Json}
    (h : Decoder.option Json.decode dialect d = .ok o) {j : Json} :
    o = some j ↔ d ≠ .null ∧ d.toJson = .ok j := by
  unfold Decoder.option at h
  split at h
  · simp [← Except.ok.inj h]
  · next hnull =>
    have hnull : d ≠ .null := hnull
    obtain ⟨k, hk, rfl⟩ := Except.map_eq_ok_iff.1 h
    simp [Json.decode_eq_ok_iff.1 hk, hnull]

theorem ExtensionValue.toJson_eq_ok_iff {d : Doc} {v : ExtensionValue} :
    d.toJson = .ok v.toJson ↔ d = Doc.ofJson v.toJson := by
  constructor
  · intro h
    cases d with
    | array items =>
      obtain ⟨values, -, h⟩ := Except.bind_eq_ok_iff.1 h
      cases v <;> cases h
    | object members =>
      obtain ⟨values, -, h⟩ := Except.bind_eq_ok_iff.1 h
      cases v <;> cases h
    | _ => cases v <;> cases h <;> rfl
  · rintro rfl
    cases v <;> rfl

theorem ExtensionValue.eq_toJson_of_ofJson {j : Json} {v : ExtensionValue}
    (h : Doc.ofJson j = Doc.ofJson v.toJson) : j = v.toJson := by
  have hvalue := toJson_eq_ok_iff.2 h
  rw [Json.toJson_ofJson] at hvalue
  have hsorted : j.sorted = v.toJson := Except.ok.inj hvalue
  cases j with
  | array items => cases v <;> cases hsorted
  | object members => cases v <;> cases hsorted
  | _ => exact hsorted

theorem Doc.Unfit.ne_ofJson {d : Doc} (h : d.Unfit) (v : ExtensionValue) :
    d ≠ Doc.ofJson v.toJson := by
  cases h with
  | int n h =>
    cases v with
    | int m =>
      have hleast := m.le_toInt
      have hgreatest := m.toInt_lt
      intro heq
      obtain rfl := Doc.int.inj heq
      simp only [Integer.ofInt64] at h
      omega
    | _ => exact fun heq => by cases heq
  | _ => exact fun heq => by cases v <;> cases heq

namespace Event

variable {dialect : Dialect} {members : List (Name × Doc)} {e : Event} {name : String}

/-! ### Extensions -/

/-- Whether a member is for no field of an event. -/
def isOther (m : Name × Doc) : Bool := m.1 ∉ schema.names.map Name.text

theorem isOther_of_field? {m : Name × Doc} (hname : m.1 = .text name) :
    isOther m = true ↔ schema.field? name = none := by
  simp [isOther, hname, Schema.field?_eq_none_iff]

/-- The members that are for no field are kept with their values. -/
theorem others_of_readMembers {seen : List String} {draft : Draft} {result : List String × Draft}
    (hread : schema.readMembers dialect (keepOther dialect) seen draft members = .ok result) :
    ∃ kept, result.2.others = draft.others ++ kept ∧
      List.Forall₂ (fun m x => m.1 = .text x.1 ∧ m.2.toJson = .ok x.2) (members.filter isOther)
        kept := by
  induction members generalizing seen draft with
  | nil =>
    obtain rfl := Except.ok.inj hread
    exact ⟨[], (List.append_nil _).symm, .nil⟩
  | cons m rest ih =>
    obtain ⟨x, put, hx, ⟨field, hfield, -, hput, hread⟩ | ⟨hfield, hput, hread⟩⟩ :=
      Schema.readMembers_cons_eq_ok hread
    · obtain ⟨kept, hkept, hmatch⟩ := ih hread
      have hother : ¬ isOther m = true := by simp [isOther_of_field? hx, hfield]
      rw [(changes_of_read (Schema.name_of_field? hfield).1 hput).others] at hkept
      rw [List.filter_cons_of_neg hother]
      exact ⟨kept, hkept, hmatch⟩
    · obtain ⟨kept, hkept, hmatch⟩ := ih hread
      obtain ⟨j, hj, rfl⟩ := keepOther_eq_ok_iff.1 hput
      rw [List.filter_cons_of_pos ((isOther_of_field? hx).2 hfield)]
      refine ⟨(x, j) :: kept, ?_, .cons ⟨hx, hj⟩ hmatch⟩
      rw [hkept, List.append_assoc, List.singleton_append]

/-- The extensions of an event are the members that are for no field. -/
theorem extensions_of_decode (h : decode dialect (.object members) = .ok e) :
    ∃ entries : List (String × ExtensionValue),
      members.filter isOther = entries.map (fun x => (.text x.1, .ofJson x.2.toJson)) ∧
      e.extensions = .ofList entries := by
  obtain ⟨draft, hdraft, h⟩ := Except.bind_eq_ok_iff.1 h
  obtain ⟨extensions, hextensions, h⟩ := Except.bind_eq_ok_iff.1 h
  obtain ⟨entries, hothers, rfl⟩ := extensionsOf_eq_ok_iff.1 hextensions
  obtain rfl := Except.ok.inj h
  obtain ⟨seen, hread⟩ := Schema.readMembers_of_decodeMembers hdraft
  obtain ⟨kept, hkept, hmatch⟩ := others_of_readMembers hread
  obtain rfl : entries.map (fun x => (x.1, x.2.toJson)) = kept := hothers.symm.trans hkept
  refine ⟨entries, ?_, rfl⟩
  rw [← List.forall₂_eq_eq_eq, List.forall₂_map_right_iff]
  rw [List.forall₂_map_right_iff] at hmatch
  exact hmatch.imp fun m x hm => Prod.ext hm.1 (ExtensionValue.toJson_eq_ok_iff.1 hm.2)

/-- Under each other name, an object has the extension of the event that it is read as. -/
theorem lastMember?_of_decode (h : decode dialect (.object members) = .ok e)
    (hname : name ∉ schema.names) :
    Doc.lastMember? name members = (e.extensions.get? name).map fun v => .ofJson v.toJson := by
  obtain ⟨entries, hothers, hextensions⟩ := extensions_of_decode h
  -- Members of this name are among those that became the entries, in the same order.
  have hfilter : members.filter (·.1 = .text name) =
      (members.filter isOther).filter (·.1 = .text name) := by
    rw [List.filter_filter]
    refine List.filter_congr fun m _ => ?_
    by_cases hm : m.1 = .text name <;> simp [hm, isOther, hname]
  have hentries : (entries.map fun x => ((.text x.1, .ofJson x.2.toJson) : Name × Doc)).filter
      (·.1 = .text name) =
      (entries.filter (·.1 = name)).map fun x => (.text x.1, .ofJson x.2.toJson) := by
    simp [List.filter_map, Function.comp_def]
  rw [hextensions, Dict.get?_ofList, Doc.lastMember?, hfilter, hothers, hentries, List.getLast?_map,
    Option.map_map, Option.map_map]
  rfl

theorem decode_eq_error_of_unfit {d : Doc} (hmem : (.text name, d) ∈ members)
    (hname : name ∉ schema.names) (hunfit : d.Unfit) :
    ∃ f, decode dialect (.object members) = .error f := by
  cases h : decode dialect (.object members) with
  | error f => exact ⟨f, rfl⟩
  | ok e =>
    obtain ⟨entries, hothers, -⟩ := extensions_of_decode h
    have hother : (.text name, d) ∈ members.filter isOther :=
      List.mem_filter.2 ⟨hmem, by simp [isOther, hname]⟩
    rw [hothers] at hother
    obtain ⟨x, -, heq⟩ := List.mem_map.1 hother
    exact absurd (Prod.ext_iff.1 heq).2.symm (hunfit.ne_ofJson x.2)

/-! ### Data -/

theorem keeps_data :
    schema.Keeps dialect (keepOther dialect) "data" fun draft => draft.event.data where
  field field hfield hname d put hput record := (changes_of_read hfield hput).data hname record
  other name d put hput record := by
    obtain ⟨j, -, rfl⟩ := keepOther_eq_ok_iff.1 hput
    rfl

/-- The data of an event are what its object has under their name, if that is not `null`. -/
theorem data_of_decode (h : decode dialect (.object members) = .ok e) {j : Json} :
    e.data = some j ↔
      ∃ d, Doc.lastMember? "data" members = some d ∧ d ≠ .null ∧ d.toJson = .ok j := by
  obtain ⟨draft, hdraft, h⟩ := Except.bind_eq_ok_iff.1 h
  obtain ⟨extensions, -, h⟩ := Except.bind_eq_ok_iff.1 h
  obtain ⟨seen, hread⟩ := Schema.readMembers_of_decodeMembers hdraft
  obtain rfl := Except.ok.inj h
  cases hlast : Doc.lastMember? "data" members with
  | none =>
    have hnone : draft.event.data = none := keeps_data.view_eq (by decide) hread
      (.inr (Doc.lastMember?_eq_none_iff.1 hlast))
    simp [hnone]
  | some d =>
    obtain ⟨put, record, hput, hdata⟩ :=
      keeps_data.view_of_mem rfl hread (Doc.mem_of_lastMember? hlast)
    obtain ⟨o, ho, rfl⟩ := Except.map_eq_ok_iff.1 hput
    have hdata : draft.event.data = o := hdata
    simp [hdata, Json.eq_some_of_decode_option ho]

/-! ### Writing -/

theorem sublist_fieldMembers (e : Event) : (e.fieldMembers.map (·.1)).Sublist schema.names := by
  have hoptional : ∀ {α : Type} (name : String) (f : α → Json) (o : Option α),
      ((optionalMember name f o).map (·.1)).Sublist [name] := by
    intro α name f o
    cases o <;> simp [optionalMember]
  simp only [fieldMembers, List.map_append]
  exact ((((((List.Sublist.refl _).append (hoptional ..)).append (hoptional ..)).append
    (hoptional ..)).append (hoptional ..)).append (hoptional ..)).append (hoptional ..)

theorem mem_extensionMembers_iff {j : Json} :
    (name, j) ∈ e.extensionMembers ↔ ∃ v, e.extensions.get? name = some v ∧ j = v.toJson := by
  simp only [extensionMembers, List.mem_map, Prod.exists, Prod.mk.injEq, Dict.mem_entries_iff]
  constructor
  · rintro ⟨x, v, hv, rfl, rfl⟩
    exact ⟨v, hv, rfl⟩
  · rintro ⟨v, hv, rfl⟩
    exact ⟨name, v, hv, rfl, rfl⟩

theorem name_mem_of_mem_fieldMembers {j : Json} (h : (name, j) ∈ e.fieldMembers) :
    name ∈ schema.names :=
  e.sublist_fieldMembers.subset (List.mem_map_of_mem h)

section Written

variable (h : decode dialect (.object members) = .ok e)
include h

theorem nodup_written : ((e.fieldMembers ++ e.extensionMembers).map (·.1)).Nodup := by
  have hextensions : (e.extensionMembers.map (·.1)).Nodup := by
    rw [extensionMembers, List.map_map]
    exact e.extensions.nodup_keys
  rw [List.map_append]
  refine List.nodup_append.2 ⟨e.sublist_fieldMembers.nodup (by decide), hextensions, ?_⟩
  rintro name hfield _ hextension rfl
  obtain ⟨m, hm, rfl⟩ := List.mem_map.1 hextension
  obtain ⟨v, hv, -⟩ := mem_extensionMembers_iff.1 hm
  rw [get?_extensions_of_decode h (e.sublist_fieldMembers.subset hfield)] at hv
  contradiction

theorem mem_written_iff_of_other (hname : name ∉ schema.names) {j : Json} :
    (name, j) ∈ e.fieldMembers ++ e.extensionMembers ↔
      Doc.lastMember? name members = some (.ofJson j) := by
  have hfield : (name, j) ∉ e.fieldMembers := fun hm => hname (name_mem_of_mem_fieldMembers hm)
  rw [List.mem_append, or_iff_right hfield, mem_extensionMembers_iff, lastMember?_of_decode h hname,
    Option.map_eq_some_iff]
  refine exists_congr fun v => and_congr_right fun _ => ?_
  constructor
  · rintro rfl
    rfl
  · exact fun hj => ExtensionValue.eq_toJson_of_ofJson hj.symm

theorem mem_written_data_iff {j : Json} :
    ("data", j) ∈ e.fieldMembers ++ e.extensionMembers ↔
      ∃ d, Doc.lastMember? "data" members = some d ∧ d ≠ .null ∧ d.toJson = .ok j := by
  have hextension : ("data", j) ∉ e.extensionMembers := by
    intro hm
    obtain ⟨v, hv, -⟩ := mem_extensionMembers_iff.1 hm
    rw [get?_extensions_of_decode h (by decide)] at hv
    contradiction
  have hfield : ("data", j) ∈ e.fieldMembers ↔ e.data = some j := by
    simp [fieldMembers]
  rw [List.mem_append, or_iff_left hextension, hfield, data_of_decode h]

theorem mem_written_data_iff_of_ofJson {j k : Json}
    (hlast : Doc.lastMember? "data" members = some (.ofJson k)) :
    ("data", j) ∈ e.fieldMembers ++ e.extensionMembers ↔ k ≠ .null ∧ j = k.sorted := by
  rw [mem_written_data_iff h, hlast]
  constructor
  · rintro ⟨d, hd, hnull, hj⟩
    obtain rfl := Option.some.inj hd
    rw [Json.toJson_ofJson] at hj
    exact ⟨fun hk => hnull (hk ▸ rfl), (Except.ok.inj hj).symm⟩
  · rintro ⟨hnull, rfl⟩
    exact ⟨_, rfl, mt Json.eq_null_of_ofJson hnull, Json.toJson_ofJson k⟩

theorem data_not_mem_written (hlast : Doc.lastMember? "data" members = none) (j : Json) :
    ("data", j) ∉ e.fieldMembers ++ e.extensionMembers := by
  rw [mem_written_data_iff h, hlast]
  rintro ⟨d, hd, -⟩
  contradiction

end Written

/-- If an object is read as an event, the extensions of the event are what the object has under all
names but those of fields, with the same booleans, integers and strings. Written again, the event
has each name once, those extensions as they were, and the value that the object has as data with
the members of its objects in order, unless that is `null` or there is none. An object is refused if
it has, under another name than those of fields, what is no boolean, no integer of 64 bits with sign
and no string. -/
theorem members_kept :
    (∀ (dialect : Dialect) (members : List (Name × Doc)) (e : Event),
      decode dialect (.object members) = .ok e →
        (∀ name, ((e.extensions.get? name).map fun v => Doc.ofJson v.toJson) =
          if name ∈ fieldNames then none else Doc.lastMember? name members) ∧
        ∃ written, e.toJson = .object written ∧ (written.map (·.1)).Nodup ∧
          (∀ name ∉ fieldNames, ∀ j, (name, j) ∈ written ↔
            Doc.lastMember? name members = some (.ofJson j)) ∧
          (∀ k, Doc.lastMember? "data" members = some (.ofJson k) →
            ∀ j, ("data", j) ∈ written ↔ k ≠ .null ∧ j = k.sorted) ∧
          (Doc.lastMember? "data" members = none → ∀ j, ("data", j) ∉ written)) ∧
    ∀ (dialect : Dialect) (members : List (Name × Doc)) (name : String) (d : Doc),
      (.text name, d) ∈ members → name ∉ fieldNames → d.Unfit →
        ∃ f, decode dialect (.object members) = .error f := by
  rw [← names_schema]
  refine ⟨fun dialect members e h => ⟨fun name => ?_, _, rfl, nodup_written h, fun name hname j =>
    mem_written_iff_of_other h hname, fun k hlast j => mem_written_data_iff_of_ofJson h hlast,
    data_not_mem_written h⟩, fun _ _ _ _ => decode_eq_error_of_unfit⟩
  split
  · next hname => rw [get?_extensions_of_decode h hname, Option.map_none]
  · next hname => exact (lastMember?_of_decode h hname).symm

/-- Names that are near to those of fields, the least integer, and data whose members are out of
order, one of them with a double. -/
theorem members_kept_of_near_names :
    let least : Integer := ⟨-9223372036854775808, by decide, by decide⟩
    let half : Json := .number (.float ⟨false, 4503599627370496, -53⟩)
    let data : Json := .object [("b", .array [.null, half]), ("a", .number (.int least))]
    let members : List (Name × Doc) := [
      (.text "data", .ofJson data), (.text "Id", .string "a"), (.text "schemaurl", .bool true),
      (.text "count", .int least), (.text "id", .string "e"), (.text "time", .null)]
    let e := { blank .v10 with
      id := "e"
      data := some (.object [("a", .number (.int least)), ("b", .array [.null, half])])
      extensions := .ofList [("Id", .string "a"), ("schemaurl", .bool true),
        ("count", .int (-9223372036854775808))] }
    decode .json (.object members) = .ok e ∧
      (∃ written, e.toJson = .object written ∧ ("count", .number (.int least)) ∈ written ∧
        ("data", .object [("a", .number (.int least)), ("b", .array [.null, half])]) ∈ written) ∧
      ∃ f, decode .json (.object ((.text "data_base64x", .null) :: members)) = .error f := by
  intro least half data members e
  have hread : decode .json (.object members) = .ok e := by decide +kernel
  obtain ⟨hkept, hrefused⟩ := members_kept
  obtain ⟨-, written, hwritten, -, hother, hdata, -⟩ := hkept .json members e hread
  have hnames : (members.map (·.1)).Nodup := by decide
  have hlast : Doc.lastMember? "data" members = some (.ofJson data) :=
    (Doc.lastMember?_eq_some_iff hnames).2 List.mem_cons_self
  have hnull : data ≠ .null := Json.noConfusion
  have hsorted : .object [("a", .number (.int least)), ("b", .array [.null, half])] =
      data.sorted := by decide +kernel
  refine ⟨hread, ⟨written, hwritten, (hother "count" (by decide) _).2 ?_,
      (hdata data hlast _).2 ⟨hnull, hsorted⟩⟩,
    hrefused .json _ "data_base64x" .null List.mem_cons_self (by decide) .null⟩
  exact (Doc.lastMember?_eq_some_iff hnames).2 (by simp [members, Doc.ofJson, Doc.ofNumber])

end Event

end EventRouter
