import EventRouter.Event.Document
import EventRouter.Proofs.Decode.Record
import EventRouter.Proofs.Instant.Parser
import EventRouter.Proofs.Json.Sorted

/-! Decoding an event from the members that it is written with. Fields come back one by one, and
extensions come back if they do not have the name of a field; no extension with such a name is ever
read. -/

namespace EventRouter

variable {dialect : Dialect}

/-! ### Values of fields -/

theorem SpecVersion.decode_text (v : SpecVersion) :
    SpecVersion.decode dialect (.string v.text) = .ok v := by
  cases dialect <;> cases v <;> rfl

theorem Instant.decode_documentText (t : Instant) :
    Decoder.option Instant.decode dialect (.string t.documentText) = .ok (some t.carried) := by
  have ht : Instant.decode dialect (.string t.documentText) = .ok t.carried := by
    rw [Instant.decode, Instant.parse_documentText]
  rw [Decoder.option, ht]
  · rfl
  · simp

theorem Json.decode_eq_ok_iff {d : Doc} {j : Json} :
    Json.decode dialect d = .ok j ↔ d.toJson = .ok j := by
  unfold Json.decode
  cases d.toJson <;> simp

theorem Json.decode_ofJson (j : Json) : Json.decode dialect (Doc.ofJson j) = .ok j.sorted := by
  rw [Json.decode, Json.toJson_ofJson]

/-- A value that may be absent is taken for absent if it is `null`. -/
theorem Json.decode_option_ofJson {j : Json} (hj : j.sorted = j) :
    Decoder.option Json.decode dialect (Doc.ofJson j) = .ok ((some j).filter (· ≠ .null)) := by
  by_cases hnull : j = .null
  · subst hnull
    rfl
  · have hdoc : Doc.ofJson j ≠ .null := mt Json.eq_null_of_ofJson hnull
    have hkept : (some j).filter (· ≠ .null) = some j := by simpa using hnull
    rw [Decoder.option, decode_ofJson, hj, hkept]
    · rfl
    · exact hdoc

/-! ### Values of extensions -/

theorem Integer.toInt64?_eq_some_iff {n : Integer} {m : Int64} :
    n.toInt64? = some m ↔ n = .ofInt64 m := by
  have hleast := n.least
  unfold Integer.toInt64?
  constructor
  · intro h
    split at h
    · next hlt =>
      have hval : (Int64.ofInt n.val).toInt = n.val := Int64.toInt_ofInt_of_le hleast hlt
      obtain rfl := Option.some.inj h
      cases n
      simp only [Integer.ofInt64, hval]
    · contradiction
  · rintro rfl
    have hlt : (Integer.ofInt64 m).val < 9223372036854775808 := m.toInt_lt
    rw [if_pos hlt]
    exact congrArg some m.ofInt_toInt

theorem ExtensionValue.ofJson_eq_ok_iff {j : Json} {v : ExtensionValue} :
    ExtensionValue.ofJson j = .ok v ↔ j = v.toJson := by
  constructor
  · intro h
    unfold ExtensionValue.ofJson at h
    split at h
    · rw [← Except.ok.inj h, ExtensionValue.toJson]
    · rw [← Except.ok.inj h, ExtensionValue.toJson]
    · split at h
      · next hn =>
        rw [Integer.toInt64?_eq_some_iff.1 hn, ← Except.ok.inj h, ExtensionValue.toJson]
      · contradiction
    · contradiction
  · rintro rfl
    cases v with
    | bool b => rfl
    | string s => rfl
    | int n =>
      have hfits : (Integer.ofInt64 n).toInt64? = some n := Integer.toInt64?_eq_some_iff.2 rfl
      simp only [ExtensionValue.toJson, ExtensionValue.ofJson, hfits]

namespace Event

variable {other : String → Doc → Except Flaw (Draft → Draft)} {seen : List String}
  {others rest : List (String × Json)} {name : String}

/-! ### Fields -/

/-- The names of the fields of an event. -/
def fieldNames : List String :=
  ["id", "source", "specversion", "type", "subject", "time", "datacontenttype", "dataschema",
    "data", "data_base64"]

theorem names_schema : schema.names = fieldNames := rfl

theorem readMembers_fieldMember {α : Type} {value : Decoder α} {put : α → Event → Event} {a : α}
    {j : Json} {e : Event} (e' : Event)
    (hfield : schema.field? name = some (Draft.field name value put)) (hseen : name ∉ seen)
    (hvalue : value dialect (Doc.ofJson j) = .ok a) (hput : put a e = e') :
    schema.readMembers dialect other seen ⟨e, others⟩ (Doc.ofMembers ((name, j) :: rest)) =
      schema.readMembers dialect other (name :: seen) ⟨e', others⟩ (Doc.ofMembers rest) := by
  have hread : (Draft.field name value put).read dialect (Doc.ofJson j) =
      .ok fun draft => { draft with event := put a draft.event } := by
    simp only [Draft.field, Field.optional, hvalue]
    rfl
  rw [Doc.ofMembers, Schema.readMembers_field hfield hseen hread, hput]

/-- A field that may be absent. What is written for it may be read as something else or as none. -/
theorem readMembers_optionalMember_bind {α β : Type} {value : Decoder β} (f : α → Json)
    {put : Option β → Event → Event} {g : α → Option β} {o : Option α} {e : Event} (e' : Event)
    (hfield : schema.field? name = some (Draft.field name (.option value) put))
    (hseen : name ∉ seen)
    (hvalue : ∀ a ∈ o, Decoder.option value dialect (Doc.ofJson (f a)) = .ok (g a))
    (hblank : put none e = e) (hput : put (o.bind g) e = e') :
    schema.readMembers dialect other seen ⟨e, others⟩
        (Doc.ofMembers (optionalMember name f o ++ rest)) =
      schema.readMembers dialect other ((optionalMember name f o).map (·.1) ++ seen) ⟨e', others⟩
        (Doc.ofMembers rest) := by
  cases o with
  | none =>
    rw [← hput, Option.bind_none, hblank]
    rfl
  | some a => exact readMembers_fieldMember e' hfield hseen (hvalue a rfl) hput

theorem readMembers_optionalMember {α : Type} {value : Decoder α} (f : α → Json)
    {put : Option α → Event → Event} {o : Option α} {e : Event} (e' : Event)
    (hfield : schema.field? name = some (Draft.field name (.option value) put))
    (hseen : name ∉ seen)
    (hvalue : ∀ a, Decoder.option value dialect (Doc.ofJson (f a)) = .ok (some a))
    (hblank : put none e = e) (hput : put o e = e') :
    schema.readMembers dialect other seen ⟨e, others⟩
        (Doc.ofMembers (optionalMember name f o ++ rest)) =
      schema.readMembers dialect other ((optionalMember name f o).map (·.1) ++ seen) ⟨e', others⟩
        (Doc.ofMembers rest) :=
  readMembers_optionalMember_bind f e' hfield hseen (fun a _ => hvalue a) hblank
    (by rw [Option.bind_fun_some, hput])

@[simp] theorem mem_optionalMember {α : Type} {f : α → Json} {o : Option α} {m : String × Json} :
    m ∈ optionalMember name f o ↔ ∃ a, o = some a ∧ m = (name, f a) := by
  cases o <;> simp [optionalMember]

theorem bind_filter_ne_null (o : Option Json) :
    (o.bind fun j => (some j).filter (· ≠ .null)) = o.filter (· ≠ .null) := by
  cases o <;> rfl

/-- What the fields of an event are read as: the event without its extensions and without data that
are `null`, at the instant that the clock shows. -/
theorem readMembers_fieldMembers (dialect : Dialect)
    (other : String → Doc → Except Flaw (Draft → Draft)) (others rest : List (String × Json))
    {e : Event} (hdata : ∀ j ∈ e.data, j.sorted = j) :
    ∃ seen, schema.readMembers dialect other [] ⟨blank .v10, others⟩
        (Doc.ofMembers (e.fieldMembers ++ rest)) =
      schema.readMembers dialect other seen
        ⟨{ e with
            time := e.time.map Instant.carried
            data := e.data.filter (· ≠ .null)
            extensions := .empty }, others⟩
        (Doc.ofMembers rest) := by
  generalize htime : e.time.map Instant.carried = time
  apply Exists.intro
  simp only [fieldMembers, List.append_assoc, List.cons_append, List.nil_append]
  -- Field by field, the event so far is `e` with all fields blank that are still to come.
  rw [readMembers_fieldMember { blank .v10 with id := e.id } rfl (by simp) rfl rfl]
  rw [readMembers_fieldMember { blank .v10 with id := e.id, source := e.source } rfl (by simp) rfl
    rfl]
  rw [readMembers_fieldMember { blank e.specVersion with id := e.id, source := e.source } rfl
    (by simp) e.specVersion.decode_text rfl]
  rw [readMembers_fieldMember
    { blank e.specVersion with id := e.id, source := e.source, type := e.type } rfl (by simp) rfl
    rfl]
  rw [readMembers_optionalMember .string
    { e with
      time := none, dataContentType := none, dataSchema := none, data := none, dataBase64 := none
      extensions := .empty } rfl (by simp) (fun _ => rfl) rfl rfl]
  rw [readMembers_optionalMember_bind (fun t : Instant => .string t.documentText)
    { e with
      time, dataContentType := none, dataSchema := none, data := none, dataBase64 := none
      extensions := .empty } rfl (by simp) (fun t _ => t.decode_documentText) rfl
    (by rw [← htime, Option.map_eq_bind]; rfl)]
  rw [readMembers_optionalMember .string
    { e with time, dataSchema := none, data := none, dataBase64 := none, extensions := .empty } rfl
    (by simp) (fun _ => rfl) rfl rfl]
  rw [readMembers_optionalMember .string
    { e with time, data := none, dataBase64 := none, extensions := .empty } rfl (by simp)
    (fun _ => rfl) rfl rfl]
  rw [readMembers_optionalMember_bind (fun j => j)
    { e with time, data := e.data.filter (· ≠ .null), dataBase64 := none, extensions := .empty } rfl
    (by simp) (fun j hj => Json.decode_option_ofJson (hdata j hj)) rfl
    (by rw [bind_filter_ne_null])]
  rw [readMembers_optionalMember .string
    { e with time, data := e.data.filter (· ≠ .null), extensions := .empty } rfl (by simp)
    (fun _ => rfl) rfl rfl]

/-! ### Extensions -/

/-- The other members of an event are read as extensions exactly if they are written so. -/
theorem extensionsOf_eq_ok_iff {extensions : Dict ExtensionValue} :
    extensionsOf others = .ok extensions ↔ ∃ entries : List (String × ExtensionValue),
      others = entries.map (fun x => (x.1, x.2.toJson)) ∧ .ofList entries = extensions := by
  have hentry : ∀ (m : String × Json) (x : String × ExtensionValue),
      (m.1, ·) <$> ExtensionValue.ofJson m.2 = .ok x ↔ m = (x.1, x.2.toJson) := by
    intro m x
    simp only [Except.map_eq_ok_iff, ExtensionValue.ofJson_eq_ok_iff, Prod.ext_iff]
    constructor
    · rintro ⟨v, hj, hname, rfl⟩
      exact ⟨hname, hj⟩
    · rintro ⟨hname, hj⟩
      exact ⟨x.2, hj, hname, rfl⟩
  rw [extensionsOf, Except.map_eq_ok_iff]
  exact exists_congr fun entries => and_congr_left fun _ => Except.mapM_eq_ok_iff hentry

theorem readMembers_others {members : List (String × Json)}
    (h : ∀ m ∈ members, schema.field? m.1 = none) {e : Event} :
    schema.readMembers dialect (keepOther dialect) seen ⟨e, others⟩ (Doc.ofMembers members) =
      .ok (seen, ⟨e, others ++ Json.sortedMembers members⟩) := by
  induction members generalizing others with
  | nil => simp [Doc.ofMembers, Schema.readMembers, Json.sortedMembers]
  | cons m rest ih =>
    have hread : keepOther dialect m.1 (Doc.ofJson m.2) =
        .ok fun draft => { draft with others := draft.others ++ [(m.1, m.2.sorted)] } := by
      rw [keepOther, Json.decode_ofJson]
      rfl
    have hrest : ∀ m ∈ rest, schema.field? m.1 = none :=
      fun m hm => h m (List.mem_cons_of_mem _ hm)
    rw [Doc.ofMembers, Schema.readMembers_other (h m List.mem_cons_self) hread, ih hrest,
      Json.sortedMembers, List.append_assoc, List.singleton_append]

theorem sortedMembers_extensionMembers (e : Event) :
    Json.sortedMembers e.extensionMembers = e.extensionMembers := by
  refine Json.sortedMembers_eq_self fun m hm => ?_
  obtain ⟨⟨name, v⟩, -, rfl⟩ := List.mem_map.1 hm
  cases v <;> rfl

theorem required_eq_false : ∀ field ∈ schema.fields, field.required = false := by
  simp [schema, Draft.field, Field.optional]

/-- What an event is read as, if none of its extensions has the name of a field. -/
theorem decode_toJson {e : Event} (hdata : ∀ j ∈ e.data, j.sorted = j)
    (hnames : ∀ name ∈ schema.names, e.extensions.get? name = none) :
    decode dialect (Doc.ofJson e.toJson) = .ok { e with
      time := e.time.map Instant.carried
      data := e.data.filter (· ≠ .null) } := by
  have hother : ∀ m ∈ e.extensionMembers, schema.field? m.1 = none := by
    intro m hm
    obtain ⟨⟨name, v⟩, hentry, rfl⟩ := List.mem_map.1 hm
    refine Schema.field?_eq_none_iff.2 fun hname => ?_
    have hsome := Dict.mem_entries_iff.1 hentry
    rw [hnames name hname] at hsome
    contradiction
  obtain ⟨seen, hread⟩ :=
    readMembers_fieldMembers dialect (keepOther dialect) [] e.extensionMembers hdata
  rw [readMembers_others hother, sortedMembers_extensionMembers, List.nil_append] at hread
  have hdraft := Schema.decodeMembers_of_readMembers hread fun field hfield hrequired => by
    rw [required_eq_false field hfield] at hrequired
    contradiction
  have hextensions : extensionsOf e.extensionMembers = .ok e.extensions :=
    extensionsOf_eq_ok_iff.2 ⟨e.extensions.entries, rfl, Dict.ofList_entries _⟩
  refine Except.bind_eq_ok_iff.2 ⟨_, hdraft, ?_⟩
  exact Except.bind_eq_ok_iff.2 ⟨_, hextensions, rfl⟩

/-! ### What is read -/

/-- What the field of a name changes about a draft: its own part of the event, and nothing else. -/
structure Draft.Changes (name : String) (put : Draft → Draft) : Prop where
  others : ∀ draft, (put draft).others = draft.others
  time : name ≠ "time" → ∀ draft time,
    put { draft with event := { draft.event with time } } =
      { put draft with event := { (put draft).event with time } }
  data : name ≠ "data" → ∀ draft, (put draft).event.data = draft.event.data

theorem changes_of_read {field : Field Draft} (hfield : field ∈ schema.fields) {d : Doc}
    {put : Draft → Draft} (hput : field.read dialect d = .ok put) :
    Draft.Changes field.name put := by
  simp only [schema, List.mem_cons, List.not_mem_nil, or_false] at hfield
  rcases hfield with rfl | rfl | rfl | rfl | rfl | rfl | rfl | rfl | rfl | rfl <;>
    (obtain ⟨a, -, rfl⟩ := Except.map_eq_ok_iff.1 hput
     refine ⟨fun _ => rfl, fun hname _ _ => ?_, fun hname _ => ?_⟩ <;>
      first
        | rfl
        | exact absurd rfl hname)

/-- A member that is kept is added to the others. -/
theorem keepOther_eq_ok_iff {name : String} {d : Doc} {put : Draft → Draft} :
    keepOther dialect name d = .ok put ↔ ∃ j, d.toJson = .ok j ∧
      put = fun draft => { draft with others := draft.others ++ [(name, j)] } := by
  simp only [keepOther, Except.bind_eq_ok_iff, Json.decode_eq_ok_iff]
  exact exists_congr fun j => and_congr_right fun _ =>
    ⟨fun h => (Except.ok.inj h).symm, fun h => congrArg Except.ok h.symm⟩

/-- Members that are kept have no name of a field. -/
theorem field?_eq_none_of_mem_others {members : List (Name × Doc)} {draft : Draft}
    (h : schema.decodeMembers dialect (keepOther dialect) members = .ok draft) :
    ∀ m ∈ draft.others, schema.field? m.1 = none := by
  obtain ⟨seen, hread⟩ := Schema.readMembers_of_decodeMembers h
  refine Schema.readMembers_induction
    (P := fun draft : Draft => ∀ m ∈ draft.others, schema.field? m.1 = none)
    (fun field hfield d put hput record hrecord => ?_)
    (fun name d put hname hput record hrecord => ?_) hread (List.forall_mem_nil _)
  · rw [(changes_of_read hfield hput).others]
    exact hrecord
  · obtain ⟨j, -, rfl⟩ := keepOther_eq_ok_iff.1 hput
    intro m hm
    rcases List.mem_append.1 hm with hm | hm
    · exact hrecord m hm
    · rw [List.mem_singleton.1 hm]
      exact hname

/-- An event that was decoded has no extension with the name of a field. -/
theorem get?_extensions_of_decode {d : Doc} {e : Event} (h : decode dialect d = .ok e)
    (hname : name ∈ schema.names) : e.extensions.get? name = none := by
  unfold decode at h
  split at h
  · obtain ⟨draft, hdraft, h⟩ := Except.bind_eq_ok_iff.1 h
    obtain ⟨extensions, hextensions, h⟩ := Except.bind_eq_ok_iff.1 h
    obtain ⟨entries, hothers, rfl⟩ := extensionsOf_eq_ok_iff.1 hextensions
    obtain rfl := Except.ok.inj h
    rw [Option.eq_none_iff_forall_ne_some]
    intro v hv
    have hentry : (name, v) ∈ entries := Dict.mem_of_mem_ofList (Dict.mem_entries_iff.2 hv)
    have hother : (name, v.toJson) ∈ draft.others := hothers ▸ List.mem_map_of_mem hentry
    exact Schema.field?_eq_none_iff.1 (field?_eq_none_of_mem_others hdraft _ hother) hname
  · exact absurd h (Doc.refuse_ne_ok _ _ _)

end Event

end EventRouter
