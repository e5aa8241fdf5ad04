import EventRouter.Proofs.Decode.Inverse
import EventRouter.Proofs.Decode.Nested

/-! Fields that hold documents. Whether a record is given by name or by position, what stands in the
place of such a field is read by the decoder of the field, and changes this field alone. -/

namespace EventRouter

/-- It makes no difference whether something is put into a record before or after a field is. -/
def Field.Commutes {α σ : Type} (field : Field σ) (put : α → σ → σ) : Prop :=
  ∀ dialect d f, field.read dialect d = .ok f → ∀ a r, f (put a r) = put a (f r)

@[simp] theorem Field.name_optional {α σ : Type} (name : String) (value : Decoder α)
    (put : α → σ → σ) : (Field.optional name value put).name = name := rfl

@[simp] theorem Field.required_optional {α σ : Type} (name : String) (value : Decoder α)
    (put : α → σ → σ) : (Field.optional name value put).required = false := rfl

@[simp] theorem Field.commutes_optional {α β σ : Type} {name : String} {value : Decoder β}
    {put' : β → σ → σ} {put : α → σ → σ} (h : ∀ b a r, put' b (put a r) = put a (put' b r)) :
    (Field.optional name value put').Commutes put := by
  intro dialect d f hf a r
  obtain ⟨b, -, rfl⟩ := Except.map_eq_ok_iff.1 hf
  exact h b a r

namespace Schema

variable {α σ : Type} {schema : Schema σ} {dialect : Dialect} {record : σ} {name : String}
  {value : Decoder α} {get : σ → α} {put : α → σ → σ} {around : Doc → Doc}

/-! ### Fields by position -/

theorem map_readItems {index : Nat} {fields : List (Field σ)} {items : List Doc} {f : σ → σ}
    (hcommutes : ∀ field ∈ fields, ∀ d g, field.read dialect d = .ok g → ∀ r, g (f r) = f (g r)) :
    schema.readItems dialect index (f record) fields items =
      Prod.map f id <$> schema.readItems dialect index record fields items := by
  induction fields generalizing index record items with
  | nil => rfl
  | cons field rest ih =>
    obtain ⟨hfield, hrest⟩ := List.forall_mem_cons.1 hcommutes
    cases items with
    | nil =>
      simp only [readItems]
      split
      · rfl
      · exact ih hrest
    | cons d items =>
      simp only [readItems, bind, Except.bind]
      cases hput : field.read dialect d with
      | error e => rfl
      | ok g =>
        simp only [hfield d g hput]
        exact ih hrest

/-- What stands at the position of a field is read by the field. Whatever else stands there changes
the record as the field does. -/
theorem exists_of_readItems {index : Nat} {front back : List (Field σ)} {field : Field σ}
    {before after : List Doc} {d : Doc} {r : σ × List Doc} (hlength : front.length = before.length)
    (hcommutes : ∀ other ∈ back, ∀ d g, other.read dialect d = .ok g →
      ∀ d' f, field.read dialect d' = .ok f → ∀ r, g (f r) = f (g r))
    (h : schema.readItems dialect index record (front ++ field :: back) (before ++ d :: after) =
      .ok r) :
    ∃ f base, field.read dialect d = .ok f ∧ ∀ d' f', field.read dialect d' = .ok f' →
      schema.readItems dialect index record (front ++ field :: back) (before ++ d' :: after) =
        .ok (f' base, r.2) := by
  -- Along the fields in front. At the field itself, what it puts is moved past all fields behind
  -- it, and what these make of the record without it is the base.
  induction front generalizing before index record with
  | nil =>
    obtain rfl := List.eq_nil_of_length_eq_zero hlength.symm
    have hpast (record : σ) {d' : Doc} {f : σ → σ} (hf : field.read dialect d' = .ok f) :
        schema.readItems dialect (index + 1) (f record) back after =
          Prod.map f id <$> schema.readItems dialect (index + 1) record back after :=
      map_readItems fun other hother x g hg => hcommutes other hother x g hg d' f hf
    obtain ⟨f, hf, h⟩ := Except.bind_eq_ok_iff.1 h
    rw [hpast record hf] at h
    obtain ⟨base, hbase, rfl⟩ := Except.map_eq_ok_iff.1 h
    refine ⟨f, base.1, hf, fun d' f' hf' => ?_⟩
    simp only [List.nil_append, readItems, hf', bind, Except.bind, hpast record hf', hbase]
    rfl
  | cons first front ih =>
    cases before with
    | nil => contradiction
    | cons item before =>
      obtain ⟨g, hg, h⟩ := Except.bind_eq_ok_iff.1 h
      obtain ⟨f, base, hf, hchange⟩ := ih (Nat.succ.inj hlength) h
      refine ⟨f, base, hf, fun d' f' hf' => ?_⟩
      simp only [List.cons_append, readItems, hg, bind, Except.bind, hchange d' f' hf']

theorem decodeItems_eq_ok_iff {items : List Doc} {r : σ} :
    schema.decodeItems dialect items = .ok r ↔ ∃ excess,
      schema.readItems dialect 0 schema.blank schema.fields items = .ok (r, excess) ∧
        (excess = [] ∨ dialect = .json5) := by
  rw [decodeItems, Except.bind_eq_ok_iff]
  constructor
  · rintro ⟨⟨record, excess⟩, hread, h⟩
    cases excess with
    | nil =>
      obtain rfl : record = r := by cases dialect <;> exact Except.ok.inj h
      exact ⟨[], hread, .inl rfl⟩
    | cons =>
      cases dialect with
      | json5 =>
        obtain rfl := Except.ok.inj h
        exact ⟨_, hread, .inr rfl⟩
      | _ => contradiction
  · rintro ⟨excess, hread, rfl | rfl⟩
    · exact ⟨_, hread, by cases dialect <;> rfl⟩
    · exact ⟨_, hread, by cases excess <;> rfl⟩

/-! ### Fields that hold other documents -/

/-- What stands around the document of a field. -/
inductive Around (schema : Schema σ) (name : String) : (Doc → Doc) → Prop
  | member (before after : List (Name × Doc)) :
      Around schema name fun d => .object (before ++ (.text name, d) :: after)
  | item (before after : List Doc) : schema.names[before.length]? = some name →
      Around schema name fun d => .array (before ++ d :: after)

/-- A field that is set apart from the others, in a record that may be read without it. -/
structure Focus (schema : Schema σ) (name : String) (value : Decoder α) (get : σ → α)
    (put : α → σ → σ) : Prop where
  mem_fields : .optional name value put ∈ schema.fields
  nodup : schema.names.Nodup
  isOptional : ∀ field ∈ schema.fields, field.required = false
  commutes : ∀ field ∈ schema.fields, field.name ≠ name → field.Commutes put
  get_put : ∀ a r, get (put a r) = a
  put_put : ∀ a b r, put b (put a r) = put b r

namespace Focus

variable (hfocus : schema.Focus name value get put)
include hfocus

theorem field? : schema.field? name = some (.optional name value put) :=
  field?_of_mem hfocus.nodup hfocus.mem_fields

theorem exists_of_member {before after : List (Name × Doc)} {d : Doc} {r : σ}
    (h : schema.decode dialect (.object (before ++ (.text name, d) :: after)) = .ok r) :
    ∃ a base, value dialect d = .ok a ∧ ∀ d' b, value dialect d' = .ok b →
      schema.decode dialect (.object (before ++ (.text name, d') :: after)) = .ok (put b base) := by
  have hfield := hfocus.field?
  have hinsert (d' : Doc) (b : α) (hb : value dialect d' = .ok b)
      (habsent : ∀ m ∈ before ++ after, m.1 ≠ .text name) :
      schema.decode dialect (.object (before ++ (.text name, d') :: after)) =
        put b <$> schema.decode dialect (.object (before ++ after)) := by
    have hcommutes : schema.Commutes dialect schema.refuseOther name (put b) :=
      ⟨fun field hmem hne d f hf r => hfocus.commutes field hmem hne dialect d f hf b r, nofun⟩
    exact hcommutes.decodeMembers_insert hfocus.isOptional hfield
      (Except.map_eq_ok_iff.2 ⟨b, hb, rfl⟩) habsent
  obtain ⟨seen, hread⟩ := readMembers_of_decodeMembers h
  have habsent := absent_of_readMembers (by simp [hfield]) hread
  have hkeeps : schema.Keeps dialect schema.refuseOther name fun _ => () :=
    ⟨fun _ _ _ _ _ _ _ => rfl, nofun⟩
  obtain ⟨f, -, hf, -⟩ := hkeeps.view_of_mem (d := d) hfield hread (by simp)
  obtain ⟨a, ha, rfl⟩ := Except.map_eq_ok_iff.1 hf
  rw [hinsert d a ha habsent] at h
  obtain ⟨base, hbase, -⟩ := Except.map_eq_ok_iff.1 h
  refine ⟨a, base, ha, fun d' b hb => ?_⟩
  rw [hinsert d' b hb habsent, hbase]
  rfl

theorem exists_split {index : Nat} (hindex : schema.names[index]? = some name) :
    ∃ front back, schema.fields = front ++ .optional name value put :: back ∧
      front.length = index ∧ ∀ field ∈ back, field ∈ schema.fields ∧ field.name ≠ name := by
  rw [names, List.getElem?_map, Option.map_eq_some_iff] at hindex
  obtain ⟨field, hfield, hname⟩ := hindex
  obtain ⟨hlt, hget⟩ := List.getElem?_eq_some_iff.1 hfield
  obtain rfl : field = .optional name value put :=
    List.inj_on_of_nodup_map hfocus.nodup (hget ▸ List.getElem_mem hlt) hfocus.mem_fields hname
  have hsplit : schema.fields =
      schema.fields.take index ++ .optional name value put :: schema.fields.drop (index + 1) := by
    rw [← hget, List.getElem_cons_drop, List.take_append_drop]
  refine ⟨_, _, hsplit, List.length_take_of_le (Nat.le_of_lt hlt), fun field hmem => ?_⟩
  have hnodup := hfocus.nodup
  rw [names, hsplit, List.map_append, List.map_cons] at hnodup
  refine ⟨List.mem_of_mem_drop hmem, fun heq => ?_⟩
  have habsent := (List.nodup_cons.1 (List.nodup_append.1 hnodup).2.1).1
  exact habsent (List.mem_map.2 ⟨field, hmem, heq⟩)

theorem exists_of_item {before after : List Doc} {d : Doc} {r : σ}
    (hindex : schema.names[before.length]? = some name)
    (h : schema.decode dialect (.array (before ++ d :: after)) = .ok r) :
    ∃ a base, value dialect d = .ok a ∧ ∀ d' b, value dialect d' = .ok b →
      schema.decode dialect (.array (before ++ d' :: after)) = .ok (put b base) := by
  obtain ⟨front, back, hfields, hlength, hback⟩ := hfocus.exists_split hindex
  obtain ⟨excess, hread, hexcess⟩ := decodeItems_eq_ok_iff.1 h
  rw [hfields] at hread
  have hcommutes : ∀ other ∈ back, ∀ d g, other.read dialect d = .ok g →
      ∀ d' f, (Field.optional name value put).read dialect d' = .ok f →
        ∀ r, g (f r) = f (g r) := by
    intro other hother d g hg d' f hf r
    obtain ⟨a, -, rfl⟩ := Except.map_eq_ok_iff.1 hf
    exact hfocus.commutes other (hback other hother).1 (hback other hother).2 dialect d g hg a r
  obtain ⟨f, base, hf, hchange⟩ := exists_of_readItems hlength hcommutes hread
  obtain ⟨a, ha, rfl⟩ := Except.map_eq_ok_iff.1 hf
  refine ⟨a, base, ha, fun d' b hb => decodeItems_eq_ok_iff.2 ⟨excess, ?_, hexcess⟩⟩
  rw [hfields]
  exact hchange d' (put b) (Except.map_eq_ok_iff.2 ⟨b, hb, rfl⟩)

theorem hole (haround : schema.Around name around) :
    Decoder.Hole schema.decode value around fun φ r => put (φ (get r)) r where
  isComposite d _ := by cases haround <;> trivial
  exists_inner dialect d r _ hr := by
    have hexists : ∃ a base, value dialect d = .ok a ∧ ∀ d' b, value dialect d' = .ok b →
        schema.decode dialect (around d') = .ok (put b base) := by
      cases haround with
      | member before after => exact hfocus.exists_of_member hr
      | item before after hindex => exact hfocus.exists_of_item hindex hr
    obtain ⟨a, base, ha, hchange⟩ := hexists
    obtain rfl := Except.ok.inj (hr.symm.trans (hchange d a ha))
    refine ⟨a, ha, fun d' φ _ hφ => ?_⟩
    rw [hfocus.get_put, hfocus.put_put]
    exact hchange d' (φ a) hφ

end Focus

end Schema

end EventRouter
