import EventRouter.Decode.Record
import EventRouter.Proofs.Except
import EventRouter.Proofs.Json.Lexer

/-! Decoding a record, member by member. What every member keeps holds of the record in the end. -/

namespace EventRouter

/-- The text of a value is decoded as its document. -/
theorem Decoder.run_text {α : Type} (decode : Decoder α) {j : Json} (hj : j.isIntegral = true)
    (hdepth : j.depth ≤ 127) : decode.run (.json j.text) = decode .json (Doc.ofJson j) := by
  have hread := Json.read_text hj hdepth
  have hfinish : (Json.read j.text).finish = Doc.ofJson j := by rw [hread, Place.finish]
  have hwhole : (Json.read j.text).isWhole = true := by rw [hread, Place.isWhole]
  simp only [Decoder.run, hfinish, hwhole]
  cases decode .json (Doc.ofJson j) <;> rfl

/-- The document of a source, if the source can be read to its end. -/
def Source.doc? : Source → Option Doc
  | .value j => some (.ofJson j.sorted)
  | .json text => if (Json.read text).isWhole then some (Json.read text).finish else none
  | .json5 text => Json5.read? text

theorem Decoder.run_eq_ok_iff {α : Type} {decode : Decoder α} {source : Source} {a : α} :
    decode.run source = .ok a ↔
      ∃ d, source.doc? = some d ∧ decode source.dialect d = .ok a := by
  cases source with
  | value j => simp [run, Source.doc?, Source.dialect]
  | json text =>
    simp only [run, Except.bind_eq_ok_iff, Source.doc?, Source.dialect]
    by_cases hwhole : (Json.read text).isWhole = true
    · simp [hwhole, pure, Except.pure]
    · simp [hwhole, throw, throwThe, MonadExceptOf.throw]
  | json5 text =>
    simp only [run, Source.doc?, Source.dialect]
    cases Json5.read? text <;> simp

theorem Doc.refuse_ne_ok {α : Type} (d : Doc) (wanted : Wanted) (a : α) :
    d.refuse wanted ≠ .ok a := by
  unfold Doc.refuse
  split <;> simp

namespace Schema

variable {σ : Type} {schema : Schema σ} {dialect : Dialect}
  {other : String → Doc → Except Flaw (σ → σ)} {seen : List String} {record : σ}
  {name : String} {d : Doc} {put : σ → σ} {rest : List (Name × Doc)}

theorem field?_eq_none_iff : schema.field? name = none ↔ name ∉ schema.names := by
  simp [field?, names]

/-- A member for a field that was not seen yet changes the record as the field does. -/
theorem readMembers_field {field : Field σ} (hfield : schema.field? name = some field)
    (hseen : name ∉ seen) (hput : field.read dialect d = .ok put) :
    schema.readMembers dialect other seen record ((.text name, d) :: rest) =
      schema.readMembers dialect other (name :: seen) (put record) rest := by
  simp only [readMembers, Name.decode, bind, Except.bind, hfield, if_neg hseen, hput]

/-- A member that is no field changes the record as the reader wants. -/
theorem readMembers_other (hfield : schema.field? name = none)
    (hput : other name d = .ok put) :
    schema.readMembers dialect other seen record ((.text name, d) :: rest) =
      schema.readMembers dialect other seen (put record) rest := by
  simp only [readMembers, Name.decode, bind, Except.bind, hfield, hput]

/-- What all fields and all other members keep holds of the record in the end. -/
theorem readMembers_induction {P : σ → Prop}
    (hfields : ∀ field ∈ schema.fields, ∀ d put, field.read dialect d = .ok put →
      ∀ record, P record → P (put record))
    (hother : ∀ name d put, schema.field? name = none → other name d = .ok put →
      ∀ record, P record → P (put record))
    {members : List (Name × Doc)} {result : List String × σ}
    (hread : schema.readMembers dialect other seen record members = .ok result)
    (hrecord : P record) : P result.2 := by
  induction members generalizing seen record with
  | nil =>
    obtain rfl := Except.ok.inj hread
    exact hrecord
  | cons m rest ih =>
    obtain ⟨name, -, hread⟩ := Except.bind_eq_ok_iff.1 hread
    cases hfield : schema.field? name with
    | some field =>
      simp only [hfield] at hread
      split at hread
      · contradiction
      · obtain ⟨put, hput, hread⟩ := Except.bind_eq_ok_iff.1 hread
        have hmem : field ∈ schema.fields := List.mem_of_find?_eq_some hfield
        exact ih hread (hfields field hmem m.2 put hput record hrecord)
    | none =>
      simp only [hfield] at hread
      obtain ⟨put, hput, hread⟩ := Except.bind_eq_ok_iff.1 hread
      exact ih hread (hother name m.2 put hfield hput record hrecord)

/-! ### The whole record -/

theorem decodeMembers_of_readMembers {members : List (Name × Doc)}
    (hread : schema.readMembers dialect other [] schema.blank members = .ok (seen, record))
    (hrequired : ∀ field ∈ schema.fields, field.required = true → field.name ∈ seen) :
    schema.decodeMembers dialect other members = .ok record := by
  have hmissing : schema.missing? seen = none := by
    refine List.find?_eq_none.2 fun field hfield hmissing => ?_
    obtain ⟨hneeded, hunseen⟩ := Bool.and_eq_true_iff.1 hmissing
    exact of_decide_eq_true hunseen (hrequired field hfield hneeded)
  simp only [decodeMembers, hread, bind, Except.bind, hmissing]
  rfl

theorem readMembers_of_decodeMembers {members : List (Name × Doc)}
    (h : schema.decodeMembers dialect other members = .ok record) :
    ∃ seen, schema.readMembers dialect other [] schema.blank members = .ok (seen, record) := by
  obtain ⟨⟨seen, read⟩, hread, h⟩ := Except.bind_eq_ok_iff.1 h
  refine ⟨seen, ?_⟩
  dsimp only at h
  split at h
  · contradiction
  · rw [hread, Except.ok.inj h]

end Schema

end EventRouter
