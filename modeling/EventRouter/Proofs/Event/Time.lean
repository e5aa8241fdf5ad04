import EventRouter.Proofs.Decode.Members
import EventRouter.Proofs.Event.Document
import EventRouter.Proofs.Filter
import EventRouter.Proofs.Instant.Text

/-! The time of an event as a text. Both texts of an instant are read as the instant that its clock
shows, wherever the time stands among the other members of an event, and a filter asks for the
instants that the clock shows alike. -/

namespace EventRouter.Event

variable {dialect : Dialect} {before after : List (Name × Doc)} {t : Instant} {s : String}

/-- Setting the time of a draft, which no member but that for the time does. -/
theorem commutes_time (time : Option Instant) :
    schema.Commutes dialect (keepOther dialect) "time" fun draft =>
      { draft with event := { draft.event with time } } where
  field field hfield hname d put hput record := (changes_of_read hfield hput).time hname record time
  other name d put hput record := by
    obtain ⟨j, -, rfl⟩ := keepOther_eq_ok_iff.1 hput
    rfl

/-- A text of an instant puts the instant into the event that the other members are read as. -/
theorem decode_insert_time (hs : Instant.parse s = .ok t)
    (habsent : ∀ m ∈ before ++ after, m.1 ≠ .text "time") :
    decode dialect (.object (before ++ (.text "time", .string s) :: after)) =
      (fun e => { e with time := some t }) <$> decode dialect (.object (before ++ after)) := by
  have htime : Decoder.option Instant.decode dialect (.string s) = .ok (some t) := by
    rw [Decoder.option, Instant.decode, hs]
    · rfl
    · simp
  have hput : (Draft.field "time" (.option Instant.decode) fun t e => { e with time := t }).read
      dialect (.string s) = .ok fun draft =>
        { draft with event := { draft.event with time := some t } } := by
    simp only [Draft.field, Field.optional, htime]
    rfl
  simp only [decode]
  rw [(commutes_time (some t)).decodeMembers_insert required_eq_false rfl hput habsent]
  cases schema.decodeMembers dialect (keepOther dialect) (before ++ after) with
  | error f => rfl
  | ok draft =>
    simp only [Functor.map, Except.map, bind, Except.bind]
    cases extensionsOf draft.others <;> rfl

theorem evaluate_time_eq_pass_iff (e : Event) (t : Instant) :
    Filter.evaluate e (Dict.empty.insert "time" t.text).entries = .pass ↔
      e.time.map Instant.carried = some t.carried := by
  have hentries : (Dict.empty.insert "time" t.text).entries = [("time", t.text)] := rfl
  have hattribute : e.attribute? "time" = e.time.map Instant.text := rfl
  rw [hentries, Filter.evaluate_singleton, Filter.judge_eq_pass_iff, hattribute,
    Option.map_eq_some_iff, Option.map_eq_some_iff]
  exact exists_congr fun u => and_congr_right fun _ => Instant.text_inj

/-- Whichever of its two texts an event gives for an instant, it is read as the event that its other
members are read as, at the instant that the clock shows, whatever those members are and in whatever
order they stand. The clock shows every instant as itself but those in a leap second out of place,
and what it shows lies in none. Two instants have one text, and a filter on the text of one lets
pass the events at the other, exactly if the clock shows them alike. The text shows a fraction
exactly if the second has begun, in one to nine digits of which the last is no zero. -/
theorem time_faithful :
    (∀ (t : Instant) (s : String), s = t.text ∨ s = t.documentText →
      ∀ (dialect : Dialect) (before after : List (Name × Doc)),
        (∀ m ∈ before ++ after, m.1 ≠ .text "time") →
          decode dialect (.object (before ++ (.text "time", .string s) :: after)) =
            (fun e => { e with time := some t.carried }) <$>
              decode dialect (.object (before ++ after))) ∧
    (∀ t : Instant, (t.carried = t ↔ t.InPlace) ∧ t.carried.InPlace) ∧
    (∀ t u : Instant, t.text = u.text ↔ t.carried = u.carried) ∧
    (∀ (e : Event) (t : Instant),
      Filter.evaluate e (Dict.empty.insert "time" t.text).entries = .pass ↔
        e.time.map Instant.carried = some t.carried) ∧
    ∀ t : Instant, '.' ∉ t.secondsText ∧
      (t.nano = 0 → t.text = String.ofList (t.secondsText ++ ['Z'])) ∧
      (t.nano ≠ 0 → ∃ digits : List Char,
        t.text = String.ofList (t.secondsText ++ '.' :: (digits ++ ['Z'])) ∧
        1 ≤ digits.length ∧ digits.length ≤ 9 ∧ (∀ c ∈ digits, c.isDigit = true) ∧
        digits.getLast? ≠ some '0') := by
  refine ⟨fun t s hs dialect before after => decode_insert_time ?_,
    fun t => ⟨Instant.carried_eq_self_iff, t.inPlace_carried⟩, fun _ _ => Instant.text_inj,
    evaluate_time_eq_pass_iff, fun t => ⟨t.point_not_mem_secondsText, fun hzero => ?_,
      fun hpos => ?_⟩⟩
  · rcases hs with rfl | rfl
    · exact t.parse_text
    · exact t.parse_documentText
  · simp [Instant.text, Instant.shortFraction, hzero]
  · have hshown := Instant.shown_dropZeros hpos (Nat.mod_lt _ (by decide))
    refine ⟨_, ?_, List.length_pos_iff.2 hshown.ne_nil, hshown.length_le, hshown.isDigit,
      hshown.last⟩
    simp [Instant.text, Instant.shortFraction, hpos]

/-- Half a second into a leap second before the year 0, in an event with an extension behind it. -/
theorem time_faithful_of_leap_second :
    let t : Instant := ⟨-62167305601, 1500000000, by decide, by decide, by decide⟩
    let e := { blank .v10 with
      time := some t
      extensions := Dict.empty.insert "app" (.string "x") }
    t.text = "-0001-12-30T23:59:60.5Z" ∧ t.InPlace ∧ t.nano ≠ 0 ∧
      decode .json (.object [(.text "time", .string "-0001-12-30T23:59:60.5Z"),
        (.text "app", .string "x")]) = .ok e ∧
      Filter.evaluate e (Dict.empty.insert "time" "-0001-12-30T23:59:60.5Z").entries = .pass ∧
      ∃ digits, t.text = String.ofList (t.secondsText ++ '.' :: (digits ++ ['Z'])) := by
  intro t e
  obtain ⟨hread, hshown, -, hfilter, htexts⟩ := time_faithful
  have htext : t.text = "-0001-12-30T23:59:60.5Z" := by decide +kernel
  have hplace : t.InPlace := by decide
  have hnano : t.nano ≠ 0 := by decide
  have habsent : ∀ m ∈ [] ++ [((.text "app", .string "x") : Name × Doc)], m.1 ≠ .text "time" := by
    simp
  have hevent := hread t t.text (.inl rfl) .json [] [(.text "app", .string "x")] habsent
  have hpass := (hfilter e t).2 rfl
  obtain ⟨digits, hdigits, -⟩ := (htexts t).2.2 hnano
  rw [(hshown t).1.2 hplace] at hevent
  rw [htext] at hevent hpass
  exact ⟨htext, hplace, hnano, hevent, hpass, digits, hdigits⟩

/-- A third of a second into a leap second behind 12:30:04, and a third of a second behind 12:30:05.
The first instant has the text of the second one and is read as that, and a filter on the text lets
both pass. -/
theorem not_every_instant_read_back :
    let t : Instant := ⟨45004, 1333333333, by decide, by decide, by decide⟩
    let u : Instant := ⟨45005, 333333333, by decide, by decide, by decide⟩
    let filter := Dict.empty.insert "time" t.text
    t ≠ u ∧ t.text = u.text ∧
      decode .json (.object [(.text "time", .string t.text)]) ≠
        .ok { blank .v10 with time := some t } ∧
      Filter.evaluate { blank .v10 with time := some t } filter.entries = .pass ∧
      Filter.evaluate { blank .v10 with time := some u } filter.entries = .pass := by
  intro t u filter
  have hne : t ≠ u := by decide
  have hcarried : t.carried = u := by decide
  have hplace : u.InPlace := by decide
  have hsame : t.carried = u.carried := by rw [hcarried, Instant.carried_of_inPlace hplace]
  have hread : decode .json (.object [(.text "time", .string t.text)]) =
      .ok { blank .v10 with time := some t.carried } :=
    @decode_insert_time .json [] [] _ _ t.parse_text (List.forall_mem_nil _)
  refine ⟨hne, Instant.text_inj.2 hsame, fun h => ?_, (evaluate_time_eq_pass_iff _ t).2 rfl,
    (evaluate_time_eq_pass_iff _ t).2 (congrArg some hsame.symm)⟩
  rw [hread] at h
  have htime : some t.carried = some t := congrArg Event.time (Except.ok.inj h)
  rw [hcarried] at htime
  exact hne (Option.some.inj htime).symm

end EventRouter.Event
