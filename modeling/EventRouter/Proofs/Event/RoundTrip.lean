import EventRouter.Proofs.Event.Document

/-! The text of an event, read again. It gives the event back, unless an extension has the name of a
field, the data are `null` or the time lies in a leap second out of place. -/

namespace EventRouter.Event

/-! ### Data -/

theorem sorted_apply {e : Event} (h : ∀ j ∈ e.data, j.sorted = j) (step : Step) :
    ∀ j ∈ (e.apply step).data, j.sorted = j := by
  cases step with
  | restart version => exact fun j hj => absurd hj (by simp [apply, blank])
  | data j =>
    rintro _ ⟨⟩
    exact Json.sorted_sorted j
  | _ => exact h

theorem sorted_foldl_apply {e : Event} (h : ∀ j ∈ e.data, j.sorted = j) (steps : List Step) :
    ∀ j ∈ (steps.foldl apply e).data, j.sorted = j := by
  induction steps generalizing e with
  | nil => exact h
  | cons step rest ih => exact ih (sorted_apply h step)

/-- However an event is built, the objects in its data are sorted. -/
theorem sorted_build (steps : List Step) : ∀ j ∈ (build steps).data, j.sorted = j :=
  sorted_foldl_apply (by simp [blank]) steps

/-! ### The text -/

theorem mem_fieldMembers {e : Event} {m : String × Json} (hm : m ∈ e.fieldMembers) :
    (∃ s, m.2 = .string s) ∨ e.data = some m.2 := by
  simp only [fieldMembers, List.mem_append, mem_optionalMember, List.mem_cons, List.not_mem_nil,
    or_false] at hm
  rcases hm with (((((hm | ⟨s, -, rfl⟩) | ⟨t, -, rfl⟩) | ⟨s, -, rfl⟩) | ⟨s, -, rfl⟩) |
    ⟨j, hj, rfl⟩) | ⟨s, -, rfl⟩
  · rcases hm with rfl | rfl | rfl | rfl <;> exact .inl ⟨_, rfl⟩
  · exact .inl ⟨s, rfl⟩
  · exact .inl ⟨t.documentText, rfl⟩
  · exact .inl ⟨s, rfl⟩
  · exact .inl ⟨s, rfl⟩
  · exact .inr hj
  · exact .inl ⟨s, rfl⟩

theorem mem_extensionMembers {e : Event} {m : String × Json} (hm : m ∈ e.extensionMembers) :
    m.2.isIntegral = true ∧ m.2.depth = 0 := by
  obtain ⟨⟨name, v⟩, -, rfl⟩ := List.mem_map.1 hm
  cases v <;> exact ⟨rfl, rfl⟩

theorem plain_members {e : Event}
    (hdata : ∀ j, e.data = some j → j.isIntegral = true ∧ j.depth ≤ 126) :
    ∀ m ∈ e.fieldMembers ++ e.extensionMembers, m.2.isIntegral = true ∧ m.2.depth ≤ 126 := by
  intro m hm
  rcases List.mem_append.1 hm with hfield | hextension
  · rcases mem_fieldMembers hfield with ⟨s, hs⟩ | hj
    · rw [hs]
      exact ⟨rfl, Nat.zero_le _⟩
    · exact hdata m.2 hj
  · obtain ⟨hintegral, hdepth⟩ := mem_extensionMembers hextension
    exact ⟨hintegral, hdepth ▸ Nat.zero_le _⟩

/-- The text of an event is decoded as its members. -/
theorem run_text {e : Event} (hdata : ∀ j, e.data = some j → j.isIntegral = true ∧ j.depth ≤ 126) :
    decode.run (.json e.text) = decode .json (Doc.ofJson e.toJson) := by
  have hplain := plain_members hdata
  refine Decoder.run_text decode ?_ ?_
  · exact Json.integralMembers_of_forall fun m hm => (hplain m hm).1
  · exact Nat.succ_le_succ (Json.depthMembers_le fun m hm => (hplain m hm).2)

theorem filter_ne_null_eq_self_iff {data : Option Json} :
    data.filter (· ≠ .null) = data ↔ data ≠ some .null := by
  cases data with
  | none => simp
  | some j => by_cases hj : j = .null <;> simp [hj]

theorem map_carried_eq_self_iff {time : Option Instant} :
    time.map Instant.carried = time ↔ ∀ t, time = some t → t.InPlace := by
  cases time <;> simp [Instant.carried_eq_self_iff]

/-- However an event is built, its text is read as the same event if and only if no extension has
the name of a field, the data are not `null` and the time lies in no leap second out of place. -/
theorem run_text_eq_self_iff (steps : List Step)
    (hdata : ∀ j, (build steps).data = some j → j.isIntegral = true ∧ j.depth ≤ 126) :
    decode.run (.json (build steps).text) = .ok (build steps) ↔
      (∀ name ∈ fieldNames, (build steps).extensions.get? name = none) ∧
      (build steps).data ≠ some .null ∧
      ∀ t, (build steps).time = some t → t.InPlace := by
  rw [run_text hdata, ← names_schema]
  constructor
  · intro h
    have hnames : ∀ name ∈ schema.names, (build steps).extensions.get? name = none :=
      fun name hname => get?_extensions_of_decode h hname
    rw [decode_toJson (sorted_build steps) hnames] at h
    have htime : (build steps).time.map Instant.carried = (build steps).time :=
      congrArg Event.time (Except.ok.inj h)
    have hread : (build steps).data.filter (· ≠ .null) = (build steps).data :=
      congrArg Event.data (Except.ok.inj h)
    exact ⟨hnames, filter_ne_null_eq_self_iff.1 hread, map_carried_eq_self_iff.1 htime⟩
  · rintro ⟨hnames, hnull, hplace⟩
    rw [decode_toJson (sorted_build steps) hnames, filter_ne_null_eq_self_iff.2 hnull,
      map_carried_eq_self_iff.2 hplace]

/-- A leap second before the year 0, the least integer, an extension and nested data come back. -/
theorem run_text_of_leap_second :
    let steps : List Step := [
      .time ⟨-62167305601, 1500000000, by decide, by decide, by decide⟩,
      .data (.object [("b", .array [.null, .string "\x22\x01"]),
        ("a", .number (.int ⟨-9223372036854775808, by decide, by decide⟩))]),
      .extension "flag" (.bool true)]
    (∀ j, (build steps).data = some j → j.isIntegral = true ∧ j.depth ≤ 126) ∧
      decode.run (.json (build steps).text) = .ok (build steps) := by
  intro steps
  have hdata : ∀ j, (build steps).data = some j → j.isIntegral = true ∧ j.depth ≤ 126 := by
    intro j hj
    obtain rfl := Option.some.inj hj
    decide
  refine ⟨hdata, (run_text_eq_self_iff steps hdata).2 ⟨?_, ?_, ?_⟩⟩
  · decide
  · decide
  · rintro t ⟨⟩
    decide

/-- A third of a second into a leap second behind 12:30:04, in an event that has nothing else, is
written as 12:30:05 and a third and read back as that. -/
theorem not_every_text_read_back : ¬ ∀ steps : List Step,
    (∀ j, (build steps).data = some j → j.isIntegral = true ∧ j.depth ≤ 126) →
      (decode.run (.json (build steps).text) = .ok (build steps) ↔
        (∀ name ∈ fieldNames, (build steps).extensions.get? name = none) ∧
        (build steps).data ≠ some .null) := by
  intro h
  let t : Instant := ⟨45004, 1333333333, by decide, by decide, by decide⟩
  have hdata : ∀ j, (build [.time t]).data = some j → j.isIntegral = true ∧ j.depth ≤ 126 := by
    rintro j ⟨⟩
  have hnames : ∀ name ∈ fieldNames, (build [.time t]).extensions.get? name = none := by decide
  have hread := (h [.time t] hdata).2 ⟨hnames, by decide⟩
  rw [run_text hdata, decode_toJson (sorted_build _) hnames] at hread
  have htime : some t.carried = some t := congrArg Event.time (Except.ok.inj hread)
  exact absurd (Instant.carried_eq_self_iff.1 (Option.some.inj htime)) (by decide)

end EventRouter.Event
