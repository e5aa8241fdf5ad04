import EventRouter.Filter
import EventRouter.Proofs.Dict

/-! Which events pass a filter. The order in which its entries are judged does not matter to that.
It only decides which of the entries that fail is reported. -/

namespace EventRouter

/-- The event has every attribute of a filter with exactly the value given there. -/
def Event.Satisfies (e : Event) (filter : Dict String) : Prop :=
  ∀ name value, filter.get? name = some value → e.attribute? name = some value

namespace Filter

variable {e : Event} {entries : List (String × String)} {filter : Dict String}

theorem judge_eq_pass_iff {entry : String × String} :
    judge e entry = .pass ↔ e.attribute? entry.1 = some entry.2 := by
  unfold judge
  split
  · next hnone => simp [hnone]
  · next value hvalue => rw [hvalue, Option.some.injEq]; split <;> simp [*]

theorem evaluate_eq_pass_iff : evaluate e entries = .pass ↔ ∀ entry ∈ entries,
    e.attribute? entry.1 = some entry.2 := by
  induction entries with
  | nil => simp [evaluate]
  | cons entry rest ih =>
    rw [List.forall_mem_cons, evaluate, ← judge_eq_pass_iff, ← ih]
    split
    · next hpass => simp [hpass]
    · next hfail => exact ⟨fun h => (hfail h).elim, fun h => (hfail h.1).elim⟩

/-- An event passes a filter, in whatever order its entries are met, exactly when it satisfies the
filter. -/
theorem evaluate_eq_pass_iff_satisfies (h : entries.Perm filter.entries) :
    evaluate e entries = .pass ↔ e.Satisfies filter := by
  have hmem : (∀ entry ∈ entries, e.attribute? entry.1 = some entry.2) ↔
      ∀ entry ∈ filter.entries, e.attribute? entry.1 = some entry.2 :=
    forall_congr' fun entry => imp_congr_left h.mem_iff
  rw [evaluate_eq_pass_iff, hmem,
    Dict.forall_mem_entries_iff (p := fun name value => e.attribute? name = some value)]
  rfl

/-! ### What is reported of an event that does not pass -/

/-- What a verdict says of an event and a filter. -/
def Verdict.Says (e : Event) (filter : Dict String) : Verdict → Prop
  | .pass => e.Satisfies filter
  | .missing name => ∃ value, filter.get? name = some value ∧ e.attribute? name = none
  | .mismatch name => ∃ value actual, filter.get? name = some value ∧
      e.attribute? name = some actual ∧ actual ≠ value

theorem evaluate_cons_of_pass {entry : String × String} (h : judge e entry = .pass) :
    evaluate e (entry :: entries) = evaluate e entries := by
  rw [evaluate, h]

theorem evaluate_cons_of_fail {entry : String × String} (h : judge e entry ≠ .pass) :
    evaluate e (entry :: entries) = judge e entry := by
  rw [evaluate]
  split
  · contradiction
  · rfl

/-- The verdict of an entry that fails is what the entry says. -/
theorem says_judge {entry : String × String} (hentry : filter.get? entry.1 = some entry.2)
    (h : judge e entry ≠ .pass) : (judge e entry).Says e filter := by
  unfold judge at h ⊢
  split at h
  · next hnone => exact ⟨entry.2, hentry, hnone⟩
  · next actual hactual =>
    split at h
    · contradiction
    · next hne => rw [if_neg hne]; exact ⟨entry.2, actual, hentry, hactual, hne⟩

/-- A verdict other than a pass is that of an entry. -/
theorem exists_judge_of_evaluate (h : evaluate e entries ≠ .pass) :
    ∃ entry ∈ entries, judge e entry = evaluate e entries := by
  induction entries with
  | nil => contradiction
  | cons entry rest ih =>
    by_cases hentry : judge e entry = .pass
    · rw [evaluate_cons_of_pass hentry] at h ⊢
      obtain ⟨failed, hmem, hfailed⟩ := ih h
      exact ⟨failed, List.mem_cons_of_mem entry hmem, hfailed⟩
    · exact ⟨entry, List.mem_cons_self, (evaluate_cons_of_fail hentry).symm⟩

theorem evaluate_singleton (entry : String × String) : evaluate e [entry] = judge e entry := by
  by_cases h : judge e entry = .pass
  · rw [evaluate_cons_of_pass h, h]
    rfl
  · exact evaluate_cons_of_fail h

theorem mem_failures_iff {verdict : Verdict} : verdict ∈ failures e entries ↔
    verdict ≠ .pass ∧ ∃ entry ∈ entries, judge e entry = verdict := by
  simp [failures, and_comm]

theorem evaluate_mem_failures (h : entries.Perm filter.entries)
    (hfail : evaluate e entries ≠ .pass) : evaluate e entries ∈ failures e filter.entries := by
  obtain ⟨entry, hmem, hentry⟩ := exists_judge_of_evaluate hfail
  exact mem_failures_iff.2 ⟨hfail, entry, h.mem_iff.1 hmem, hentry⟩

/-- The verdict of an entry that fails is reported when this entry is met first. -/
theorem exists_order_of_mem_failures {verdict : Verdict}
    (h : verdict ∈ failures e filter.entries) : ∃ entries : List (String × String),
      entries.Perm filter.entries ∧ evaluate e entries = verdict := by
  obtain ⟨hfail, entry, hmem, rfl⟩ := mem_failures_iff.1 h
  exact ⟨entry :: filter.entries.erase entry, (List.perm_cons_erase hmem).symm,
    evaluate_cons_of_fail hfail⟩

/-- The verdict on a filter is a pass, in whatever order its entries are met, exactly if the event
has the value of every entry, and any other verdict tells the truth about an entry. Over all orders,
the verdicts other than a pass are those on the filters with one entry alone. -/
theorem evaluate_exact (e : Event) (filter : Dict String) :
    (∀ entries : List (String × String), entries.Perm filter.entries →
      (evaluate e entries = .pass ↔
        ∀ name value, filter.get? name = some value → e.attribute? name = some value) ∧
      (evaluate e entries).Says e filter) ∧
    evaluate e Dict.empty.entries = .pass ∧
    ∀ verdict : Verdict, verdict ≠ .pass →
      ((∃ entries : List (String × String), entries.Perm filter.entries ∧
          evaluate e entries = verdict) ↔
        ∃ name value, filter.get? name = some value ∧
          evaluate e (Dict.empty.insert name value).entries = verdict) ∧
      (verdict ∈ failures e filter.entries ↔
        ∃ name value, filter.get? name = some value ∧
          evaluate e (Dict.empty.insert name value).entries = verdict) := by
  have hsingle : ∀ verdict : Verdict, verdict ≠ .pass → (verdict ∈ failures e filter.entries ↔
      ∃ name value, filter.get? name = some value ∧
        evaluate e (Dict.empty.insert name value).entries = verdict) := by
    intro verdict hfail
    rw [mem_failures_iff, and_iff_right hfail, Prod.exists]
    refine exists_congr fun name => exists_congr fun value => ?_
    rw [Dict.mem_entries_iff, ← evaluate_singleton]
    rfl
  refine ⟨fun entries hperm => ⟨evaluate_eq_pass_iff_satisfies hperm, ?_⟩, rfl,
    fun verdict hfail => ⟨?_, hsingle verdict hfail⟩⟩
  · by_cases hpass : evaluate e entries = .pass
    · rw [hpass]
      exact (evaluate_eq_pass_iff_satisfies hperm).1 hpass
    · obtain ⟨entry, hmem, hentry⟩ := exists_judge_of_evaluate hpass
      rw [← hentry] at hpass ⊢
      exact says_judge (Dict.mem_entries_iff.1 (hperm.mem_iff.1 hmem)) hpass
  · rw [← hsingle verdict hfail]
    constructor
    · rintro ⟨entries, hperm, rfl⟩
      exact evaluate_mem_failures hperm hfail
    · exact exists_order_of_mem_failures

/-- An event without a subject, with another type than the filter asks for: either can be what is
reported. -/
theorem evaluate_exact_of_two_failures :
    let e := { Event.blank .v10 with type := "a" }
    let filter := (Dict.empty.insert "subject" "x").insert "type" "b"
    (∃ entries : List (String × String), entries.Perm filter.entries ∧
      evaluate e entries = .missing "subject") ∧
    ∃ entries : List (String × String), entries.Perm filter.entries ∧
      evaluate e entries = .mismatch "type" := by
  intro e filter
  obtain ⟨-, -, hreported⟩ := evaluate_exact e filter
  have hreports : ∀ verdict ≠ Verdict.pass, verdict ∈ failures e filter.entries →
      ∃ entries : List (String × String), entries.Perm filter.entries ∧
        evaluate e entries = verdict := fun verdict hfail hmem =>
    (hreported verdict hfail).1.2 ((hreported verdict hfail).2.1 hmem)
  exact ⟨hreports _ (by decide) (by decide +kernel), hreports _ (by decide) (by decide +kernel)⟩

end Filter

end EventRouter
