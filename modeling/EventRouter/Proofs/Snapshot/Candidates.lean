import EventRouter.Proofs.Snapshot.Validity

/-! What validation reports. Acceptance does not depend on the order in which entries are met, but
the reported violation does: over all orders, the reported violations are those of the cell tenants
alone, with one target at a time. -/

namespace EventRouter

namespace TenantEntry

variable {e single : TenantEntry} {v : Violation}

theorem violation?_of_misfiled (h : e.tenant.key.text ≠ e.place)
    (targets : List (String × Target)) : ({ e with targets } : TenantEntry).violation? =
      some (.misfiledTenant e.place e.tenant.key) := if_pos h

theorem violation?_of_filed (h : e.tenant.key.text = e.place)
    (targets : List (String × Target)) : ({ e with targets } : TenantEntry).violation? =
      targets.findSome? fun t => t.2.violation? e.tenant.key t.1 := if_neg fun hne => hne h

theorem mem_singles_iff : single ∈ e.singles ↔
    e.targets = [] ∧ single = e ∨ ∃ t ∈ e.targets, single = { e with targets := [t] } := by
  unfold singles
  split
  · next hempty => simp [List.isEmpty_iff.1 hempty]
  · next hne => simp [mt List.isEmpty_iff.2 hne, eq_comm]

theorem mem_singles_of_perm {targets : List (String × Target)} (hsingle : single ∈ e.singles)
    (h : e.targets.Perm targets) : single ∈ ({ e with targets } : TenantEntry).singles := by
  rcases mem_singles_iff.1 hsingle with ⟨hempty, rfl⟩ | ⟨t, ht, rfl⟩
  · obtain rfl := (hempty ▸ h).symm.eq_nil
    exact mem_singles_iff.2 (.inl ⟨rfl, by rw [← hempty]⟩)
  · exact mem_singles_iff.2 (.inr ⟨t, h.mem_iff.1 ht, rfl⟩)

/-- What an entry reports, it reports alone with one of its targets. -/
theorem exists_single_of_violation? (h : e.violation? = some v) :
    ∃ single ∈ e.singles, single.violation? = some v := by
  by_cases hplace : e.tenant.key.text = e.place
  · have hfirst := (violation?_of_filed hplace e.targets).symm.trans h
    obtain ⟨t, ht, hv⟩ := List.exists_of_findSome?_eq_some hfirst
    refine ⟨{ e with targets := [t] }, mem_singles_iff.2 (.inr ⟨t, ht, rfl⟩), ?_⟩
    rw [violation?_of_filed hplace, List.findSome?_singleton, hv]
  · -- A misfiled cell tenant is reported whatever its targets are.
    have hmisfiled (targets : List (String × Target)) :
        ({ e with targets } : TenantEntry).violation? = some v :=
      (violation?_of_misfiled hplace targets).trans
        ((violation?_of_misfiled hplace e.targets).symm.trans h)
    cases htargets : e.targets with
    | nil => exact ⟨e, mem_singles_iff.2 (.inl ⟨htargets, rfl⟩), h⟩
    | cons t rest =>
      exact ⟨_, mem_singles_iff.2 (.inr ⟨t, by simp [htargets], rfl⟩), hmisfiled [t]⟩

/-- What an entry reports alone with one of its targets, it reports when it meets this one first. -/
theorem exists_order_of_single (hsingle : single ∈ e.singles) (h : single.violation? = some v) :
    ∃ targets : List (String × Target), targets.Perm e.targets ∧
      ({ e with targets } : TenantEntry).violation? = some v := by
  rcases mem_singles_iff.1 hsingle with ⟨-, rfl⟩ | ⟨t, ht, rfl⟩
  · exact ⟨single.targets, .refl _, h⟩
  · refine ⟨t :: e.targets.erase t, (List.perm_cons_erase ht).symm, ?_⟩
    by_cases hplace : e.tenant.key.text = e.place
    · rw [violation?_of_filed hplace, List.findSome?_singleton] at h
      rw [violation?_of_filed hplace, List.findSome?_cons, h]
    · rwa [violation?_of_misfiled hplace] at h ⊢

end TenantEntry

theorem Listing.validate_eq_error_iff {l : Listing} {v : Violation} :
    l.validate = .error v ↔ l.violation? = some v := by
  unfold validate
  split <;> simp_all

namespace Snapshot

variable {s : Snapshot} {v : Violation}

theorem mem_listing_iff {e : TenantEntry} : e ∈ s.listing ↔
    s.tenants.get? e.place = some e.tenant ∧ e.targets = e.tenant.targets.entries := by
  rw [← Dict.mem_entries_iff, listing, List.mem_map]
  constructor
  · rintro ⟨x, hx, rfl⟩
    exact ⟨hx, rfl⟩
  · rintro ⟨hx, htargets⟩
    exact ⟨_, hx, by rw [← htargets]⟩

/-- An entry of a snapshot comes first in some listing, with its targets in any order. -/
theorem exists_listing_cons {e : TenantEntry} (he : s.tenants.get? e.place = some e.tenant)
    (htargets : e.targets.Perm e.tenant.targets.entries) :
    ∃ rest : Listing, Listing.Of (e :: rest) s := by
  have hmem : (e.place, e.tenant) ∈ s.tenants.entries := Dict.mem_entries_iff.2 he
  refine ⟨(s.tenants.entries.erase (e.place, e.tenant)).map fun x =>
    ⟨x.1, x.2, x.2.targets.entries⟩, ?_, fun e' he' => ?_⟩
  · simpa [Function.comp_def] using (List.perm_cons_erase hmem).symm
  · rcases List.mem_cons.1 he' with rfl | he'
    · exact htargets
    · obtain ⟨x, -, rfl⟩ := List.mem_map.1 he'
      exact .refl _

/-! ### Reported violations are candidates, and candidates are reported -/

theorem mem_candidates_iff : v ∈ s.candidates ↔
    ∃ e ∈ s.listing, ∃ single ∈ e.singles, single.violation? = some v := by
  simp only [candidates, List.mem_filterMap, List.mem_flatMap]
  constructor
  · rintro ⟨single, ⟨e, he, hsingle⟩, hv⟩
    exact ⟨e, he, single, hsingle, hv⟩
  · rintro ⟨e, he, single, hsingle, hv⟩
    exact ⟨single, ⟨e, he, hsingle⟩, hv⟩

theorem mem_candidates_of_reported {l : Listing} (hl : l.Of s) (h : l.validate = .error v) :
    v ∈ s.candidates := by
  obtain ⟨e, he, hv⟩ := List.exists_of_findSome?_eq_some (Listing.validate_eq_error_iff.1 h)
  obtain ⟨single, hsingle, hv⟩ := TenantEntry.exists_single_of_violation? hv
  have hplace : s.tenants.get? e.place = some e.tenant :=
    (hl.forall_mem_iff (p := fun place c => s.tenants.get? place = some c)).2
      (fun _ _ hc => hc) e he
  exact mem_candidates_iff.2 ⟨{ e with targets := e.tenant.targets.entries },
    mem_listing_iff.2 ⟨hplace, rfl⟩, single,
    TenantEntry.mem_singles_of_perm hsingle (hl.targets e he), hv⟩

theorem exists_reporting_of_mem_candidates (h : v ∈ s.candidates) :
    ∃ l : Listing, l.Of s ∧ l.validate = .error v := by
  obtain ⟨e, he, single, hsingle, hv⟩ := mem_candidates_iff.1 h
  obtain ⟨hplace, htargets⟩ := mem_listing_iff.1 he
  obtain ⟨targets, hperm, hv⟩ := TenantEntry.exists_order_of_single hsingle hv
  obtain ⟨rest, hl⟩ := exists_listing_cons (e := { e with targets }) hplace (htargets ▸ hperm)
  refine ⟨_, hl, Listing.validate_eq_error_iff.2 ?_⟩
  rw [Listing.violation?, List.findSome?_cons, hv]

/-! ### Cell tenants alone -/

/-- The snapshot that holds one cell tenant alone, with other targets. -/
def alone (place : String) (c : CellTenant) (targets : Dict Target) : Snapshot :=
  ⟨Dict.empty.insert place { c with targets }⟩

/-- The parts of a snapshot with one cell tenant: without targets if it has none, and otherwise with
each target alone. -/
inductive Part (s : Snapshot) : Snapshot → Prop
  | bare {place : String} {c : CellTenant} (hc : s.tenants.get? place = some c)
    (hempty : c.targets = .empty) : Part s (alone place c .empty)
  | target {place name : String} {c : CellTenant} {t : Target}
    (hc : s.tenants.get? place = some c) (ht : c.targets.get? name = some t) :
    Part s (alone place c (Dict.empty.insert name t))

theorem validate_alone_eq_error_iff {place : String} {c : CellTenant} {targets : Dict Target} :
    (alone place c targets).validate = .error v ↔
      TenantEntry.violation? ⟨place, c, targets.entries⟩ = some v := by
  rw [validate, Listing.validate_eq_error_iff]
  have hlisting : (alone place c targets).listing =
      [⟨place, { c with targets }, targets.entries⟩] := rfl
  rw [hlisting, Listing.violation?, List.findSome?_singleton]
  rfl

theorem mem_candidates_iff_part :
    v ∈ s.candidates ↔ ∃ part, s.Part part ∧ part.validate = .error v := by
  rw [mem_candidates_iff]
  constructor
  · rintro ⟨e, he, single, hsingle, hv⟩
    obtain ⟨hplace, htargets⟩ := mem_listing_iff.1 he
    rcases TenantEntry.mem_singles_iff.1 hsingle with ⟨hempty, rfl⟩ | ⟨t, ht, rfl⟩
    · have hnone : single.tenant.targets = .empty :=
        Dict.eq_of_perm (by rw [← htargets, hempty]; exact .refl _)
      refine ⟨_, .bare hplace hnone, validate_alone_eq_error_iff.2 ?_⟩
      rw [← hv, ← hnone, ← htargets]
    · exact ⟨_, .target hplace (Dict.mem_entries_iff.1 (htargets ▸ ht)),
        validate_alone_eq_error_iff.2 hv⟩
  · rintro ⟨part, hpart, hv⟩
    cases hpart with
    | @bare place c hc hempty =>
      refine ⟨⟨place, c, c.targets.entries⟩, mem_listing_iff.2 ⟨hc, rfl⟩, _,
        TenantEntry.mem_singles_iff.2 (.inl ⟨?_, rfl⟩), ?_⟩
      · rw [hempty]
        rfl
      · rw [hempty]
        exact validate_alone_eq_error_iff.1 hv
    | @target place name c t hc ht =>
      exact ⟨⟨place, c, c.targets.entries⟩, mem_listing_iff.2 ⟨hc, rfl⟩, _,
        TenantEntry.mem_singles_iff.2 (.inr ⟨(name, t), Dict.mem_entries_iff.2 ht, rfl⟩),
        validate_alone_eq_error_iff.1 hv⟩

/-- In whatever order validation meets the entries of a snapshot, it accepts the snapshot exactly if
it is valid. Over all orders, the violations that it reports are those of the parts with one cell
tenant and at most one target, which are the candidates. -/
theorem validation_exact (s : Snapshot) :
    (∀ l : Listing, l.Of s → (l.validate = .ok () ↔
      ∀ place c, s.tenants.get? place = some c → c.key.text = place ∧
        ∀ name t, c.targets.get? name = some t → t.name = name ∧ t.key.parent = c.key)) ∧
    ∀ v, ((∃ l : Listing, l.Of s ∧ l.validate = .error v) ↔
        ∃ part, s.Part part ∧ part.validate = .error v) ∧
      ((∃ part, s.Part part ∧ part.validate = .error v) ↔ v ∈ s.candidates) := by
  refine ⟨fun l hl => ?_, fun v => ⟨?_, mem_candidates_iff_part.symm⟩⟩
  · rw [hl.validate_eq_ok_iff]
    constructor
    · exact fun h place c hc => ⟨h.place place c hc, h.targets place c hc⟩
    · exact fun h => ⟨fun place c hc => (h place c hc).1, fun place c hc => (h place c hc).2⟩
  · rw [← mem_candidates_iff_part]
    constructor
    · rintro ⟨l, hl, hv⟩
      exact mem_candidates_of_reported hl hv
    · exact exists_reporting_of_mem_candidates

/-- A target under another name and one of another cell tenant: either can be what is reported. -/
theorem validation_exact_of_two_faults :
    let key : TenantKey := ⟨.broker, "a", "b"⟩
    let renamed : Target := { Target.blank.ofTenant key with name := "x" }
    let foreign : Target := { Target.blank with name := "y" }
    let s := alone key.text (.shell key) ((Dict.empty.insert "z" renamed).insert "y" foreign)
    (∃ l : Listing, l.Of s ∧ l.validate = .error (.misfiledTarget key "z" "x")) ∧
    ∃ l : Listing, l.Of s ∧ l.validate = .error (.foreignTarget key foreign.key) := by
  intro key renamed foreign s
  obtain ⟨-, hreported⟩ := validation_exact s
  have hreports : ∀ v ∈ s.candidates, ∃ l : Listing, l.Of s ∧ l.validate = .error v :=
    fun v hv => (hreported v).1.2 ((hreported v).2.2 hv)
  exact ⟨hreports _ (by decide +kernel), hreports _ (by decide +kernel)⟩

end Snapshot

end EventRouter
