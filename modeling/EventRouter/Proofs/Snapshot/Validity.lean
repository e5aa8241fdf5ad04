import EventRouter.Proofs.Dict
import EventRouter.Proofs.Key.Codec
import EventRouter.Snapshot.Validation

/-! What validation accepts: the valid snapshots and no others, in whatever order it meets their
entries. In a valid snapshot, what stands under the text of a key has that key. -/

namespace EventRouter

/-- Each target stands under its own name and names the cell tenant with the given key. -/
def BelongTo (key : TenantKey) (targets : Dict Target) : Prop :=
  ∀ name t, targets.get? name = some t → t.name = name ∧ t.tenantKey = key

/-- Each cell tenant stands under the text of its own key, and its targets belong to it. -/
structure Snapshot.Valid (s : Snapshot) : Prop where
  place : ∀ place c, s.tenants.get? place = some c → c.key.text = place
  targets : ∀ place c, s.tenants.get? place = some c → BelongTo c.key c.targets

/-! ### Validation -/

theorem Target.violation?_eq_none_iff {parent : TenantKey} {place : String} {t : Target} :
    t.violation? parent place = none ↔ t.name = place ∧ t.tenantKey = parent := by
  have hparent : t.key.parent = t.tenantKey := rfl
  rw [violation?, hparent]
  split
  · simp_all [eq_comm]
  · split <;> simp_all

theorem TenantEntry.violation?_eq_none_iff {e : TenantEntry} :
    e.violation? = none ↔ e.tenant.key.text = e.place ∧
      ∀ t ∈ e.targets, t.2.name = t.1 ∧ t.2.tenantKey = e.tenant.key := by
  unfold violation?
  split
  · simp_all
  · simp_all [List.findSome?_eq_none_iff, Target.violation?_eq_none_iff]

namespace Listing

theorem validate_eq_ok_iff {l : Listing} :
    l.validate = .ok () ↔ ∀ e ∈ l, e.tenant.key.text = e.place ∧
      ∀ t ∈ e.targets, t.2.name = t.1 ∧ t.2.tenantKey = e.tenant.key := by
  simp only [← TenantEntry.violation?_eq_none_iff, ← List.findSome?_eq_none_iff]
  unfold validate violation?
  split <;> simp_all

variable {l : Listing} {s : Snapshot}

theorem Of.forall_mem_iff (h : l.Of s) {p : String → CellTenant → Prop} :
    (∀ e ∈ l, p e.place e.tenant) ↔ ∀ place c, s.tenants.get? place = some c → p place c := by
  rw [← Dict.forall_mem_entries_iff]
  constructor
  · intro hp e he
    obtain ⟨e', he', rfl⟩ := List.mem_map.1 (h.tenants.mem_iff.2 he)
    exact hp e' he'
  · intro hp e he
    exact hp (e.place, e.tenant) (h.tenants.mem_iff.1 (List.mem_map.2 ⟨e, he, rfl⟩))

/-- A listing is accepted exactly when its snapshot is valid. -/
theorem Of.validate_eq_ok_iff (h : l.Of s) : l.validate = .ok () ↔ s.Valid := by
  have htargets : ∀ e ∈ l, (∀ t ∈ e.targets, t.2.name = t.1 ∧ t.2.tenantKey = e.tenant.key) ↔
      BelongTo e.tenant.key e.tenant.targets := by
    intro e he
    unfold BelongTo
    rw [← Dict.forall_mem_entries_iff]
    exact forall_congr' fun t => imp_congr_left (h.targets e he).mem_iff
  have hentries : (∀ e ∈ l, e.tenant.key.text = e.place ∧
      ∀ t ∈ e.targets, t.2.name = t.1 ∧ t.2.tenantKey = e.tenant.key) ↔
      ∀ e ∈ l, e.tenant.key.text = e.place ∧ BelongTo e.tenant.key e.tenant.targets :=
    forall₂_congr fun e he => and_congr_right fun _ => htargets e he
  rw [Listing.validate_eq_ok_iff, hentries,
    h.forall_mem_iff (p := fun place c => c.key.text = place ∧ BelongTo c.key c.targets)]
  constructor
  · intro hv
    exact ⟨fun place c hc => (hv place c hc).1, fun place c hc => (hv place c hc).2⟩
  · intro hv place c hc
    exact ⟨hv.place place c hc, hv.targets place c hc⟩

end Listing

theorem BelongTo.empty (key : TenantKey) : BelongTo key .empty := by
  intro name t h
  simp at h

namespace Snapshot

/-! ### Valid snapshots -/

variable {s : Snapshot}

theorem validate_eq_ok_iff : s.validate = .ok () ↔ s.Valid :=
  s.listing_of.validate_eq_ok_iff

theorem isOk_validate_iff : s.validate.isOk = true ↔ s.Valid := by
  rw [← validate_eq_ok_iff]
  cases s.validate <;> simp [Except.isOk, Except.toBool]

theorem valid_empty : empty.Valid := by
  constructor <;> intro place c h <;> simp [empty] at h

/-- A valid snapshot with an awkward key: its namespace holds a separator, and its name is empty. -/
def awkward : Snapshot :=
  let key : TenantKey := ⟨.broker, "a/b", ""⟩
  let target : Target := { Target.blank with name := "t/", filter := Dict.empty.insert "type" "x" }
  ⟨Dict.empty.insert "broker/a%2Fb/"
    { CellTenant.shell key with targets := Dict.empty.insert "t/" (target.ofTenant key) }⟩

namespace Valid

/-- What a key finds has that key, since no other key has the same text. -/
theorem key_of_tenant? (h : s.Valid) {key : TenantKey} {c : CellTenant}
    (hc : s.tenant? key = some c) : c.key = key :=
  TenantKey.text_inj (h.place _ c hc)

theorem key_of_target? (h : s.Valid) {key : TargetKey} {t : Target}
    (ht : s.target? key = some t) : t.key = key := by
  obtain ⟨c, hc, ht⟩ := Option.bind_eq_some_iff.1 ht
  obtain ⟨hname, hparent⟩ := h.targets _ c hc _ t ht
  rw [Target.key, hparent, hname, h.key_of_tenant? hc]
  rfl

theorem insert (h : s.Valid) {c : CellTenant} {key : TenantKey} (hkey : c.key = key)
    (htargets : BelongTo key c.targets) : Valid ⟨s.tenants.insert key.text c⟩ := by
  subst hkey
  constructor
  · intro place c' hc'
    rw [Dict.get?_insert] at hc'
    split at hc'
    · next hplace => rw [← Option.some.inj hc', hplace]
    · exact h.place place c' hc'
  · intro place c' hc'
    rw [Dict.get?_insert] at hc'
    split at hc'
    · rwa [← Option.some.inj hc']
    · exact h.targets place c' hc'

theorem erase (h : s.Valid) (place : String) : Valid ⟨s.tenants.erase place⟩ := by
  have hget : ∀ place' c, (s.tenants.erase place).get? place' = some c →
      s.tenants.get? place' = some c := by
    intro place' c hc
    rw [Dict.get?_erase] at hc
    split at hc
    · contradiction
    · exact hc
  exact ⟨fun place' c hc => h.place place' c (hget place' c hc),
    fun place' c hc => h.targets place' c (hget place' c hc)⟩

end Valid

end Snapshot

end EventRouter
