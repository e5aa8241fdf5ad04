import EventRouter.Proofs.Snapshot.Validity
import Mathlib.Algebra.GroupWithZero.Nat
import Mathlib.Data.List.Nodup
import Mathlib.Data.List.Perm.Basic

/-! What a listing meets: each cell tenant and each target of the snapshot once, in some order, so
as many as there are. In a valid snapshot, those that are met have pairwise different keys, and each
key leads back to what has it. -/

namespace EventRouter

theorem Snapshot.targetCount_eq_sum (s : Snapshot) :
    s.targetCount = (s.tenants.values.map (·.targets.size)).sum := by
  have hfoldl : ∀ (cs : List CellTenant) (n : Nat),
      cs.foldl (fun n c => n + c.targets.size) n = n + (cs.map (·.targets.size)).sum := by
    intro cs
    induction cs with
    | nil => intro n; simp
    | cons c cs ih => intro n; rw [List.foldl_cons, ih, List.map_cons, List.sum_cons, Nat.add_assoc]
  rw [targetCount, hfoldl, Nat.zero_add]

namespace Listing.Of

variable {l : Listing} {s : Snapshot}

theorem allTenants_perm (h : l.Of s) : l.allTenants.Perm s.tenants.values := by
  have hmap := h.tenants.map Prod.snd
  rwa [List.map_map] at hmap

theorem allTargets_perm (h : l.Of s) :
    l.allTargets.Perm (s.tenants.values.flatMap fun c => c.targets.values) := by
  have hentries : l.allTargets.Perm (l.flatMap fun e => e.tenant.targets.values) :=
    List.Perm.flatMap_left l fun e he => (h.targets e he).map Prod.snd
  have hflat := h.allTenants_perm.flatMap_right fun c => c.targets.values
  rw [allTenants, List.flatMap_map] at hflat
  exact hentries.trans hflat

theorem length_allTargets (h : l.Of s) : l.allTargets.length = s.targetCount := by
  rw [h.allTargets_perm.length_eq, List.length_flatMap, s.targetCount_eq_sum]
  simp only [Dict.values, List.length_map, Dict.size]

theorem mem_allTargets_iff (h : l.Of s) {t : Target} :
    t ∈ l.allTargets ↔ ∃ place c name, s.tenants.get? place = some c ∧
      c.targets.get? name = some t := by
  simp only [h.allTargets_perm.mem_iff, List.mem_flatMap, Dict.mem_values_iff]
  constructor
  · rintro ⟨c, ⟨place, hc⟩, name, ht⟩
    exact ⟨place, c, name, hc, ht⟩
  · rintro ⟨place, c, name, hc, ht⟩
    exact ⟨c, ⟨place, hc⟩, name, ht⟩

end Listing.Of

namespace Snapshot.Valid

variable {s : Snapshot} (h : s.Valid)

include h

/-- What stands at a place of a valid snapshot is found by the key of the target there. -/
theorem target?_key_of_get? {place name : String} {c : CellTenant} {t : Target}
    (hc : s.tenants.get? place = some c) (ht : c.targets.get? name = some t) :
    s.target? t.key = some t := by
  obtain ⟨hname, hparent⟩ := h.targets place c hc name t ht
  have htenant : s.tenant? t.tenantKey = some c := by
    rw [tenant?, hparent, h.place place c hc, hc]
  change (s.tenant? t.tenantKey).bind (fun c => c.targets.get? t.name) = some t
  rw [htenant, hname]
  exact ht

/-- The targets that a listing meets are those that their own keys lead to. -/
theorem mem_allTargets_iff {l : Listing} (hl : l.Of s) {t : Target} :
    t ∈ l.allTargets ↔ s.target? t.key = some t := by
  rw [hl.mem_allTargets_iff]
  constructor
  · rintro ⟨place, c, name, hc, ht⟩
    exact h.target?_key_of_get? hc ht
  · intro ht
    obtain ⟨c, hc, ht⟩ := Option.bind_eq_some_iff.1 ht
    exact ⟨_, c, _, hc, ht⟩

/-- The cell tenants that a listing meets are those that their own keys lead to. -/
theorem mem_allTenants_iff {l : Listing} (hl : l.Of s) {c : CellTenant} :
    c ∈ l.allTenants ↔ s.tenant? c.key = some c := by
  rw [hl.allTenants_perm.mem_iff, Dict.mem_values_iff]
  constructor
  · rintro ⟨place, hc⟩
    rwa [tenant?, h.place place c hc]
  · exact fun hc => ⟨_, hc⟩

theorem nodup_tenantKeys : (s.tenants.values.map CellTenant.key).Nodup :=
  Dict.nodup_map_values h.place

theorem nodup_targetKeys {l : Listing} (hl : l.Of s) : (l.allTargets.map Target.key).Nodup := by
  refine (hl.allTargets_perm.map Target.key).nodup_iff.2 ?_
  rw [List.map_flatMap, List.nodup_flatMap]
  constructor
  · -- Targets of one cell tenant differ in their names.
    intro c hc
    obtain ⟨place, hc⟩ := Dict.mem_values_iff.1 hc
    exact Dict.nodup_map_values (g := TargetKey.name) fun name t ht =>
      (h.targets place c hc name t ht).1
  · -- Targets of two cell tenants differ in the keys of these.
    have hparent : ∀ c ∈ s.tenants.values, ∀ key ∈ c.targets.values.map Target.key,
        key.parent = c.key := by
      intro c hc key hkey
      obtain ⟨place, hc⟩ := Dict.mem_values_iff.1 hc
      obtain ⟨t, ht, rfl⟩ := List.mem_map.1 hkey
      obtain ⟨name, ht⟩ := Dict.mem_values_iff.1 ht
      exact (h.targets place c hc name t ht).2
    refine (List.pairwise_map.1 h.nodup_tenantKeys).imp_of_mem fun {c d} hc hd hne => ?_
    intro key hkeyC hkeyD
    exact hne ((hparent c hc key hkeyC).symm.trans (hparent d hd key hkeyD))

end Snapshot.Valid

end EventRouter
