import EventRouter.Proofs.Session.Run
import EventRouter.Proofs.Snapshot.Visit

/-! Enumerations of a store and lookups in it. What a visit of all targets or of all cell tenants
meets is what lookups find by its own key, at every point of every run and in whatever order the
entries are met. -/

namespace EventRouter

universe u

variable {α κ : Type}

/-- The items are those that their own keys find, each of them once. -/
structure Enumerates (key : α → κ) (find : κ → Option α) (items : List α) : Prop where
  once : items.Nodup
  keys : (items.map key).Nodup
  found : ∀ a, a ∈ items ↔ find (key a) = some a

namespace Snapshot.Valid

variable {s : Snapshot} {l : Listing} (h : s.Valid) (hl : l.Of s)

include h hl

theorem enumerates_targets : Enumerates Target.key s.target? l.allTargets where
  once := (h.nodup_targetKeys hl).of_map
  keys := h.nodup_targetKeys hl
  found _ := h.mem_allTargets_iff hl

theorem enumerates_tenants : Enumerates CellTenant.key s.tenant? l.allTenants := by
  have hkeys : (l.allTenants.map CellTenant.key).Nodup :=
    (hl.allTenants_perm.map CellTenant.key).nodup_iff.2 h.nodup_tenantKeys
  exact ⟨hkeys.of_map, hkeys, fun _ => h.mem_allTenants_iff hl⟩

end Snapshot.Valid

namespace Session

/-- At every point of every run, a visit of the targets shows those that lookups find by their own
keys, each one once and as many as are counted, and a visit of the cell tenants does the same for
cell tenants. A visitor that refuses to go on is called with nothing more, also not with a target of
another cell tenant. -/
theorem visits_agree_with_lookups {start : Store} (h : start.Initial) (ops : List Operation) :
    ∀ store ∈ (Session.start start).stores ops, ∀ l : Listing, l.Of store.snapshot →
      (Ranges.{u} l.visitTargets l.allTargets ∧
        Enumerates Target.key store.target? l.allTargets ∧
        l.allTargets.length = store.snapshot.targetCount) ∧
      Ranges.{u} l.visitTenants l.allTenants ∧
        Enumerates CellTenant.key store.tenant? l.allTenants := by
  intro store hstore l hl
  have hvalid := (reaches_of_mem_stores store hstore).valid h.valid
  have htargets : Ranges.{u} l.visitTargets l.allTargets := ranges_of_visit l.visitTargets_eq
  have htenants : Ranges.{u} l.visitTenants l.allTenants := ranges_of_visit l.visitTenants_eq
  exact ⟨⟨htargets, hvalid.enumerates_targets hl, hl.length_allTargets⟩, htenants,
    hvalid.enumerates_tenants hl⟩

/-- Two cell tenants with a target each, and a visitor that refuses at its first call. -/
theorem visits_agree_with_lookups_of_refusal :
    let key : TenantKey := ⟨.broker, "a", "b/"⟩
    let target : Target := { Target.blank with name := "t/" }
    let store := (Store.ofSnapshot .awkward).edit key [.upsertTargets [target]]
    (Store.create .awkward = .ok (.ofSnapshot .awkward) ∧
      store ∈ (start (.ofSnapshot .awkward)).stores
        [.transact key [.edit (.upsertTargets [target])]] ∧
      store.snapshot.listing.Of store.snapshot) ∧
    Enumerates Target.key store.target? store.snapshot.listing.allTargets ∧
    store.snapshot.listing.allTargets.length = 2 ∧
    store.snapshot.listing.visitTargets (noting fun n _ => (n + 1, false)) (0, []) =
      (1, store.snapshot.listing.allTargets.take 1) := by
  intro key target store
  have hstore : store ∈ (start (.ofSnapshot .awkward)).stores
      [.transact key [.edit (.upsertTargets [target])]] :=
    List.mem_cons_of_mem _ (List.mem_singleton.2 rfl)
  have hrun := visits_agree_with_lookups.{0} (.create (s := .awkward) rfl) _ store hstore
  obtain ⟨⟨-, htargets, hcount⟩, -⟩ := hrun _ (Snapshot.listing_of _)
  refine ⟨⟨rfl, hstore, Snapshot.listing_of _⟩, htargets, hcount.trans ?_, ?_⟩
  · decide +kernel
  · decide +kernel

end Session

end EventRouter
