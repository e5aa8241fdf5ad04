import EventRouter.Snapshot.Basic

/-! Listings of a snapshot: orders in which its cell tenants and their targets are met, and visits
that go through a listing until the visitor has seen enough. -/

namespace EventRouter

/-- A cell tenant in a listing: the text it is stored under, and the entries of its targets in the
order in which they are met. -/
structure TenantEntry where
  place : String
  tenant : CellTenant
  targets : List (String × Target)
deriving DecidableEq, Repr

/-- An order in which the cell tenants of a snapshot and the targets of each one are met. -/
abbrev Listing := List TenantEntry

namespace Listing

/-- The listing meets each cell tenant of a snapshot once, and each target of it once. -/
structure Of (l : Listing) (s : Snapshot) : Prop where
  tenants : (l.map fun e => (e.place, e.tenant)).Perm s.tenants.entries
  targets : ∀ e ∈ l, e.targets.Perm e.tenant.targets.entries

/-- The cell tenants in the order of a listing. -/
def allTenants (l : Listing) : List CellTenant := l.map (·.tenant)

/-- All targets in the order of a listing. -/
def allTargets (l : Listing) : List Target := l.flatMap fun e => e.targets.map (·.2)

end Listing

/-- The listing of a snapshot in ascending order. -/
def Snapshot.listing (s : Snapshot) : Listing :=
  s.tenants.entries.map fun e => ⟨e.1, e.2, e.2.targets.entries⟩

theorem Snapshot.listing_of (s : Snapshot) : s.listing.Of s where
  tenants := by simp [listing, Function.comp_def]
  targets e he := by
    simp only [listing, List.mem_map] at he
    obtain ⟨_, _, rfl⟩ := he
    exact .refl _

/-- Shows items to a visitor with a state, one by one until it answers `false`. The result is the
last state and whether the visitor would have gone on. -/
def visit (visitor : σ → α → σ × Bool) : σ → List α → σ × Bool
  | s, [] => (s, true)
  | s, a :: rest =>
    match visitor s a with
    | (s, true) => visit visitor s rest
    | (s, false) => (s, false)

namespace Listing

/-- Shows the cell tenants to a visitor. -/
def visitTenants (l : Listing) (visitor : σ → CellTenant → σ × Bool) (s : σ) : σ :=
  (visit (fun s (e : TenantEntry) => visitor s e.tenant) s l).1

/-- Shows the targets of one cell tenant to a visitor. -/
def visitEntry (visitor : σ → Target → σ × Bool) (s : σ) (e : TenantEntry) : σ × Bool :=
  visit (fun s (t : String × Target) => visitor s t.2) s e.targets

/-- Shows the targets to a visitor, cell tenant by cell tenant; one answer ends the visit of all. -/
def visitTargets (l : Listing) (visitor : σ → Target → σ × Bool) (s : σ) : σ :=
  (visit (visitEntry visitor) s l).1

end Listing

end EventRouter
