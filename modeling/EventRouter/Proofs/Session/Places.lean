import EventRouter.Proofs.Session.Run

/-! The places of cell tenants, read back as keys. The text of a key with an empty namespace or an
empty name is no written key, but neither validation nor a transaction minds such a key, so a valid
snapshot can hold a place that is not read back. -/

namespace EventRouter

/-- Every place is read back as the key of the cell tenant there, unless that key has an empty
component; such a place is refused for it. -/
def Snapshot.ReadsBack (s : Snapshot) : Prop :=
  ∀ place c, s.tenants.get? place = some c → TenantKey.parse place =
    if c.key.ns = "" ∨ c.key.name = "" then .error (.emptyComponent place) else .ok c.key

theorem Snapshot.Valid.readsBack {s : Snapshot} (h : s.Valid) : s.ReadsBack := by
  intro place c hc
  rw [← h.place place c hc]
  exact c.key.parse_text

namespace Session

/-- A snapshot that passes validation reads back, in whatever order its entries were met, and so
does the snapshot of a store at every point of every run. -/
theorem places_read_back :
    (∀ (s : Snapshot) (l : Listing), l.Of s → l.validate = .ok () → s.ReadsBack) ∧
    ∀ start : Store, start.Initial → ∀ ops, ∀ store ∈ (Session.start start).stores ops,
      store.snapshot.ReadsBack := by
  constructor
  · intro s l hl hvalidate
    have hvalid : s.Valid := hl.validate_eq_ok_iff.1 hvalidate
    exact hvalid.readsBack
  · intro start hstart ops store hstore
    have hvalid := (reaches_of_mem_stores store hstore).valid hstart.valid
    exact hvalid.readsBack

/-- The places of a snapshot whose only key has no name, and of the one after a transaction on a key
that needs escapes. -/
theorem places_read_back_of_escapes :
    let start := Store.ofSnapshot .awkward
    let key : TenantKey := ⟨.channel, "a/b", "50%2F"⟩
    (Snapshot.awkward.listing.validate = .ok () ∧ Snapshot.awkward.ReadsBack ∧
      TenantKey.parse "broker/a%2Fb/" = .error (.emptyComponent "broker/a%2Fb/")) ∧
    Store.create .awkward = .ok start ∧
      (∀ store ∈ (Session.start start).stores [.transact key []], store.snapshot.ReadsBack) ∧
      TenantKey.parse "channel/a%2Fb/50%252F" = .ok key := by
  intro start key
  obtain ⟨hvalidated, hrun⟩ := places_read_back
  have hawkward : Snapshot.awkward.ReadsBack := hvalidated _ _ (Snapshot.listing_of _) rfl
  have hstores := hrun start (.create (s := .awkward) rfl) [.transact key []]
  have hplace : (start.transact key []).store.snapshot.tenants.get? "channel/a%2Fb/50%252F" =
      some (.shell key) := by decide +kernel
  refine ⟨⟨rfl, hawkward, ?_⟩, rfl, hstores, ?_⟩
  · exact hawkward "broker/a%2Fb/" _ rfl
  · exact hstores _ (List.mem_cons_of_mem _ (List.mem_singleton.2 rfl)) _ _ hplace

/-- A transaction may create a cell tenant without a namespace and a name. Its snapshot is valid,
and its place is not read back. -/
theorem not_every_place_read_back : ¬ ∀ s : Snapshot, s.validate = .ok () →
    ∀ place c, s.tenants.get? place = some c → TenantKey.parse place = .ok c.key := by
  intro h
  have hparse := h (Store.empty.transact ⟨.broker, "", ""⟩ []).store.snapshot rfl "broker//"
    (.shell ⟨.broker, "", ""⟩) rfl
  contradiction

end Session

end EventRouter
