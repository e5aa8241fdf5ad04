import EventRouter.Proofs.Store.Edit

/-! Clients that share a store, each with transactions on a cell tenant of its own. Transactions on
different keys commute, so all interleavings of the clients lead to the same store, and no client
loses a commit. -/

namespace EventRouter

/-- A list that takes its items from other lists: as long as some of them have items left, the first
one of any of these comes next. -/
inductive Interleaving {α : Type} : List (List α) → List α → Prop
  | done {lists : List (List α)} (h : ∀ l ∈ lists, l = []) : Interleaving lists []
  | next (front : List (List α)) {back : List (List α)} {a : α} {rest merged : List α}
    (h : Interleaving (front ++ rest :: back) merged) :
    Interleaving (front ++ (a :: rest) :: back) (a :: merged)

/-- A client edits one cell tenant, in one transaction after the other. -/
structure Client where
  key : TenantKey
  transactions : List (List Edit)

/-- The transactions of a client with the key that they are on. -/
def Client.commits (c : Client) : List (TenantKey × List Edit) := c.transactions.map (c.key, ·)

namespace Store

/-- The store after transactions. -/
def editAll (store : Store) (commits : List (TenantKey × List Edit)) : Store :=
  commits.foldl (fun store t => store.edit t.1 t.2) store

variable {store : Store} {key other : TenantKey}

/-- Transactions on different keys commute. -/
theorem edit_comm (store : Store) (hne : key ≠ other) (edits edits' : List Edit) :
    (store.edit key edits).edit other edits' = (store.edit other edits').edit key edits := by
  have htext : key.text ≠ other.text := fun h => hne (TenantKey.text_inj h)
  refine eq_of_get? (fun place => ?_) ?_ ?_
  · simp only [get?_edit, tenant?_edit_of_ne store edits hne.symm,
      tenant?_edit_of_ne store edits' hne]
    by_cases hkey : place = key.text
    · simp [hkey, htext]
    · simp [hkey]
  · simp only [version_edit]
  · simp only [changes_edit, version_edit, Channel.send]

/-! ### Transactions on one key among others -/

@[simp] theorem editAll_nil (store : Store) : store.editAll [] = store := rfl

@[simp] theorem editAll_cons (store : Store) (t : TenantKey × List Edit)
    (commits : List (TenantKey × List Edit)) :
    store.editAll (t :: commits) = (store.edit t.1 t.2).editAll commits := rfl

@[simp] theorem editAll_append (store : Store) (before after : List (TenantKey × List Edit)) :
    store.editAll (before ++ after) = (store.editAll before).editAll after := List.foldl_append

variable {commits : List (TenantKey × List Edit)}

/-- The two lists have no key in common. -/
def Apart (before after : List (TenantKey × List Edit)) : Prop :=
  ∀ t ∈ before, ∀ u ∈ after, t.1 ≠ u.1

theorem editAll_edit (store : Store) (h : ∀ t ∈ commits, t.1 ≠ key) (edits : List Edit) :
    (store.editAll commits).edit key edits = (store.edit key edits).editAll commits := by
  induction commits generalizing store with
  | nil => rfl
  | cons t rest ih =>
    have ⟨ht, hrest⟩ := List.forall_mem_cons.1 h
    rw [editAll_cons, ih _ hrest, edit_comm store ht, editAll_cons]

theorem editAll_comm (store : Store) {after : List (TenantKey × List Edit)}
    (h : Apart commits after) :
    (store.editAll commits).editAll after = (store.editAll after).editAll commits := by
  induction after generalizing store with
  | nil => rfl
  | cons u rest ih =>
    have hu : ∀ t ∈ commits, t.1 ≠ u.1 := fun t ht => h t ht u List.mem_cons_self
    have hrest : Apart commits rest := fun t ht v hv => h t ht v (List.mem_cons_of_mem u hv)
    rw [editAll_cons, editAll_edit store hu, ih _ hrest, editAll_cons]

/-- A place under which no transaction works stays as it is. -/
theorem get?_editAll_of_ne (store : Store) {place : String}
    (h : ∀ t ∈ commits, place ≠ t.1.text) :
    (store.editAll commits).snapshot.tenants.get? place = store.snapshot.tenants.get? place := by
  induction commits generalizing store with
  | nil => rfl
  | cons t rest ih =>
    have ⟨ht, hrest⟩ := List.forall_mem_cons.1 h
    rw [editAll_cons, ih _ hrest, get?_edit_of_ne _ _ ht]

theorem tenant?_editAll_of_ne (store : Store) (h : ∀ t ∈ commits, t.1 ≠ key) :
    (store.editAll commits).tenant? key = store.tenant? key :=
  get?_editAll_of_ne store fun t ht htext => h t ht (TenantKey.text_inj htext).symm

theorem version_editAll (store : Store) (commits : List (TenantKey × List Edit)) :
    (store.editAll commits).version = store.version + .ofNat commits.length := by
  induction commits generalizing store with
  | nil => simp
  | cons t rest ih =>
    rw [editAll_cons, ih, version_edit, List.length_cons, Nat.add_comm, UInt64.ofNat_add,
      UInt64.add_assoc]
    rfl

/-! ### Interleavings -/

theorem Apart.flatten {lists : List (List (TenantKey × List Edit))}
    (h : ∀ l ∈ lists, Apart l commits) : Apart lists.flatten commits := by
  intro t ht
  obtain ⟨l, hl, htl⟩ := List.mem_flatten.1 ht
  exact h l hl t htl

/-- However lists without common keys are interleaved, the store becomes what it becomes when one
list comes after the other. -/
theorem editAll_interleaving {lists : List (List (TenantKey × List Edit))}
    (hlists : lists.Pairwise Apart) (h : Interleaving lists commits) (store : Store) :
    store.editAll commits = store.editAll lists.flatten := by
  induction h generalizing store with
  | done h => rw [List.flatten_eq_nil_iff.2 h]
  | @next front back t rest _ _ ih =>
    obtain ⟨hfront, hback, hacross⟩ := List.pairwise_append.1 hlists
    obtain ⟨hhead, hback⟩ := List.pairwise_cons.1 hback
    have hrest : (front ++ rest :: back).Pairwise Apart := by
      refine List.pairwise_append.2 ⟨hfront, List.pairwise_cons.2 ⟨fun l hl u hu => ?_, hback⟩, ?_⟩
      · exact hhead l hl u (List.mem_cons_of_mem t hu)
      · intro l hl
        refine List.forall_mem_cons.2 ⟨fun u hu v hv => ?_, fun m hm => ?_⟩
        · exact hacross l hl _ List.mem_cons_self u hu v (List.mem_cons_of_mem t hv)
        · exact hacross l hl m (List.mem_cons_of_mem _ hm)
    -- The transaction that comes next has to pass all lists in front of its own.
    have hpass : ∀ u ∈ front.flatten, u.1 ≠ t.1 := fun u hu =>
      Apart.flatten (fun l hl => hacross l hl _ List.mem_cons_self) u hu t List.mem_cons_self
    rw [editAll_cons, ih hrest]
    simp only [List.flatten_append, List.flatten_cons, editAll_append, editAll_cons]
    rw [editAll_edit store hpass]

/-! ### Clients -/

variable {clients : List Client}

theorem key_of_mem_flatten {t : TenantKey × List Edit}
    (h : t ∈ (clients.map Client.commits).flatten) : ∃ c ∈ clients, t.1 = c.key := by
  obtain ⟨l, hl, ht⟩ := List.mem_flatten.1 h
  obtain ⟨c, hc, rfl⟩ := List.mem_map.1 hl
  obtain ⟨edits, -, rfl⟩ := List.mem_map.1 ht
  exact ⟨c, hc, rfl⟩

theorem pairwise_apart (hkeys : (clients.map (·.key)).Nodup) :
    (clients.map Client.commits).Pairwise Apart := by
  rw [List.pairwise_map]
  refine (List.pairwise_map.1 hkeys).imp fun {c d} hne t ht u hu => ?_
  obtain ⟨edits, -, rfl⟩ := List.mem_map.1 ht
  obtain ⟨edits', -, rfl⟩ := List.mem_map.1 hu
  exact hne

theorem key_ne_of_mem_flatten (h : ∀ c ∈ clients, c.key ≠ key) :
    ∀ t ∈ (clients.map Client.commits).flatten, t.1 ≠ key := by
  intro t ht
  obtain ⟨c, hc, htc⟩ := key_of_mem_flatten ht
  exact htc ▸ h c hc

theorem length_commits (clients : List Client) :
    (clients.map Client.commits).flatten.length =
      (clients.flatMap Client.transactions).length := by
  simp [Client.commits, List.length_flatten, List.length_flatMap, Function.comp_def]

/-- Where the clients have different keys, each one finds its cell tenant as if it were alone. -/
theorem tenant?_editAll_flatten (hkeys : (clients.map (·.key)).Nodup) {c : Client}
    (hc : c ∈ clients) (store : Store) :
    (store.editAll (clients.map Client.commits).flatten).tenant? c.key =
      (store.editAll c.commits).tenant? c.key := by
  obtain ⟨front, back, rfl⟩ := List.append_of_mem hc
  have hmiddle : c.key ∉ (front ++ back).map (·.key) :=
    (List.nodup_cons.1 ((List.perm_middle.map Client.key).nodup_iff.1 hkeys)).1
  have hother : ∀ d ∈ front ++ back, d.key ≠ c.key := fun d hd heq =>
    hmiddle (List.mem_map.2 ⟨d, hd, heq⟩)
  have hfront := key_ne_of_mem_flatten fun d hd => hother d (List.mem_append_left back hd)
  have hback := key_ne_of_mem_flatten fun d hd => hother d (List.mem_append_right front hd)
  have hapart : Apart (front.map Client.commits).flatten c.commits := by
    intro t ht u hu
    obtain ⟨edits, -, rfl⟩ := List.mem_map.1 hu
    exact hfront t ht
  simp only [List.map_append, List.map_cons, List.flatten_append, List.flatten_cons,
    editAll_append]
  rw [editAll_comm store hapart, tenant?_editAll_of_ne _ hback, tenant?_editAll_of_ne _ hfront]

/-- Clients with different keys lose no commit: in every interleaving of their transactions, the
cell tenant of each client becomes what the transactions of that client alone make of it, all other
places of the snapshot stay as they are, and the version grows by the number of transactions. So all
interleavings lead to the same store. Two transactions on different keys commute. -/
theorem interleavings_agree (start : Store) (hkeys : (clients.map (·.key)).Nodup)
    (hcommits : Interleaving (clients.map Client.commits) commits) :
    (∀ c ∈ clients,
      (start.editAll commits).tenant? c.key = (start.editAll c.commits).tenant? c.key) ∧
    (∀ place, (∀ c ∈ clients, place ≠ c.key.text) →
      (start.editAll commits).snapshot.tenants.get? place = start.snapshot.tenants.get? place) ∧
    (start.editAll commits).version =
      start.version + .ofNat (clients.flatMap Client.transactions).length ∧
    (∀ other, Interleaving (clients.map Client.commits) other →
      start.editAll other = start.editAll commits) ∧
    ∀ (store : Store) (key other : TenantKey) (edits edits' : List Edit), key ≠ other →
      (store.edit key edits).edit other edits' = (store.edit other edits').edit key edits := by
  have hall : ∀ other, Interleaving (clients.map Client.commits) other →
      start.editAll other = start.editAll (clients.map Client.commits).flatten :=
    fun other hother => editAll_interleaving (pairwise_apart hkeys) hother start
  rw [hall commits hcommits]
  refine ⟨fun c hc => tenant?_editAll_flatten hkeys hc start, fun place hplace => ?_, ?_, ?_, ?_⟩
  · refine get?_editAll_of_ne start fun t ht => ?_
    obtain ⟨c, hc, htc⟩ := key_of_mem_flatten ht
    exact htc ▸ hplace c hc
  · rw [version_editAll, length_commits]
  · exact hall
  · exact fun store key other edits edits' hne => edit_comm store hne edits edits'

/-- Two clients whose keys would have one text without escapes. The second one deletes a cell tenant
that is there, and one that is not, between the transactions of the first. -/
theorem interleavings_agree_of_separators :
    let first : Client := ⟨⟨.broker, "a", "b/"⟩, [[.setId "x", .setAddress "y"],
      [.upsertTargets [Target.blank]]]⟩
    let second : Client := ⟨⟨.broker, "a/b", ""⟩, [[.delete], [.delete]]⟩
    let commits := [(second.key, [.delete]), (first.key, [.setId "x", .setAddress "y"]),
      (second.key, [.delete]), (first.key, [.upsertTargets [Target.blank]])]
    let start := Store.ofSnapshot .awkward
    ([first, second].map (·.key)).Nodup ∧
    Interleaving ([first, second].map Client.commits) commits ∧
    (start.editAll commits).version = 4 ∧
    (start.editAll commits).tenant? second.key = none ∧
    ∀ other, Interleaving ([first, second].map Client.commits) other →
      start.editAll other = start.editAll commits := by
  intro first second commits start
  have hkeys : ([first, second].map (·.key)).Nodup := by decide
  have hcommits : Interleaving ([first, second].map Client.commits) commits :=
    .next [_] (.next [] (.next [_] (.next [] (.done (by decide)))))
  obtain ⟨htenants, -, hversion, hother, -⟩ := interleavings_agree start hkeys hcommits
  have halone : (start.editAll second.commits).tenant? second.key = none := by decide
  exact ⟨hkeys, hcommits, hversion, (htenants second (by simp)).trans halone, hother⟩

end Store

end EventRouter
