import EventRouter.Proofs.Store.Edit
import Mathlib.Data.List.DropRight

/-! Deletions inside a transaction. A deletion starts over from an empty shell and marks the draft as
removed, and whatever edit comes next takes the mark away. So a deletion removes the cell tenant only
as the last edit, what comes before the last deletion is forgotten, and a transaction may be split
into two wherever no deletion is left at its end without an edit behind it. -/

namespace EventRouter

/-- The edits behind the last deletion; all of them if there is none. -/
def Edit.sinceDeletion (edits : List Edit) : List Edit := edits.rtakeWhile (· ≠ .delete)

namespace Edit

variable {edits : List Edit}

theorem delete_not_mem_sinceDeletion (edits : List Edit) : .delete ∉ sinceDeletion edits := by
  intro hmem
  simpa using List.mem_rtakeWhile_imp hmem

theorem sinceDeletion_of_not_mem (h : .delete ∉ edits) : sinceDeletion edits = edits := by
  refine List.rtakeWhile_eq_self_iff.2 fun e he => ?_
  have hne : e ≠ .delete := fun heq => h (heq ▸ he)
  simpa using hne

theorem eq_append_of_mem (h : .delete ∈ edits) :
    ∃ before, edits = before ++ .delete :: sinceDeletion edits := by
  induction edits using List.reverseRecOn with
  | nil => contradiction
  | append_singleton front e ih =>
    by_cases he : e = .delete
    · have hnil : sinceDeletion (front ++ [e]) = [] :=
        List.rtakeWhile_concat_neg _ front e (by simpa using he)
      exact ⟨front, by rw [hnil, he]⟩
    · have hconcat : sinceDeletion (front ++ [e]) = sinceDeletion front ++ [e] :=
        List.rtakeWhile_concat_pos _ front e (by simpa using he)
      have hfront : .delete ∈ front := by simpa [Ne.symm he] using h
      obtain ⟨before, hsplit⟩ := ih hfront
      refine ⟨before, ?_⟩
      rw [hconcat, ← List.cons_append, ← List.append_assoc, ← hsplit]

end Edit

namespace Draft

variable {key : TenantKey} {existing : Option CellTenant} {edits before after : List Edit}

/-! ### The mark of a deletion -/

theorem applyAll_append (d : Draft) (edits edits' : List Edit) :
    d.applyAll (edits ++ edits') = (d.applyAll edits).applyAll edits' := List.foldl_append

theorem removed_apply (d : Draft) (e : Edit) : (d.apply e).removed = true ↔ e = .delete := by
  cases e <;> simp [apply, keep]

theorem removed_start_iff :
    ((start key existing).applyAll edits).removed = true ↔ edits.getLast? = some .delete := by
  rcases edits.eq_nil_or_concat' with rfl | ⟨front, last, rfl⟩
  · simp [applyAll, start]
  · rw [applyAll_append, List.getLast?_concat, Option.some.injEq]
    exact removed_apply _ last

theorem remaining_eq_none_iff :
    remaining key existing edits = none ↔ edits.getLast? = some .delete := by
  have hmark : ((start key existing).applyAll edits).removed = true ↔ _ := removed_start_iff
  rw [remaining, ← hmark]
  split <;> simp_all

theorem commit_eq_remove_iff :
    ((start key existing).applyAll edits).commit = .remove ↔ edits.getLast? = some .delete := by
  have hmark : ((start key existing).applyAll edits).removed = true ↔ _ := removed_start_iff
  rw [commit, ← hmark]
  split <;> simp_all

/-- A draft that is marked as removed is an empty shell, so no draft remembers more behind a deletion
than the store does. -/
theorem tenant_of_removed (h : ((start key existing).applyAll edits).removed = true) :
    ((start key existing).applyAll edits).tenant = .shell key := by
  obtain ⟨front, rfl⟩ := List.getLast?_eq_some_iff.1 (removed_start_iff.1 h)
  rw [applyAll_append]
  show CellTenant.shell ((start key existing).applyAll front).key = _
  rw [key_applyAll, key_start]

/-- No edit looks at the mark. -/
theorem apply_marked (d : Draft) (removed : Bool) (e : Edit) :
    (Draft.mk d.key d.tenant removed).apply e = d.apply e := by
  cases e <;> rfl

theorem applyAll_marked (d : Draft) (removed : Bool) (h : edits ≠ []) :
    (Draft.mk d.key d.tenant removed).applyAll edits = d.applyAll edits := by
  obtain ⟨e, rest, rfl⟩ := List.exists_cons_of_ne_nil h
  exact congrArg (applyAll · rest) (d.apply_marked removed e)

/-- A deletion forgets all that was there before it, as soon as an edit comes behind it. -/
theorem applyAll_deletion (key : TenantKey) (existing : Option CellTenant) (before : List Edit)
    (h : after ≠ []) :
    (start key existing).applyAll (before ++ .delete :: after) =
      (start key none).applyAll after := by
  have hshell : ((start key existing).applyAll before).apply .delete = ⟨key, .shell key, true⟩ := by
    rw [apply, key_applyAll, key_start]
  rw [applyAll_append]
  show (((start key existing).applyAll before).apply .delete).applyAll after = _
  rw [hshell]
  exact applyAll_marked (start key none) true h

/-- The draft of a cell tenant that is to be kept: it is what the edits since the last deletion make
of an empty shell or, if there is no deletion, of what was stored. -/
theorem applyAll_of_kept (key : TenantKey) (existing : Option CellTenant)
    (h : edits.getLast? ≠ some .delete) :
    (start key existing).applyAll edits =
      (start key (if .delete ∈ edits then none else existing)).applyAll
        (Edit.sinceDeletion edits) := by
  by_cases hmem : .delete ∈ edits
  · obtain ⟨before, hsplit⟩ := Edit.eq_append_of_mem hmem
    have hne : Edit.sinceDeletion edits ≠ [] := by
      intro hnil
      rw [hnil] at hsplit
      exact h (hsplit ▸ List.getLast?_concat)
    have hforget := applyAll_deletion key existing before hne
    rw [← hsplit] at hforget
    rw [hforget, if_pos hmem]
  · rw [Edit.sinceDeletion_of_not_mem hmem, if_neg hmem]

/-! ### Deferred deletions -/

/-- A transaction removes its cell tenant if and only if its last edit is a deletion. With an edit
behind its last deletion it commits what the edits behind that deletion make of an empty shell,
whatever was stored and whatever came before. To remove what is not there changes no place. -/
theorem deletion_deferred (key : TenantKey) (edits : List Edit) :
    (∀ existing, ((start key existing).applyAll edits).commit = .remove ↔
      edits ≠ [] ∧ edits.getLast? = some .delete) ∧
    (∀ before after, edits = before ++ .delete :: after → .delete ∉ after → after ≠ [] →
      ∀ existing, ((start key existing).applyAll edits).commit =
        .upsert ((start key (some (.shell key))).applyAll after).tenant) ∧
    ∀ store : Store, edits.getLast? = some .delete → store.tenant? key = none →
      (store.edit key edits).snapshot = store.snapshot := by
  refine ⟨fun existing => ?_, ?_, fun store hlast hmissing => ?_⟩
  · rw [commit_eq_remove_iff, iff_and_self]
    rintro hlast rfl
    contradiction
  · rintro before after rfl hafter hne existing
    have hkept : ((start key none).applyAll after).removed = false := by
      rw [Bool.eq_false_iff, Ne, removed_start_iff]
      exact fun hlast => hafter (List.mem_of_getLast? hlast)
    rw [applyAll_deletion key existing before hne, commit, hkept, if_neg Bool.false_ne_true]
    rfl
  · rw [Store.snapshot_edit_eq_self_iff, hmissing]
    exact remaining_eq_none_iff.2 hlast

/-- Edits that change nothing bring back an empty shell all the same. -/
theorem deletion_deferred_of_idle_edits :
    let key : TenantKey := ⟨.broker, "a/b", ""⟩
    let idle : List Edit := [.setId "", .upsertTargets [], .deleteTargetsByName ["t"]]
    let edits : List Edit := .setAddress "x" :: .delete :: idle
    let deletion : List Edit := [.setAddress "x", .delete]
    .delete ∉ idle ∧ idle ≠ [] ∧ deletion.getLast? = some .delete ∧
    (∀ existing, ((start key existing).applyAll edits).commit = .upsert (.shell key)) ∧
    (∀ existing, ((start key existing).applyAll deletion).commit = .remove) ∧
    Store.empty.tenant? key = none ∧
      (Store.empty.edit key deletion).snapshot = Store.empty.snapshot := by
  intro key idle edits deletion
  obtain ⟨-, hkept, -⟩ := deletion_deferred key edits
  obtain ⟨hremove, -, hmissing⟩ := deletion_deferred key deletion
  refine ⟨by decide, by decide, rfl, fun existing => ?_, fun existing => ?_, rfl, ?_⟩
  · exact hkept [.setAddress "x"] idle rfl (by decide) (by decide) existing
  · exact (hremove existing).2 ⟨by decide, rfl⟩
  · exact hmissing .empty rfl rfl

/-! ### Split transactions -/

theorem remaining_of_kept (h : edits.getLast? ≠ some .delete) :
    remaining key existing edits = some ((start key existing).applyAll edits).tenant := by
  rw [remaining, if_neg (mt removed_start_iff.1 h)]

theorem remaining_congr {existing' : Option CellTenant} {edits' : List Edit}
    (h : (start key existing).applyAll edits = (start key existing').applyAll edits') :
    remaining key existing edits = remaining key existing' edits' := by
  simp only [remaining, h]

/-- A transaction goes on with what the one before it left; only the mark of a deletion is gone. -/
theorem start_remaining (key : TenantKey) (existing : Option CellTenant) (edits : List Edit) :
    start key (remaining key existing edits) =
      ⟨key, ((start key existing).applyAll edits).tenant, false⟩ := by
  by_cases hlast : edits.getLast? = some .delete
  · rw [remaining_eq_none_iff.2 hlast, tenant_of_removed (removed_start_iff.2 hlast)]
    rfl
  · rw [remaining_of_kept hlast]
    rfl

/-- Two transactions leave what the one of all their edits leaves, unless the first one ends with a
deletion and the second one has no edits, and so brings back an empty shell. -/
theorem remaining_remaining_iff (key : TenantKey) (existing : Option CellTenant)
    (edits edits' : List Edit) :
    remaining key (remaining key existing edits) edits' = remaining key existing (edits ++ edits') ↔
      ¬ (edits' = [] ∧ edits.getLast? = some .delete) := by
  by_cases hempty : edits' = []
  · -- Only here is the mark of the first transaction looked at before another edit takes it away.
    subst hempty
    rw [List.append_nil]
    by_cases hlast : edits.getLast? = some .delete
    · rw [remaining_eq_none_iff.2 hlast]
      exact iff_of_false (mt remaining_eq_none_iff.1 (by simp)) (not_not_intro ⟨rfl, hlast⟩)
    · rw [remaining_of_kept hlast]
      exact iff_of_true rfl fun h => hlast h.2
  · have hmarked := ((start key existing).applyAll edits).applyAll_marked false hempty
    rw [key_applyAll, key_start, ← start_remaining, ← applyAll_append] at hmarked
    exact iff_of_true (remaining_congr hmarked) fun h => hempty h.1

end Draft

/-- Edits committed in two transactions lead to the same snapshot as the same edits in one, unless
the first transaction ends with a deletion and the second one is empty. -/
theorem Store.split_transaction_iff (store : Store) (key : TenantKey) (edits edits' : List Edit) :
    ((store.edit key edits).edit key edits').snapshot =
        (store.edit key (edits ++ edits')).snapshot ↔
      ¬ (edits' = [] ∧ edits.getLast? = some .delete) := by
  have hplaces : ∀ place, place ≠ key.text →
      ((store.edit key edits).edit key edits').snapshot.tenants.get? place =
        (store.edit key (edits ++ edits')).snapshot.tenants.get? place := by
    intro place hplace
    simp only [get?_edit_of_ne _ _ hplace]
  rw [snapshot_eq_iff hplaces, tenant?_edit, tenant?_edit, tenant?_edit]
  exact Draft.remaining_remaining_iff key (store.tenant? key) edits edits'

end EventRouter
