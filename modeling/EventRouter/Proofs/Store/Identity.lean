import EventRouter.Proofs.Store.NetEffect

/-! The ids of cell tenants. An id is assigned once: from then on edits ask for another one in vain,
and each time they do, a record tells of it. Only a deletion takes the id away, so where a cell
tenant has lost its id there is a first transaction with a deletion that it was lost in. -/

namespace EventRouter

namespace Action

/-- The edits that a callback makes until it ends or panics. -/
def made : List Action → List Edit
  | [] => []
  | .edit e :: rest => e :: made rest
  | .peek _ :: rest => made rest
  | .panic :: _ => []

theorem edits?_eq_some_made {actions : List Action} (h : .panic ∉ actions) :
    edits? actions = some (made actions) := by
  induction actions with
  | nil => rfl
  | cons action rest ih =>
    obtain ⟨hfirst, hrest⟩ := not_or.1 (mt List.mem_cons.2 h)
    cases action with
    | edit e => rw [edits?, ih hrest]; rfl
    | peek key => exact ih hrest
    | panic => contradiction

theorem edit_mem_of_mem_made {actions : List Action} {e : Edit} (h : e ∈ made actions) :
    .edit e ∈ actions := by
  fun_induction made actions with
  | case1 => contradiction
  | case2 e' rest ih =>
    rcases List.mem_cons.1 h with rfl | h
    · exact List.mem_cons_self
    · exact List.mem_cons_of_mem _ (ih h)
  | case3 key rest ih => exact List.mem_cons_of_mem _ (ih h)
  | case4 => contradiction

end Action

namespace Edit

/-- The id that edits leave where one is stored; the empty text stands for no id. -/
def idAfter (stored : String) (edits : List Edit) : String :=
  if stored ≠ "" ∧ .delete ∉ edits then stored else firstId (sinceDeletion edits)

/-- The record of an edit that asks for an id when there is another one. -/
def refusal? (key : TenantKey) (current : String) : Edit → Option LogRecord
  | setId id => if current ≠ "" ∧ current ≠ id then some (.idKept key current id) else none
  | _ => none

/-- The records of such edits, in order, behind the edits `before`. -/
def refusals (key : TenantKey) (stored : String) (before : List Edit) : List Edit → List LogRecord
  | [] => []
  | e :: rest =>
    (refusal? key (idAfter stored before) e).toList ++ refusals key stored (before ++ [e]) rest

end Edit

namespace Draft

variable {key : TenantKey} {existing : Option CellTenant} {edits : List Edit}

theorem id_applyAll (key : TenantKey) (existing : Option CellTenant) (edits : List Edit) :
    ((start key existing).applyAll edits).tenant.id =
      Edit.idAfter (existing.elim "" (·.id)) edits := by
  rw [Edit.idAfter]
  by_cases hlast : edits.getLast? = some .delete
  · -- A draft that is marked as removed is an empty shell, and no edit stands behind the deletion.
    have hnil : Edit.sinceDeletion edits = [] := by
      obtain ⟨front, rfl⟩ := List.getLast?_eq_some_iff.1 hlast
      exact List.rtakeWhile_concat_neg _ front .delete (by simp)
    rw [tenant_of_removed (removed_start_iff.2 hlast), hnil,
      if_neg fun h => h.2 (List.mem_of_getLast? hlast)]
    rfl
  · rw [(net_of_kept key existing hlast).id]
    by_cases hmem : .delete ∈ edits
    · simp [hmem, start, CellTenant.shell]
    · cases existing with
      | none => simp [start, CellTenant.shell]
      | some c => by_cases hid : c.id = "" <;> simp [hmem, hid, start]

theorem warning?_eq (d : Draft) (e : Edit) :
    d.warning? e = Edit.refusal? d.key d.tenant.id e := by
  cases e with
  | setId id =>
    simp only [warning?, mayAssign, Edit.refusal?]
    by_cases hempty : d.tenant.id = ""
    · simp [hempty]
    · by_cases hid : d.tenant.id = id <;> simp [hempty, hid]
  | _ => rfl

end Draft

namespace Store

/-- The id of the cell tenant with a key, if there is such a cell tenant. -/
def id? (store : Store) (key : TenantKey) : Option String := (store.tenant? key).map (·.id)

variable {store : Store} {key other : TenantKey} {id : String} {actions : List Action}

theorem elim_tenant? (store : Store) (key : TenantKey) :
    (store.tenant? key).elim "" (·.id) = (store.id? key).getD "" := by
  rw [id?]
  cases store.tenant? key <;> rfl

/-! ### One transaction -/

theorem log_runCallback (store : Store) (key : TenantKey) (existing : Option CellTenant)
    (before : List Edit) (actions : List Action) :
    (store.runCallback ((Draft.start key existing).applyAll before) actions).log =
      Edit.refusals key (existing.elim "" (·.id)) before (Action.made actions) := by
  -- The draft at hand is always the one that the edits so far have made.
  fun_induction Action.made actions generalizing before with
  | case1 => rfl
  | case2 e rest ih =>
    have hrest := ih (before ++ [e])
    rw [Draft.applyAll_append] at hrest
    rw [Edit.refusals, ← hrest, ← Draft.id_applyAll key, runCallback, Draft.warning?_eq,
      Draft.key_applyAll]
    rfl
  | case3 _ rest ih => exact ih before
  | case4 => rfl

theorem name_of_mem_refusals {stored : String} {before edits : List Edit} {r : LogRecord}
    (h : r ∈ Edit.refusals key stored before edits) :
    r.name = "cell_tenant_id_change_ignored" := by
  induction edits generalizing before with
  | nil => contradiction
  | cons e rest ih =>
    rcases List.mem_append.1 h with hfirst | hrest
    · cases e with
      | setId id =>
        rw [Option.mem_toList, Edit.refusal?, Option.ite_none_right_eq_some] at hfirst
        rw [← Option.some.inj hfirst.2]
        rfl
      | _ => contradiction
    · exact ih hrest

/-- The records about ids that a transaction leaves, whether it commits or panics. -/
theorem filter_log_transact (store : Store) (key : TenantKey) (actions : List Action) :
    (store.transact key actions).log.filter (·.name = "cell_tenant_id_change_ignored") =
      Edit.refusals key ((store.id? key).getD "") [] (Action.made actions) := by
  have hlog := store.log_runCallback key (store.tenant? key) [] actions
  have hrefusals : (Edit.refusals key ((store.id? key).getD "") [] (Action.made actions)).filter
      (·.name = "cell_tenant_id_change_ignored") = _ :=
    List.filter_eq_self.2 fun r hr => decide_eq_true (name_of_mem_refusals hr)
  have hcommit (c : Commit) : (store.commit key c).2.name ≠ "cell_tenant_id_change_ignored" := by
    cases c <;> simp [commit, LogRecord.name]
  rw [elim_tenant?] at hlog
  simp only [transact]
  split
  · rw [← hrefusals]
    exact congrArg _ hlog
  · next d hd =>
    rw [List.filter_append, List.filter_cons_of_neg (by simpa using hcommit d.commit),
      List.filter_nil, List.append_nil, ← hrefusals]
    exact congrArg _ hlog

theorem tenant?_transact_of_kept (hpanic : .panic ∉ actions)
    (hlast : (Action.made actions).getLast? ≠ some .delete) :
    (store.transact key actions).store.tenant? key =
      some ((Draft.start key (store.tenant? key)).applyAll (Action.made actions)).tenant := by
  rw [transact_of_edits (Action.edits?_eq_some_made hpanic), tenant?_commit, if_pos rfl,
    if_neg (mt Draft.removed_start_iff.1 hlast)]

/-- Transactions on other cell tenants and those that panic leave a cell tenant as it is. -/
theorem tenant?_transact_of_idle (h : ¬ (other = key ∧ .panic ∉ actions)) :
    (store.transact other actions).store.tenant? key = store.tenant? key := by
  by_cases hkey : other = key
  · have hpanic : .panic ∈ actions := not_and_not_right.1 h hkey
    rw [transact_of_panic (Action.edits?_eq_none_iff.2 hpanic)]
  · exact store.tenant?_transact_of_ne actions (Ne.symm hkey)

/-- The id that a transaction commits. -/
theorem id?_transact (hpanic : .panic ∉ actions)
    (hlast : (Action.made actions).getLast? ≠ some .delete) :
    (store.transact key actions).store.id? key =
      some (Edit.idAfter ((store.id? key).getD "") (Action.made actions)) := by
  rw [id?, tenant?_transact_of_kept hpanic hlast, Option.map_some, Draft.id_applyAll, elim_tenant?]

/-! ### A run of changes -/

/-- An id is lost by a deletion of its cell tenant alone, unless the whole snapshot is replaced. -/
theorem exists_delete_of_id?_change {c : Change} (hid : store.id? key = some id) (hne : id ≠ "")
    (hreplace : ∀ s, c = .replace s → ¬ s.Valid) (hlost : (store.change c).id? key ≠ some id) :
    ∃ actions, c = .transact key actions ∧ .panic ∉ actions ∧ .edit .delete ∈ actions := by
  cases c with
  | replace s =>
    rw [store.replace_of_not_valid (hreplace s rfl)] at hlost
    exact absurd hid hlost
  | transact other actions =>
    have hcommits : other = key ∧ .panic ∉ actions := by
      refine Classical.byContradiction fun hidle => hlost ?_
      rw [id?, change, tenant?_transact_of_idle hidle]
      exact hid
    obtain ⟨rfl, hpanic⟩ := hcommits
    refine ⟨actions, rfl, hpanic, Classical.byContradiction fun hdelete => hlost ?_⟩
    have hmade : .delete ∉ Action.made actions := mt Action.edit_mem_of_mem_made hdelete
    rw [change, id?_transact hpanic fun hlast => hmade (List.mem_of_getLast? hlast), hid,
      Option.getD_some, Edit.idAfter, if_pos ⟨hne, hmade⟩]

/-- Where an id has been lost over changes, there is a first change that it was lost in. -/
theorem exists_deletion {changes : List Change} (hid : store.id? key = some id) (hne : id ≠ "")
    (hreplace : ∀ s, .replace s ∈ changes → ¬ s.Valid)
    (hlost : (store.changeAll changes).id? key ≠ some id) :
    ∃ before actions after, changes = before ++ .transact key actions :: after ∧
      .panic ∉ actions ∧ .edit .delete ∈ actions ∧
      (store.changeAll before).id? key = some id ∧
      ((store.changeAll before).change (.transact key actions)).id? key ≠ some id := by
  induction changes generalizing store with
  | nil => exact absurd hid hlost
  | cons c rest ih =>
    by_cases hkept : (store.change c).id? key = some id
    · obtain ⟨before, actions, after, rfl, hsplit⟩ :=
        ih hkept (fun s hs => hreplace s (List.mem_cons_of_mem c hs)) hlost
      exact ⟨c :: before, actions, after, rfl, hsplit⟩
    · obtain ⟨actions, rfl, hpanic, hdelete⟩ :=
        exists_delete_of_id?_change hid hne (fun s hs => hreplace s (hs ▸ List.mem_cons_self)) hkept
      exact ⟨[], actions, rest, rfl, hpanic, hdelete, hid, hkept⟩

end Store

end EventRouter
