import EventRouter.Proofs.Store.Identity

/-! The ids of targets. A target that is put under a name takes the place of the one there as a
whole, and nothing looks at the id that goes with it. So a target that is not deleted has the id of
the last one that was put under its name, and keeps an id as long as those that are put there have
it, too. -/

namespace EventRouter

namespace Mention

variable {name : String}

def target? : Mention → Option Target
  | put t => some t
  | drop _ => none

theorem filter_name_of_not_dropped {mentions : List Mention} (h : .drop name ∉ mentions) :
    mentions.filter (·.name = name) =
      ((mentions.filterMap target?).filter (·.name = name)).map .put := by
  induction mentions with
  | nil => rfl
  | cons m rest ih =>
    obtain ⟨hfirst, hrest⟩ := not_or.1 (mt List.mem_cons.2 h)
    cases m with
    | put t =>
      have hput : (put t :: rest).filterMap target? = t :: rest.filterMap target? := rfl
      rw [hput, List.filter_cons, List.filter_cons, ih hrest]
      by_cases ht : t.name = name <;> simp [Mention.name, ht]
    | drop name' =>
      have hdrop : (drop name' :: rest).filterMap target? = rest.filterMap target? := rfl
      have hname : name' ≠ name := fun heq => hfirst (heq ▸ rfl)
      rw [hdrop, List.filter_cons_of_neg (by simp [Mention.name, hname]), ih hrest]

end Mention

namespace Edit

variable {name : String} {edits : List Edit}

/-- The targets that edits put under a name, in the order of edits and lists. -/
def upserts (name : String) (edits : List Edit) : List Target :=
  ((edits.flatMap mentions).filterMap Mention.target?).filter (·.name = name)

/-- Edits that delete neither the cell tenant nor its target with a name. -/
structure Spares (name : String) (edits : List Edit) : Prop where
  tenant : .delete ∉ edits
  target : .drop name ∉ edits.flatMap mentions

theorem Spares.lastMention_eq (h : Spares name edits) :
    lastMention name edits = (upserts name edits).getLast?.map .put := by
  rw [lastMention, Mention.last?, Mention.filter_name_of_not_dropped h.target, List.getLast?_map]
  rfl

theorem Spares.getLast?_ne (h : Spares name edits) : edits.getLast? ≠ some .delete :=
  fun hlast => h.tenant (List.mem_of_getLast? hlast)

end Edit

namespace Store

/-- The id of the target with a key, if there is such a target. -/
def targetId? (store : Store) (key : TargetKey) : Option String := (store.target? key).map (·.id)

variable {store : Store} {key other : TenantKey} {name id : String} {actions : List Action}

/-! ### One change -/

theorem targetId?_eq (store : Store) (key : TenantKey) (name : String) :
    store.targetId? (key.target name) =
      ((store.tenant? key).bind fun c => c.targets.get? name).map (·.id) := rfl

/-- A transaction leaves the id of the last target that it puts under a name, or else the one from
before. -/
theorem targetId?_transact (hpanic : .panic ∉ actions)
    (h : Edit.Spares name (Action.made actions)) :
    (store.transact key actions).store.targetId? (key.target name) =
      ((Edit.upserts name (Action.made actions)).getLast?.map (·.id)).or
        (store.targetId? (key.target name)) := by
  rw [targetId?_eq, targetId?_eq, tenant?_transact_of_kept hpanic h.getLast?_ne, Option.bind_some,
    Draft.get?_targets_of_kept key _ h.getLast?_ne, Edit.sinceDeletion_of_not_mem h.tenant,
    if_neg h.tenant, h.lastMention_eq]
  cases (Edit.upserts name (Action.made actions)).getLast? <;> rfl

namespace Change

/-- A change that commits neither another snapshot nor a deletion of a target or its cell tenant. -/
def Spares (key : TenantKey) (name : String) : Change → Prop
  | transact other actions =>
    other = key → .panic ∉ actions → Edit.Spares name (Action.made actions)
  | replace s => ¬ s.Valid

/-- The targets that a change commits under a name of a cell tenant. -/
def upserts (key : TenantKey) (name : String) : Change → List Target
  | transact other actions =>
    if other = key ∧ .panic ∉ actions then Edit.upserts name (Action.made actions) else []
  | replace _ => []

end Change

theorem targetId?_change {c : Change} (h : c.Spares key name) :
    (store.change c).targetId? (key.target name) =
      ((c.upserts key name).getLast?.map (·.id)).or (store.targetId? (key.target name)) := by
  cases c with
  | replace s =>
    rw [store.replace_of_not_valid h]
    rfl
  | transact other actions =>
    rw [change, Change.upserts]
    by_cases hcommits : other = key ∧ .panic ∉ actions
    · obtain ⟨rfl, hpanic⟩ := hcommits
      rw [if_pos ⟨rfl, hpanic⟩]
      exact targetId?_transact hpanic (h rfl hpanic)
    · rw [if_neg hcommits, targetId?_eq, tenant?_transact_of_idle hcommits]
      rfl

theorem targetId?_change_eq_iff {c : Change} (h : c.Spares key name)
    (hid : store.targetId? (key.target name) = some id) :
    (store.change c).targetId? (key.target name) = some id ↔
      ∀ t ∈ (c.upserts key name).getLast?, t.id = id := by
  rw [targetId?_change h, hid]
  cases (c.upserts key name).getLast? <;> simp

/-! ### A run of changes -/

/-- A target keeps its id at every point of a run if and only if no change puts a target with
another id last under its name. -/
theorem forall_points_iff {changes : List Change} (h : ∀ c ∈ changes, c.Spares key name)
    (hid : store.targetId? (key.target name) = some id) :
    (∀ point ∈ changes.scanl change store, point.targetId? (key.target name) = some id) ↔
      ∀ c ∈ changes, ∀ t ∈ (c.upserts key name).getLast?, t.id = id := by
  induction changes generalizing store with
  | nil => simpa using hid
  | cons c rest ih =>
    obtain ⟨hfirst, hrest⟩ := List.forall_mem_cons.1 h
    have hstep := targetId?_change_eq_iff hfirst hid
    rw [List.scanl_cons, List.forall_mem_cons, List.forall_mem_cons, ← hstep]
    -- The rest of the run begins where the first change ends, which is a point of the run itself.
    constructor
    · rintro ⟨-, hpoints⟩
      have hkept := hpoints (store.change c) (by cases rest <;> simp)
      exact ⟨hkept, (ih hrest hkept).1 hpoints⟩
    · rintro ⟨hkept, hupserts⟩
      exact ⟨hid, (ih hrest hkept).2 hupserts⟩

/-- A transaction that deletes neither a target nor its cell tenant leaves the target there, but
with the id of the last one that it puts under that name, if any. So the target keeps its id if and
only if that one has it, too, or the callback panics; and it keeps its id at every point of a run if
and only if every change puts a target with this id last under the name, or none. -/
theorem target_id_kept_iff (store : Store) (key : TenantKey) (name id : String)
    (hid : store.targetId? (key.target name) = some id) :
    (∀ actions, Edit.Spares name (Action.made actions) →
      let after := (store.transact key actions).store
      let last? := (Edit.upserts name (Action.made actions)).getLast?
      after.targetId? (key.target name) =
        some (if .panic ∈ actions then id else (last?.map (·.id)).getD id) ∧
      (after.targetId? (key.target name) = some id ↔
        .panic ∈ actions ∨ ∀ t ∈ last?, t.id = id)) ∧
    ∀ changes : List Change, (∀ c ∈ changes, c.Spares key name) →
      ((∀ point ∈ changes.scanl change store, point.targetId? (key.target name) = some id) ↔
        ∀ c ∈ changes, ∀ t ∈ (c.upserts key name).getLast?, t.id = id) := by
  refine ⟨fun actions hspares => ?_, fun changes h => forall_points_iff h hid⟩
  intro after last?
  by_cases hpanic : .panic ∈ actions
  · have hkept : after = store := transact_of_panic (Action.edits?_eq_none_iff.2 hpanic)
    rw [hkept, if_pos hpanic]
    exact ⟨hid, iff_of_true hid (.inl hpanic)⟩
  · have hafter : after.targetId? (key.target name) =
        (last?.map (·.id)).or (store.targetId? (key.target name)) :=
      targetId?_transact hpanic hspares
    rw [hafter, hid, if_neg hpanic]
    cases last? <;> simp [hpanic]

/-- A target with an id is replaced by one with another id and put back in one list, beside targets
of other names; and it loses the id to a target without one. -/
theorem target_id_kept_iff_of_repeats :
    let key : TenantKey := ⟨.broker, "a/b", ""⟩
    let target (name id : String) : Target := { Target.blank with name, id }
    let store := (ofSnapshot .awkward).edit key [.upsertTargets [target "t/" "1"]]
    let back : List Action := [
      .edit (.upsertTargets [target "t/" "2", target "t" "3", target "t/" "1"]), .peek key,
      .edit (.deleteTargetsByName ["t"])]
    let away : List Action := [.edit (.upsertTargets [target "t/" "1"]),
      .edit (.upsertTargets [target "t/" ""])]
    let refused : Snapshot := ⟨Dict.empty.insert "broker/a/b" (.shell key)⟩
    let changes : List Change := [.transact key back, .transact key (away ++ [.panic]),
      .transact ⟨.broker, "a", "b/"⟩ [.edit .delete], .replace refused]
    store.targetId? (key.target "t/") = some "1" ∧
    Edit.Spares "t/" (Action.made back) ∧
      (store.transact key back).store.targetId? (key.target "t/") = some "1" ∧
    Edit.Spares "t/" (Action.made away) ∧
      (store.transact key away).store.targetId? (key.target "t/") = some "" ∧
    (∀ c ∈ changes, c.Spares key "t/") ∧
      ∀ point ∈ changes.scanl change store, point.targetId? (key.target "t/") = some "1" := by
  intro key target store back away refused changes
  have hid : store.targetId? (key.target "t/") = some "1" := by decide +kernel
  obtain ⟨htransact, hrun⟩ := target_id_kept_iff store key "t/" "1" hid
  have hback : Edit.Spares "t/" (Action.made back) := ⟨by decide, by decide⟩
  have haway : Edit.Spares "t/" (Action.made away) := ⟨by decide, by decide⟩
  have hrefused : ¬ refused.Valid := by
    rw [← Snapshot.isOk_validate_iff]
    decide +kernel
  have hchanges : ∀ c ∈ changes, c.Spares key "t/" := by
    simp only [changes, List.forall_mem_cons, Change.Spares]
    exact ⟨fun _ _ => hback, fun _ hpanic => absurd (by simp) hpanic,
      fun hkey => by simp [key] at hkey, hrefused, List.forall_mem_nil _⟩
  refine ⟨hid, hback, ?_, haway, ?_, hchanges, (hrun changes hchanges).2 ?_⟩
  · exact (htransact back hback).2.2 (.inr (by decide))
  · exact (htransact away haway).1
  · decide

/-- Nothing keeps the id of a target from being replaced. -/
theorem not_every_target_id_kept : ¬ ∀ (start : Store) (changes : List Change), start.Initial →
    ∀ (key : TenantKey) (name id : String) (actions : List Action),
      (start.changeAll changes).targetId? (key.target name) = some id → id ≠ "" →
      Edit.Spares name (Action.made actions) →
      ((start.changeAll changes).transact key actions).store.targetId? (key.target name) =
        some id := by
  intro h
  let key : TenantKey := ⟨.broker, "ns", "broker"⟩
  let target (id : String) : Target := { Target.blank with name := "t1", id }
  let changes : List Change := [.transact key [.edit (.upsertTargets [target "uid-t1"])]]
  let actions : List Action := [.edit (.upsertTargets [target "other-uid"])]
  have hkept := h .empty changes .empty key "t1" "uid-t1" actions (by decide +kernel) (by decide)
    ⟨by decide, by decide⟩
  have hlost : ((empty.changeAll changes).transact key actions).store.targetId? (key.target "t1") =
      some "other-uid" := by decide +kernel
  exact absurd (hlost.symm.trans hkept) (by decide)

end Store

end EventRouter
