import EventRouter.Proofs.Store.Deletion

/-! The net effect of edits without a deletion. Of each field the last edit of it counts, of the id
the first one that assigns it, and of each target the last mention of its name in the lists of all
edits. So the net effect is told without the steps between, and the same edits once more have no
further effect. -/

namespace EventRouter

/-- An element in a list of an edit: a target that is put into the cell tenant, or a name that is
dropped from it. -/
inductive Mention where
  | put (t : Target)
  | drop (name : String)
deriving DecidableEq

namespace Mention

def name : Mention → String
  | put t => t.name
  | drop name => name

/-- What stands under the name afterwards. -/
def outcome (key : TenantKey) : Mention → Option Target
  | put t => some (t.ofTenant key)
  | drop _ => none

def apply (key : TenantKey) (targets : Dict Target) : Mention → Dict Target
  | put t => Draft.upsertTarget key targets t
  | drop name => targets.erase name

/-- The last one of a list that has a name. -/
def last? (name : String) (mentions : List Mention) : Option Mention :=
  (mentions.filter (·.name = name)).getLast?

variable {key : TenantKey} {name : String}

theorem get?_apply (targets : Dict Target) (m : Mention) :
    (m.apply key targets).get? name =
      if m.name = name then m.outcome key else targets.get? name := by
  cases m with
  | put t => simp [apply, Draft.upsertTarget, Mention.name, outcome, eq_comm]
  | drop name' => simp [apply, Mention.name, outcome, eq_comm]

theorem last?_append (mentions mentions' : List Mention) :
    last? name (mentions ++ mentions') = (last? name mentions').or (last? name mentions) := by
  rw [last?, List.filter_append, List.getLast?_append]
  rfl

theorem last?_singleton (m : Mention) :
    last? name [m] = if m.name = name then some m else none := by
  by_cases h : m.name = name <;> simp [last?, h]

/-- Under each name stands what the last mention of it says. -/
theorem get?_foldl_apply (mentions : List Mention) (targets : Dict Target) :
    (mentions.foldl (apply key) targets).get? name =
      ((last? name mentions).map (outcome key)).getD (targets.get? name) := by
  induction mentions generalizing targets with
  | nil => rfl
  | cons m rest ih =>
    rw [List.foldl_cons, ih, get?_apply, ← List.singleton_append, last?_append, last?_singleton,
      Option.map_or, Option.getD_or]
    split <;> rfl

end Mention

namespace Edit

variable {key : TenantKey} {edits edits' : List Edit} {a b c : CellTenant}

def id? : Edit → Option String
  | setId id => some id
  | _ => none

def address? : Edit → Option String
  | setAddress address => some address
  | _ => none

def readiness? : Edit → Option Readiness
  | setReadiness readiness => some readiness
  | _ => none

def decoupleQueue? : Edit → Option (Option Queue)
  | setDecoupleQueue queue => some queue
  | _ => none

def mentions : Edit → List Mention
  | upsertTargets targets => targets.map .put
  | deleteTargets targets => targets.map fun t => .drop t.name
  | deleteTargetsByName names => names.map .drop
  | _ => []

/-- The id that edits assign to a cell tenant without one: the first that is not empty. -/
def firstId (edits : List Edit) : String :=
  ((edits.filterMap id?).find? (!·.isEmpty)).getD ""

/-- The last mention of a name in the lists of the edits, in the order of edits and lists. -/
def lastMention (name : String) (edits : List Edit) : Option Mention :=
  Mention.last? name (edits.flatMap mentions)

/-- What edits without a deletion make of a cell tenant. -/
structure Net (key : TenantKey) (edits : List Edit) (before after : CellTenant) : Prop where
  identity : after.key = before.key
  id : after.id = if before.id.isEmpty then firstId edits else before.id
  address : after.address = (edits.filterMap address?).getLast?.getD before.address
  readiness : after.readiness = (edits.filterMap readiness?).getLast?.getD before.readiness
  decoupleQueue : after.decoupleQueue =
    (edits.filterMap decoupleQueue?).getLast?.getD before.decoupleQueue
  targets : ∀ name, after.targets.get? name =
    ((lastMention name edits).map (Mention.outcome key)).getD (before.targets.get? name)

theorem firstId_append : firstId (edits ++ edits') =
    if (firstId edits).isEmpty then firstId edits' else firstId edits := by
  unfold firstId
  rw [List.filterMap_append, List.find?_append]
  cases h : (edits.filterMap id?).find? (!·.isEmpty) with
  | none => rfl
  | some id =>
    have hid : id.isEmpty = false := by simpa using List.find?_some h
    show id = if id.isEmpty then _ else id
    rw [hid, if_neg Bool.false_ne_true]

theorem lastMention_append (name : String) : lastMention name (edits ++ edits') =
    (lastMention name edits').or (lastMention name edits) := by
  rw [lastMention, List.flatMap_append, Mention.last?_append]
  rfl

theorem eq_of_isEmpty_id (id : String) : id = if id.isEmpty then "" else id := by
  split <;> simp_all

theorem Net.refl (key : TenantKey) (c : CellTenant) : Net key [] c c :=
  ⟨rfl, eq_of_isEmpty_id c.id, rfl, rfl, rfl, fun _ => rfl⟩

theorem Net.trans (h : Net key edits a b) (h' : Net key edits' b c) :
    Net key (edits ++ edits') a c where
  identity := h'.identity.trans h.identity
  id := by
    rw [h'.id, h.id, firstId_append]
    split <;> rfl
  address := by
    rw [h'.address, h.address, List.filterMap_append, List.getLast?_append, Option.getD_or]
  readiness := by
    rw [h'.readiness, h.readiness, List.filterMap_append, List.getLast?_append, Option.getD_or]
  decoupleQueue := by
    rw [h'.decoupleQueue, h.decoupleQueue, List.filterMap_append, List.getLast?_append,
      Option.getD_or]
  targets name := by
    rw [h'.targets, h.targets, lastMention_append, Option.map_or, Option.getD_or]

theorem getD_getD {α : Type} (o : Option α) (x : α) : o.getD (o.getD x) = o.getD x := by
  cases o <;> rfl

/-- The same edits once more change nothing. -/
theorem Net.idem (h : Net key edits a b) (h' : Net key edits b c) : c = b := by
  have hkey := h'.identity
  have hid : c.id = b.id := by
    rw [h'.id, h.id]
    by_cases hempty : a.id.isEmpty <;> simp [hempty]
  have haddress : c.address = b.address := by rw [h'.address, h.address, getD_getD]
  have hreadiness : c.readiness = b.readiness := by rw [h'.readiness, h.readiness, getD_getD]
  have hqueue : c.decoupleQueue = b.decoupleQueue := by
    rw [h'.decoupleQueue, h.decoupleQueue, getD_getD]
  have htargets : c.targets = b.targets := Dict.ext_get? fun name => by
    rw [h'.targets, h.targets, getD_getD]
  cases b
  cases c
  simp_all [CellTenant.key]

end Edit

namespace Draft

open Edit

variable {key : TenantKey} {existing : Option CellTenant} {edits : List Edit}

theorem apply_setId (d : Draft) (id : String) : d.apply (.setId id) =
    d.keep fun c => { c with id := if c.id.isEmpty then id else c.id } := by
  simp only [apply, keep, mayAssign]
  by_cases hempty : d.tenant.id.isEmpty
  · simp [hempty]
  · by_cases hid : d.tenant.id = id <;> simp [hempty, hid]

theorem targets_apply (d : Draft) {e : Edit} (h : e ≠ .delete) :
    (d.apply e).tenant.targets = e.mentions.foldl (Mention.apply d.key) d.tenant.targets := by
  cases e with
  | delete => exact absurd rfl h
  | setId id => rw [apply_setId]; rfl
  | upsertTargets targets => rw [mentions, List.foldl_map]; rfl
  | deleteTargets targets =>
    show (targets.map (·.name)).foldl Dict.erase d.tenant.targets = _
    rw [mentions, List.foldl_map, List.foldl_map]
    rfl
  | deleteTargetsByName names => rw [mentions, List.foldl_map]; rfl
  | setAddress | setReadiness | setDecoupleQueue => rfl

theorem net_apply (d : Draft) {e : Edit} (h : e ≠ .delete) :
    Net d.key [e] d.tenant (d.apply e).tenant := by
  have htargets : ∀ name, (d.apply e).tenant.targets.get? name =
      ((lastMention name [e]).map (Mention.outcome d.key)).getD (d.tenant.targets.get? name) := by
    intro name
    rw [targets_apply d h, Mention.get?_foldl_apply, lastMention, List.flatMap_singleton]
  cases e with
  | delete => exact absurd rfl h
  | setId id =>
    have hfirst : firstId [.setId id] = id := by
      by_cases hid : id = "" <;> simp [firstId, id?, hid]
    rw [apply_setId] at htargets ⊢
    exact ⟨rfl, by rw [hfirst]; rfl, rfl, rfl, rfl, htargets⟩
  | _ => exact ⟨rfl, eq_of_isEmpty_id d.tenant.id, rfl, rfl, rfl, htargets⟩

theorem net_applyAll (d : Draft) (h : .delete ∉ edits) :
    Net d.key edits d.tenant (d.applyAll edits).tenant := by
  induction edits generalizing d with
  | nil => exact .refl d.key d.tenant
  | cons e rest ih =>
    obtain ⟨he, hrest⟩ := not_or.1 (mt List.mem_cons.2 h)
    have htail := ih (d.apply e) hrest
    rw [key_apply] at htail
    exact (d.net_apply (Ne.symm he)).trans htail

/-- The net effect on what is kept: that of the edits since the last deletion, on an empty shell if
there was a deletion. -/
theorem net_of_kept (key : TenantKey) (existing : Option CellTenant)
    (h : edits.getLast? ≠ some .delete) :
    Net key (sinceDeletion edits) (start key (if .delete ∈ edits then none else existing)).tenant
      ((start key existing).applyAll edits).tenant := by
  rw [applyAll_of_kept key existing h]
  exact net_applyAll (start key _) (delete_not_mem_sinceDeletion edits)

theorem get?_targets_start (key : TenantKey) (existing : Option CellTenant) (name : String) :
    (start key existing).tenant.targets.get? name = existing.bind fun c => c.targets.get? name := by
  cases existing <;> rfl

theorem get?_targets_of_kept (key : TenantKey) (existing : Option CellTenant)
    (h : edits.getLast? ≠ some .delete) {name : String} :
    ((start key existing).applyAll edits).tenant.targets.get? name =
      ((lastMention name (sinceDeletion edits)).map (Mention.outcome key)).getD
        (if .delete ∈ edits then none else existing.bind fun c => c.targets.get? name) := by
  rw [(net_of_kept key existing h).targets, get?_targets_start]
  split <;> rfl

theorem remaining_idem (key : TenantKey) (existing : Option CellTenant) (edits : List Edit) :
    remaining key (remaining key existing edits) edits = remaining key existing edits := by
  by_cases hlast : edits.getLast? = some .delete
  · rw [remaining_eq_none_iff.2 hlast, remaining_eq_none_iff.2 hlast]
  by_cases hmem : .delete ∈ edits
  · -- Both times the edits since the last deletion work on an empty shell.
    refine remaining_congr ?_
    rw [applyAll_of_kept key _ hlast, applyAll_of_kept key existing hlast, if_pos hmem, if_pos hmem]
  · have honce := net_of_kept key existing hlast
    have htwice := net_of_kept key (remaining key existing edits) hlast
    rw [if_neg hmem] at honce htwice
    rw [remaining_of_kept hlast] at htwice ⊢
    rw [remaining_of_kept hlast]
    exact congrArg some (honce.idem htwice)

end Draft

/-! ### Retried transactions -/

/-- A transaction that is committed twice in a row leaves the snapshot that it leaves when it is
committed once; the version goes up once more, and is sent. -/
theorem Store.edit_twice (store : Store) (key : TenantKey) (edits : List Edit) :
    let once := store.edit key edits
    let twice := once.edit key edits
    twice.snapshot = once.snapshot ∧ twice.version = once.version + 1 ∧
      twice.changes = once.changes.send twice.version := by
  intro once twice
  have hversion : twice.version = once.version + 1 := once.version_edit key edits
  refine ⟨?_, hversion, ?_⟩
  · refine (once.snapshot_edit_eq_self_iff key edits).2 ?_
    rw [store.tenant?_edit key edits]
    exact Draft.remaining_idem key (store.tenant? key) edits
  · rw [hversion]
    exact once.changes_edit key edits

/-! ### Targets -/

namespace Edit

variable {name other : String} {edits : List Edit}

/-- The edit with no element of a name in its lists. -/
def without (name : String) : Edit → Edit
  | upsertTargets targets => upsertTargets (targets.filter (·.name ≠ name))
  | deleteTargets targets => deleteTargets (targets.filter (·.name ≠ name))
  | deleteTargetsByName names => deleteTargetsByName (names.filter (· ≠ name))
  | e => e

theorem without_eq_delete_iff {e : Edit} : e.without name = .delete ↔ e = .delete := by
  cases e <;> simp [without]

theorem mentions_without (e : Edit) :
    (e.without name).mentions = e.mentions.filter (·.name ≠ name) := by
  cases e with
  | upsertTargets | deleteTargets | deleteTargetsByName =>
    rw [without, mentions, mentions, List.filter_map]
    rfl
  | _ => rfl

theorem sinceDeletion_without :
    sinceDeletion (edits.map (without name)) = (sinceDeletion edits).map (without name) := by
  have hdelete : (fun e : Edit => decide (e ≠ .delete)) ∘ without name =
      fun e => decide (e ≠ .delete) :=
    funext fun e => decide_eq_decide.2 (not_congr without_eq_delete_iff)
  rw [sinceDeletion, List.rtakeWhile, ← List.map_reverse, List.takeWhile_map, hdelete,
    ← List.map_reverse]
  rfl

theorem delete_mem_without_iff : .delete ∈ edits.map (without name) ↔ .delete ∈ edits := by
  simp [without_eq_delete_iff]

theorem getLast?_without_iff :
    (edits.map (without name)).getLast? = some .delete ↔ edits.getLast? = some .delete := by
  simp [List.getLast?_map, without_eq_delete_iff]

theorem lastMention_without (h : other ≠ name) :
    lastMention other (edits.map (without name)) = lastMention other edits := by
  have hother : ∀ m : Mention, (decide (m.name = other) && decide (m.name ≠ name)) =
      decide (m.name = other) := by
    intro m
    by_cases hm : m.name = other <;> simp [hm, h]
  simp only [lastMention, Mention.last?, List.flatMap_map, List.filter_flatMap, mentions_without,
    List.filter_filter, hother]

end Edit

namespace Store

open Edit

/-- If edits keep a cell tenant, the last mention of a name since the last deletion decides what
stands under it: the target that was put there, as one of this cell tenant, or nothing if the name
was dropped. A name without a mention keeps what it had, unless there was a deletion. What the edits
make of one name has no part in what stands under the others. -/
theorem last_mention_decides (store : Store) (key : TenantKey) {edits : List Edit}
    (h : edits.getLast? ≠ some .delete) :
    ∃ c, (store.edit key edits).tenant? key = some c ∧
      (∀ name, c.targets.get? name =
        match lastMention name (sinceDeletion edits) with
        | some (.put t) =>
          some { t with ns := key.ns, tenantKind := key.kind, tenantName := key.name }
        | some (.drop _) => none
        | none =>
          if .delete ∈ edits then none
          else (store.tenant? key).bind fun c => c.targets.get? name) ∧
      ∀ name other, other ≠ name →
        (store.edit key (edits.map (without name))).target? (key.target other) =
          c.targets.get? other := by
  have hkeeps : ∀ edits : List Edit, edits.getLast? ≠ some .delete →
      (store.edit key edits).tenant? key =
        some ((Draft.start key (store.tenant? key)).applyAll edits).tenant := by
    intro edits hlast
    rw [tenant?_edit, Draft.remaining_of_kept hlast]
  refine ⟨_, hkeeps edits h, fun name => ?_, fun name other hne => ?_⟩
  · rw [Draft.get?_targets_of_kept key _ h]
    rcases lastMention name (sinceDeletion edits) with _ | _ | _ <;> rfl
  · have hwithout : (edits.map (without name)).getLast? ≠ some .delete :=
      mt getLast?_without_iff.1 h
    show ((store.edit key (edits.map (without name))).tenant? key).bind _ = _
    rw [hkeeps _ hwithout, Option.bind_some, TenantKey.target]
    rw [Draft.get?_targets_of_kept key _ h, Draft.get?_targets_of_kept key _ hwithout,
      sinceDeletion_without, lastMention_without hne]
    simp only [delete_mem_without_iff]

/-- A name that is repeated in one list, with a target that names another cell tenant; a target that
is put and dropped again; and one that was there before a deletion. -/
theorem last_mention_decides_of_repeats :
    let key : TenantKey := ⟨.broker, "a/b", ""⟩
    let first : Target := { Target.blank with name := "t", address := "x" }
    let last : Target := { Target.blank with name := "t", tenantName := "other" }
    let passing : Target := { Target.blank with name := "u" }
    let edits : List Edit := [.upsertTargets [passing], .delete,
      .upsertTargets [first, passing, last], .deleteTargets [passing], .deleteTargetsByName ["v"]]
    edits.getLast? ≠ some .delete ∧
    ∃ c, ((ofSnapshot .awkward).edit key edits).tenant? key = some c ∧
      c.targets.get? "t" = some { last with ns := "a/b", tenantName := "" } ∧
      c.targets.get? "u" = none ∧ c.targets.get? "t/" = none := by
  intro key first last passing edits
  have hlast : edits.getLast? ≠ some .delete := by decide
  obtain ⟨c, hc, htargets, -⟩ := last_mention_decides (.ofSnapshot .awkward) key hlast
  refine ⟨hlast, c, hc, ?_, ?_, ?_⟩
  · have hmention : lastMention "t" (sinceDeletion edits) = some (.put last) := by decide
    rw [htargets, hmention]
    rfl
  · have hmention : lastMention "u" (sinceDeletion edits) = some (.drop "u") := by decide
    rw [htargets, hmention]
  · have hmention : lastMention "t/" (sinceDeletion edits) = none := by decide
    have hdelete : .delete ∈ edits := by decide
    rw [htargets, hmention]
    exact if_pos hdelete

end Store

end EventRouter
