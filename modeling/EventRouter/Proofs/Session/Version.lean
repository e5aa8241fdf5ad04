import EventRouter.Proofs.Dispatch.Chain
import EventRouter.Proofs.Session.Failure

/-! Versions and the receivers of changes. Every commit of a run raises the version by one and sends
it, whichever operation makes the commit, and nothing else does; so the version is the number of
commits, and a receiver learns of each commit when it looks next. -/

namespace EventRouter

/-- Some commits lead from one store to the other: so far did the version rise, and so many values
were sent, the last one being the version. -/
structure Store.Advances (n : Nat) (a b : Store) : Prop where
  version : b.version = a.version + .ofNat n
  sent : b.changes.sent = a.changes.sent + n
  latest : a.changes.latest = a.version → b.changes.latest = b.version

namespace Store

variable {a b c : Store} {m n : Nat}

theorem Advances.refl (a : Store) : a.Advances 0 a := ⟨by simp, rfl, id⟩

theorem Advances.trans (h : a.Advances m b) (h' : b.Advances n c) : a.Advances (m + n) c where
  version := by rw [h'.version, h.version, UInt64.ofNat_add, UInt64.add_assoc]
  sent := by rw [h'.sent, h.sent, Nat.add_assoc]
  latest hlatest := h'.latest (h.latest hlatest)

/-- A run begins with version 0, which is also what a receiver sees before any commit. -/
theorem Initial.version_eq (h : a.Initial) : a.version = 0 := by
  cases h with
  | empty => rfl
  | create h => rw [(create_eq_ok_iff.1 h).2]; rfl

theorem Initial.latest_eq (h : a.Initial) : a.changes.latest = a.version := by
  cases h with
  | empty => rfl
  | create h => rw [(create_eq_ok_iff.1 h).2]; rfl

theorem advances_publish (a : Store) (s : Snapshot) : a.Advances 1 (a.publish s) :=
  ⟨rfl, rfl, fun _ => rfl⟩

theorem advances_commit (a : Store) (key : TenantKey) (c : Commit) :
    a.Advances 1 (a.commit key c).1 := by
  cases c <;> exact advances_publish a _

/-- A transaction commits exactly if it does not panic. -/
theorem advances_transact (a : Store) (key : TenantKey) (actions : List Action) :
    a.Advances (if actions.contains .panic then 0 else 1) (a.transact key actions).store := by
  cases hedits : Action.edits? actions with
  | none =>
    have hpanic := Action.edits?_eq_none_iff.1 hedits
    rw [transact_of_panic hedits, if_pos (by simpa using hpanic)]
    exact .refl a
  | some edits =>
    have hpanic : .panic ∉ actions := by
      rw [← Action.edits?_eq_none_iff, hedits]
      simp
    rw [transact_of_edits hedits, if_neg (by simpa using hpanic)]
    exact advances_commit a key _

end Store

/-! ### Dispatch -/

/-- Whether a stage commits when it is called: it runs a transaction that does not panic. -/
def StageSpec.commits : StageSpec → Bool
  | .transact _ actions => !actions.contains .panic
  | _ => false

namespace Scene

/-- The stages that are called for an event. -/
def called (specs : List StageSpec) (ctx : Context) (e : Event) (scene : Scene) :
    List StageSpec :=
  specs.take (Stage.calls e (specs.map stage) ctx scene).length

section Called

variable {spec : StageSpec} {rest : List StageSpec} {ctx ctx' : Context} {e : Event}
  {scene scene' : Scene}

theorem called_of_answer {a : Answer}
    (h : stage spec (!(rest.map stage).isEmpty) ctx e scene = (.answer a, scene')) :
    called (spec :: rest) ctx e scene = [spec] := by
  rw [called, List.map_cons, Stage.calls_of_answer h]
  rfl

theorem called_of_forward
    (h : stage spec (!(rest.map stage).isEmpty) ctx e scene = (.forward ctx', scene')) :
    called (spec :: rest) ctx e scene = spec :: called rest ctx' e scene' := by
  rw [called, List.map_cons, Stage.calls_of_forward h]
  rfl

/-- A stage that only looks for a key leaves the scene as it is. -/
theorem scene_requireBroker (hasNext : Bool) (ctx : Context) (e : Event) (scene : Scene) :
    (stage .requireBroker hasNext ctx e scene).2 = scene := by
  simp only [stage, Stage.requireBroker]
  split <;> rfl

/-- A stage changes the store by its own transaction, or not at all. -/
theorem advances_stage {hasNext : Bool} {d : Decision}
    (h : stage spec hasNext ctx e scene = (d, scene')) :
    scene.store.Advances ([spec].countP StageSpec.commits) scene'.store := by
  obtain rfl := congrArg Prod.snd h
  cases spec with
  | filter =>
    exact FilterAccess.keeps_stage (p := fun after : Scene => scene.store.Advances 0 after.store)
      (fun _ _ _ h => h) hasNext ctx e scene (.refl _)
  | requireBroker =>
    rw [scene_requireBroker]
    exact .refl _
  | transact key actions =>
    have hstage := scene.store.advances_transact key actions
    change scene.store.Advances _ (scene.store.transact key actions).store
    simpa [List.countP_singleton, StageSpec.commits] using hstage
  | pass | record | halt | fail | setTarget | setBroker => exact .refl _

end Called

section Chain

-- What the stages that are called, one after the other, make of a scene.
variable {R : List StageSpec → Scene → Scene → Prop}
  (hstage : ∀ {spec hasNext ctx e scene d scene'},
    stage spec hasNext ctx e scene = (d, scene') → R [spec] scene scene')
  (htrans : ∀ {specs specs' a b c}, R specs a b → R specs' b c → R (specs ++ specs') a c)
include hstage htrans

/-- A chain does what the stages do that are called. -/
theorem relates_chain {specs : List StageSpec} {handler : Handler Scene}
    (h : Stage.chain (specs.map stage) = some handler) (ctx : Context) (e : Event)
    (scene : Scene) : R (called specs ctx e scene) scene (handler ctx e scene).2 := by
  induction specs generalizing handler ctx scene with
  | nil => contradiction
  | cons spec rest ih =>
    obtain rfl := Option.some.inj h
    -- The stage works on its own; if it forwards to others, what they do comes behind it.
    rcases Stage.link_chain_cases (stage spec) (rest.map stage) ctx e scene with
      ⟨a, scene', hcall, hlink⟩ | ⟨ctx', scene', hcall, hrest, hlink⟩ |
      ⟨ctx', scene', handler, hcall, hne, hchain, hlink⟩
    · rw [hlink, called_of_answer hcall]
      exact hstage hcall
    · obtain rfl := List.map_eq_nil_iff.1 hrest
      rw [hlink, called_of_forward hcall]
      exact hstage hcall
    · have hcalled := called_of_forward (by rwa [List.isEmpty_eq_false_iff.2 hne])
      rw [hlink, hcalled, ← List.singleton_append]
      exact htrans (hstage hcall) (ih hchain ctx' scene')

theorem relates_process (hrefl : ∀ scene, R [] scene scene) (store : Store)
    (specs : List StageSpec) (ctx : Context) (e : Event) :
    R (called specs ctx e (start store)) (start store) (process store specs ctx e).2 := by
  cases specs with
  | nil => exact hrefl (start store)
  | cons spec rest =>
    have hchain : Stage.chain ((spec :: rest).map stage) = some _ := rfl
    exact relates_chain hstage htrans hchain ctx e (start store)

end Chain

/-- A dispatch commits once for each call of a stage that commits. -/
theorem advances_process (store : Store) (specs : List StageSpec) (ctx : Context) (e : Event) :
    store.Advances ((called specs ctx e (start store)).countP StageSpec.commits)
      (process store specs ctx e).2.store := by
  refine relates_process (R := fun specs a b =>
    a.store.Advances (specs.countP StageSpec.commits) b.store) advances_stage ?_
    (fun scene => .refl scene.store) store specs ctx e
  intro specs specs' a b c h h'
  rw [List.countP_append]
  exact h.trans h'

end Scene

namespace Session

/-- The number of commits that an operation makes: one for a transaction or a replacement that does
not fail, and one for each stage of a dispatch that commits when it is called. -/
def commits (s : Session) (op : Operation) : Nat :=
  match op with
  | .transact _ _ | .replace _ => if op.fails then 0 else 1
  | .process stages ctx e =>
    (Scene.called stages ctx e (.start s.store)).countP StageSpec.commits
  | _ => 0

theorem fails_replace_iff {s : Snapshot} : (Operation.replace s).fails = true ↔ ¬ s.Valid := by
  rw [← Snapshot.isOk_validate_iff, Operation.fails, Bool.not_eq_true', Bool.not_eq_true]

/-- The number of commits in a run. -/
def commitsIn (s : Session) : List Operation → Nat
  | [] => 0
  | op :: rest => s.commits op + (s.step op).session.commitsIn rest

theorem advances_step (s : Session) (op : Operation) :
    s.store.Advances (s.commits op) (s.step op).session.store := by
  cases op with
  | transact key actions => exact s.store.advances_transact key actions
  | replace snapshot =>
    rw [store_step_replace, commits]
    by_cases hs : snapshot.Valid
    · rw [s.store.replace_of_valid hs, if_neg (mt fails_replace_iff.1 (not_not_intro hs))]
      exact s.store.advances_publish snapshot
    · rw [s.store.replace_of_not_valid hs, if_pos (fails_replace_iff.2 hs)]
      exact .refl s.store
  | process stages ctx e => exact Scene.advances_process s.store stages ctx e
  | poll name =>
    simp only [step]
    split <;> exact .refl s.store
  | _ => exact .refl s.store

theorem advances_after (s : Session) (ops : List Operation) :
    s.store.Advances (s.commitsIn ops) (s.after ops).store := by
  induction ops generalizing s with
  | nil => exact .refl s.store
  | cons op rest ih => exact (s.advances_step op).trans (ih (s.step op).session)

theorem after_append (s : Session) (ops ops' : List Operation) :
    s.after (ops ++ ops') = (s.after ops).after ops' := List.foldl_append

theorem commitsIn_append (s : Session) (ops ops' : List Operation) :
    s.commitsIn (ops ++ ops') = s.commitsIn ops + (s.after ops).commitsIn ops' := by
  induction ops generalizing s with
  | nil => simp [commitsIn, after]
  | cons op rest ih => simp only [List.cons_append, commitsIn, ih, Nat.add_assoc]; rfl

/-- Apart from dispatches, a run makes no more commits than it has operations. -/
theorem commitsIn_le_length (s : Session) {ops : List Operation}
    (h : ∀ op ∈ ops, ∀ stages ctx e, op ≠ .process stages ctx e) :
    s.commitsIn ops ≤ ops.length := by
  induction ops generalizing s with
  | nil => exact Nat.le_refl 0
  | cons op rest ih =>
    have ⟨hop, hrest⟩ := List.forall_mem_cons.1 h
    have hone : s.commits op ≤ 1 := by
      cases op with
      | process stages ctx e => exact absurd rfl (hop stages ctx e)
      | transact | replace =>
        simp only [commits]
        split <;> decide
      | _ => exact Nat.zero_le 1
    have htail := ih (s.step op).session hrest
    rw [commitsIn, List.length_cons]
    omega

/-! ### Receivers -/

variable {s : Session} {name : String} {op : Operation}

theorem receiver_of_subscribe (s : Session) (name : String) :
    (s.step (.subscribe name)).session.receivers.get? name = some s.store.changes.subscribe := by
  simp [step]

theorem receiver_of_poll (h : (s.receivers.get? name).isSome) :
    (s.step (.poll name)).session.receivers.get? name = some s.store.changes.subscribe := by
  obtain ⟨receiver, hreceiver⟩ := Option.isSome_iff_exists.1 h
  simp [step, hreceiver]

/-- A receiver is changed by its own operations alone. -/
theorem receiver_of_step (s : Session) (h : op ≠ .subscribe name ∧ op ≠ .poll name) :
    (s.step op).session.receivers.get? name = s.receivers.get? name := by
  obtain ⟨hsubscribe, hpoll⟩ := h
  cases op with
  | subscribe other =>
    have hne : name ≠ other := fun heq => hsubscribe (congrArg _ heq.symm)
    simp [step, hne]
  | poll other =>
    have hne : name ≠ other := fun heq => hpoll (congrArg _ heq.symm)
    simp only [step]
    split <;> simp [hne]
  | replace snapshot =>
    simp only [step]
    split <;> rfl
  | _ => rfl

theorem receiver_after (s : Session) {ops : List Operation}
    (h : ∀ op ∈ ops, op ≠ .subscribe name ∧ op ≠ .poll name) :
    (s.after ops).receivers.get? name = s.receivers.get? name := by
  induction ops generalizing s with
  | nil => rfl
  | cons op rest ih =>
    have ⟨hop, hrest⟩ := List.forall_mem_cons.1 h
    exact (ih _ hrest).trans (s.receiver_of_step hop)

/-- A receiver stays subscribed. -/
theorem isSome_receiver_of_step (h : (s.receivers.get? name).isSome) (op : Operation) :
    ((s.step op).session.receivers.get? name).isSome := by
  by_cases hsubscribe : op = .subscribe name
  · rw [hsubscribe, receiver_of_subscribe]
    rfl
  · by_cases hpoll : op = .poll name
    · rw [hpoll, receiver_of_poll h]
      rfl
    · rwa [s.receiver_of_step ⟨hsubscribe, hpoll⟩]

theorem isSome_receiver_after (h : (s.receivers.get? name).isSome) (ops : List Operation) :
    ((s.after ops).receivers.get? name).isSome := by
  induction ops generalizing s with
  | nil => exact h
  | cons op rest ih => exact ih (isSome_receiver_of_step h op)

theorem isSome_receiver_of_mem {ops : List Operation} (h : .subscribe name ∈ ops) :
    ((s.after ops).receivers.get? name).isSome := by
  obtain ⟨front, back, rfl⟩ := List.append_of_mem h
  rw [after_append]
  refine isSome_receiver_after (s := ((s.after front).step (.subscribe name)).session) ?_ back
  rw [receiver_of_subscribe]
  rfl

/-- What a receiver has seen when it has just looked: it was subscribed, or it was polled. -/
theorem receiver_of_look
    (h : op = .subscribe name ∨ op = .poll name ∧ (s.receivers.get? name).isSome) :
    (s.step op).session.receivers.get? name =
      some (s.step op).session.store.changes.subscribe := by
  rcases h with rfl | ⟨rfl, hreceiver⟩
  · exact s.receiver_of_subscribe name
  · have hstore : (s.step (.poll name)).session.store = s.store := by
      simp only [step]
      split <;> rfl
    rw [receiver_of_poll hreceiver, hstore]

/-- A poll behind operations that leave its receiver alone tells whether they made commits. -/
theorem reply_poll (hseen : s.receivers.get? name = some s.store.changes.subscribe)
    (hlatest : s.store.changes.latest = s.store.version) {ops : List Operation}
    (hops : ∀ op ∈ ops, op ≠ .subscribe name ∧ op ≠ .poll name) :
    ((s.after ops).step (.poll name)).reply =
      .polled (0 < s.commitsIn ops) (s.after ops).store.version := by
  have hadvances := s.advances_after ops
  have hreceiver := (s.receiver_after hops).trans hseen
  -- What a receiver has seen is how many values were sent, and every commit sends one.
  have hchanged : (s.after ops).store.changes.changed s.store.changes.subscribe =
      decide (0 < s.commitsIn ops) := by
    simp only [Channel.changed, Channel.subscribe, hadvances.sent]
    exact decide_eq_decide.2 (by omega)
  simp only [step, hreceiver, hchanged, hadvances.latest hlatest]

/-- The version is the number of commits so far, as long as there are fewer than 2^64, for which it
suffices that the run is shorter (`commitsIn_le_length`): every operation raises it by the number
of commits that it makes. Whenever a receiver is polled, it reports a change if and only if there
was a commit since it was subscribed or last polled, and the version of that moment. -/
theorem version_counts_commits {start : Store} (h : start.Initial) {ops : List Operation}
    (hcount : (Session.start start).commitsIn ops < UInt64.size) :
    let s := Session.start start
    (∀ before after, ops = before ++ after →
      (s.after before).store.version.toNat = s.commitsIn before) ∧
    (∀ before op after, ops = before ++ op :: after →
      (s.after (before ++ [op])).store.version.toNat =
        (s.after before).store.version.toNat + (s.after before).commits op) ∧
    ∀ name before look between after,
      ops = before ++ look :: between ++ .poll name :: after →
      look = .subscribe name ∨ look = .poll name ∧ .subscribe name ∈ before →
      (∀ op ∈ between, op ≠ .subscribe name ∧ op ≠ .poll name) →
        let now := s.after (before ++ look :: between)
        (now.step (.poll name)).reply =
          .polled (0 < (s.after (before ++ [look])).commitsIn between) now.store.version := by
  intro s
  have hversion : ∀ before after, ops = before ++ after →
      (s.after before).store.version.toNat = s.commitsIn before := by
    rintro before after rfl
    rw [commitsIn_append] at hcount
    have hzero : s.store.version = 0 := h.version_eq
    rw [(s.advances_after before).version, hzero, UInt64.zero_add,
      UInt64.toNat_ofNat_of_lt' (Nat.lt_of_le_of_lt (Nat.le_add_right _ _) hcount)]
  refine ⟨hversion, ?_, ?_⟩
  · rintro before op after rfl
    rw [hversion before (op :: after) rfl, hversion (before ++ [op]) after (by simp),
      commitsIn_append]
    rfl
  · rintro name before look between after - hlook hbetween now
    have hseen := receiver_of_look (s := s.after before)
      (hlook.imp_right (And.imp_right isSome_receiver_of_mem))
    have hlatest := (s.advances_after (before ++ [look])).latest h.latest_eq
    have hnow : now = (s.after (before ++ [look])).after between := by
      rw [← after_append, List.append_assoc, List.singleton_append]
    rw [hnow]
    rw [after_append] at hlatest ⊢
    exact reply_poll hseen hlatest hbetween

/-- A deletion of what is not there is a commit, and so is a transaction of a dispatch; a panic is
none. -/
theorem version_counts_commits_of_noop :
    let key : TenantKey := ⟨.broker, "a/b", ""⟩
    let between : List Operation := [.transact key [.edit .delete], .transact key [.panic],
      .process [.pass, .transact key [], .halt, .transact key []] .empty (.blank .v10)]
    let ops := .subscribe "r" :: between ++ [.poll "r", .poll "r"]
    (start .empty).commitsIn ops = 2 ∧ ((start .empty).after ops).store.version.toNat = 2 ∧
      (((start .empty).after (.subscribe "r" :: between)).step (.poll "r")).reply =
        .polled (0 < ((start .empty).after [.subscribe "r"]).commitsIn between)
          ((start .empty).after (.subscribe "r" :: between)).store.version := by
  intro key between ops
  have hcount : (start .empty).commitsIn ops = 2 := rfl
  have hsmall : (start .empty).commitsIn ops < UInt64.size := hcount ▸ by decide
  obtain ⟨hversion, -, hpoll⟩ := version_counts_commits .empty hsmall
  refine ⟨hcount, ?_, ?_⟩
  · rw [hversion ops [] (List.append_nil ops).symm, hcount]
  · exact hpoll "r" [] (.subscribe "r") between [.poll "r"] rfl (.inl rfl) (by decide)

end Session

end EventRouter
