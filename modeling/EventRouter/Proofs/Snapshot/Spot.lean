import EventRouter.Proofs.Decode.Focus
import EventRouter.Snapshot.Document

/-! The places of a snapshot in its document. The records are closed: at whatever depth a queue, a
target or a cell tenant stands, a member that is no field of it is a reason to refuse the whole. The
maps are open: under another key, an entry is added to what is read, and nothing else changes. -/

namespace EventRouter

/-! ### The fields that hold records or maps -/

theorem Snapshot.focus_tenants : Snapshot.schema.Focus "cell_tenants" (.dict CellTenant.decode)
    tenants fun cs _ => ⟨cs⟩ where
  mem_fields := by simp [schema, CellTenant.decode]
  nodup := by decide
  isOptional := by simp [schema]
  commutes := by simp [schema]
  get_put _ _ := rfl
  put_put _ _ _ := rfl

theorem CellTenant.focus_decoupleQueue :
    CellTenant.schema.Focus "decouple_queue" (.option Queue.decode) decoupleQueue
      fun q c => { c with decoupleQueue := q } where
  mem_fields := by simp [schema, Queue.decode]
  nodup := by decide
  isOptional := by simp [schema]
  commutes := by simp [schema]
  get_put _ _ := rfl
  put_put _ _ _ := rfl

theorem CellTenant.focus_targets : CellTenant.schema.Focus "targets" (.dict Target.decode)
    targets fun ts c => { c with targets := ts } where
  mem_fields := by simp [schema, Target.decode]
  nodup := by decide
  isOptional := by simp [schema]
  commutes := by simp [schema]
  get_put _ _ := rfl
  put_put _ _ _ := rfl

theorem Target.focus_filter : Target.schema.Focus "filter_attributes" (.dict .string) filter
    fun f t => { t with filter := f } where
  mem_fields := by simp [schema]
  nodup := by decide
  isOptional := by simp [schema]
  commutes := by simp [schema]
  get_put _ _ := rfl
  put_put _ _ _ := rfl

theorem Target.focus_retryQueue : Target.schema.Focus "retry_queue" (.option Queue.decode)
    retryQueue fun q t => { t with retryQueue := q } where
  mem_fields := by simp [schema, Queue.decode]
  nodup := by decide
  isOptional := by simp [schema]
  commutes := by simp [schema]
  get_put _ _ := rfl
  put_put _ _ _ := rfl

namespace Snapshot

/-! ### Places -/

/-- A place in the document of a snapshot where a decoder reads: the document around the place, and
what becomes of the snapshot when what is read there changes. -/
inductive Spot : {α : Type} → Decoder α → (Doc → Doc) → ((α → α) → Snapshot → Snapshot) → Prop
  | snapshot : Spot Snapshot.decode id id
  | tenants {around} : Snapshot.schema.Around "cell_tenants" around →
      Spot (.dict CellTenant.decode) around fun φ s => ⟨φ s.tenants⟩
  /-- An entry of a map, which counts unless a later one has the same key. -/
  | entry {α : Type} {value : Decoder α} {around change} (before after : List (Name × Doc))
      (key : String) : Spot (.dict value) around change →
      Spot value (around ∘ fun d => .object (before ++ (.text key, d) :: after))
        (change ∘ fun φ m => if ∃ m ∈ after, m.1 = .text key then m else m.adjust key φ)
  | decoupleQueue {around change inner} : Spot CellTenant.decode around change →
      CellTenant.schema.Around "decouple_queue" inner → Spot Queue.decode (around ∘ inner)
        (change ∘ fun φ c => { c with decoupleQueue := c.decoupleQueue.map φ })
  | targets {around change inner} : Spot CellTenant.decode around change →
      CellTenant.schema.Around "targets" inner → Spot (.dict Target.decode) (around ∘ inner)
        (change ∘ fun φ c => { c with targets := φ c.targets })
  | filter {around change inner} : Spot Target.decode around change →
      Target.schema.Around "filter_attributes" inner → Spot (.dict .string) (around ∘ inner)
        (change ∘ fun φ t => { t with filter := φ t.filter })
  | retryQueue {around change inner} : Spot Target.decode around change →
      Target.schema.Around "retry_queue" inner → Spot Queue.decode (around ∘ inner)
        (change ∘ fun φ t => { t with retryQueue := t.retryQueue.map φ })

theorem Spot.hole {α : Type} {decode : Decoder α} {around : Doc → Doc}
    {change : (α → α) → Snapshot → Snapshot} (h : Spot decode around change) :
    Decoder.Hole Snapshot.decode decode around change := by
  induction h with
  | snapshot => exact .refl Snapshot.decode
  | tenants haround => exact focus_tenants.hole haround
  | entry before after key _ ih => exact ih.trans (.entry _ before after key)
  | decoupleQueue _ hinner ih =>
    exact ih.trans ((CellTenant.focus_decoupleQueue.hole hinner).trans (.option Queue.decode))
  | targets _ hinner ih => exact ih.trans (CellTenant.focus_targets.hole hinner)
  | filter _ hinner ih => exact ih.trans (Target.focus_filter.hole hinner)
  | retryQueue _ hinner ih =>
    exact ih.trans ((Target.focus_retryQueue.hole hinner).trans (.option Queue.decode))

/-- The records of a snapshot are closed and its maps are open. A source is refused if, at any place
where a snapshot, a cell tenant, a target or a queue is read, an object has a member that is no
field of the record. With one more entry in any map, under a key that no later entry has and with a
value that can be read, a source is still read, as the snapshot with that entry. -/
theorem records_closed_maps_open :
    Queue.schema.names = ["topic", "subscription"] ∧
    Target.schema.names = ["id", "name", "namespace", "cell_tenant_type", "cell_tenant_name",
      "address", "filter_attributes", "retry_queue", "state"] ∧
    CellTenant.schema.names = ["type", "id", "namespace", "name", "address", "decouple_queue",
      "state", "targets"] ∧
    Snapshot.schema.names = ["cell_tenants"] ∧
    (∀ {α : Type} (schema : Schema α) (around : Doc → Doc) (change : (α → α) → Snapshot → Snapshot),
      Spot schema.decode around change →
      ∀ (source : Source) (members : List (Name × Doc)) (name : String) (d : Doc),
        source.doc? = some (around (.object members)) → (.text name, d) ∈ members →
        name ∉ schema.names → ∀ s, Snapshot.decode.run source ≠ .ok s) ∧
    ∀ {α : Type} (value : Decoder α) (around : Doc → Doc)
      (change : (Dict α → Dict α) → Snapshot → Snapshot), Spot (.dict value) around change →
      ∀ (source source' : Source) (before after : List (Name × Doc)) (key : String) (d : Doc)
        (a : α) (s : Snapshot), source'.dialect = source.dialect →
        source.doc? = some (around (.object (before ++ after))) →
        source'.doc? = some (around (.object (before ++ (.text key, d) :: after))) →
        (∀ m ∈ after, m.1 ≠ .text key) → value source.dialect d = .ok a →
        Snapshot.decode.run source = .ok s →
        Snapshot.decode.run source' = .ok (change (·.insert key a) s) := by
  refine ⟨rfl, rfl, rfl, rfl, ?_, ?_⟩
  · intro α schema around change hspot source members name d hdoc hmem hunknown s hrun
    obtain ⟨d', hd', hdecode⟩ := Decoder.run_eq_ok_iff.1 hrun
    obtain rfl := Option.some.inj (hdoc.symm.trans hd')
    obtain ⟨a, ha, -⟩ := hspot.hole.exists_inner _ (.object members) s trivial hdecode
    exact Schema.decode_ne_ok_of_unknown hmem rfl hunknown _ a ha
  · intro α value around change hspot source source' before after key d a s hdialect hdoc hdoc' hnew
      ha hrun
    obtain ⟨d', hd', hdecode⟩ := Decoder.run_eq_ok_iff.1 hrun
    obtain rfl := Option.some.inj (hdoc.symm.trans hd')
    obtain ⟨m, hm, hchange⟩ :=
      hspot.hole.exists_inner _ (.object (before ++ after)) s trivial hdecode
    refine Decoder.run_eq_ok_iff.2 ⟨_, hdoc', ?_⟩
    rw [hdialect]
    exact hchange _ (·.insert key a) trivial (Decoder.dict_insert hm ha hnew)

/-- A cell tenant and a target of it by position: a misspelt field in the retry queue of the target,
and another entry in its filter. -/
theorem records_closed_maps_open_of_position :
    let source (filter : List (String × Json)) (queue : Json) : Source :=
      .value (.object [("cell_tenants", .object [("k", .array [.string "broker", .string "1",
        .string "", .string "", .string "", .null, .string "ready", .object [("t", .array [
          .string "", .string "t", .string "", .string "broker", .string "", .string "",
          .object filter, queue, .string "unknown"])]])])])
    let snapshot (filter : Dict String) : Snapshot :=
      ⟨Dict.empty.insert "k" { CellTenant.shell ⟨.broker, "", ""⟩ with
        id := "1", readiness := .ready,
        targets := Dict.empty.insert "t" { Target.blank with name := "t", filter } }⟩
    "topik" ∉ Queue.schema.names ∧
    (∀ s, Snapshot.decode.run (source [] (.object [("topik", .string "")])) ≠ .ok s) ∧
    Snapshot.decode.run (source [] .null) = .ok (snapshot .empty) ∧
    Snapshot.decode.run (source [("type", .string "x")] .null) =
      .ok (snapshot (Dict.empty.insert "type" "x")) := by
  intro source snapshot
  obtain ⟨-, -, -, -, hclosed, hopen⟩ := records_closed_maps_open
  have htargets := Spot.targets (.entry [] [] "k" (.tenants (.member [] [])))
    (.item [.string "broker", .string "1", .string "", .string "", .string "", .null,
      .string "ready"] [] rfl)
  have hfilter (queue : Doc) := Spot.filter (.entry [] [] "t" htargets)
    (.item [.string "", .string "t", .string "", .string "broker", .string "", .string ""]
      [queue, .string "unknown"] rfl)
  have hqueue (filter : Doc) := Spot.retryQueue (.entry [] [] "t" htargets)
    (.item [.string "", .string "t", .string "", .string "broker", .string "", .string "", filter]
      [.string "unknown"] rfl)
  have haccepted : Snapshot.decode.run (source [] .null) = .ok (snapshot .empty) := by
    decide +kernel
  refine ⟨by decide, fun s => ?_, haccepted, ?_⟩
  · exact hclosed Queue.schema _ _ (hqueue (.object [])) _ [(.text "topik", .string "")] "topik" _
      rfl List.mem_cons_self (by decide) s
  · have hrun := hopen .string _ _ (hfilter .null) (source [] .null)
      (source [("type", .string "x")] .null) [] [] "type" (.string "x") "x" _ rfl rfl rfl
      (List.forall_mem_nil _) rfl haccepted
    exact hrun.trans (by decide +kernel)

end Snapshot

end EventRouter
