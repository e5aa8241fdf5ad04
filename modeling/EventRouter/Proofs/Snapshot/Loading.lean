import EventRouter.Inspection.Loading
import EventRouter.Proofs.Json5.Lexer
import EventRouter.Proofs.Snapshot.Document

/-! Snapshots loaded from their JSON texts. A loader of JSON5 reads what a decoder of JSON reads,
unless some string of the snapshot holds a character that ends a line in JSON5 alone. -/

namespace EventRouter

/-! ### The strings of a snapshot -/

def Queue.texts (q : Queue) : List String := [q.topic, q.subscription]

/-- The strings of a target, with the names and values of its filter. -/
def Target.texts (t : Target) : List String :=
  [t.id, t.name, t.ns, t.tenantName, t.address] ++
    (t.filter.entries.flatMap fun e => [e.1, e.2]) ++ t.retryQueue.toList.flatMap Queue.texts

/-- The strings of a cell tenant and of its targets, with the names that these stand under. -/
def CellTenant.texts (c : CellTenant) : List String :=
  [c.id, c.ns, c.name, c.address] ++ c.decoupleQueue.toList.flatMap Queue.texts ++
    c.targets.entries.flatMap fun e => e.1 :: e.2.texts

/-- The strings of a snapshot, with its places. -/
def Snapshot.texts (s : Snapshot) : List String :=
  s.tenants.entries.flatMap fun e => e.1 :: e.2.texts

def Text.isAscii (t : String) : Bool := t.toList.all fun c => c.toNat < 128

section Spelling

variable {p : String → Prop} {q : Number → Prop}

theorem Json.spelled_ofDict_iff {α : Type} {write : α → Json} {texts : α → List String}
    (h : ∀ a, (write a).Spelled p q ↔ ∀ t ∈ texts a, p t) (d : Dict α) :
    (ofDict write d).Spelled p q ↔ ∀ t ∈ d.entries.flatMap fun e => e.1 :: texts e.2, p t := by
  rw [ofDict, Spelled, spelledMembers_iff]
  simp only [List.forall_mem_map, h, List.forall_mem_flatMap, List.forall_mem_cons]

-- The property holds of the names of all fields and choices, since these are ASCII.
variable (hp : ∀ t : String, Text.isAscii t = true → p t)
include hp

theorem Json.spelledMembers_cons {name : String} (hname : Text.isAscii name = true)
    (j : Json) (rest : List (String × Json)) :
    SpelledMembers p q ((name, j) :: rest) ↔ j.Spelled p q ∧ SpelledMembers p q rest :=
  and_iff_right (hp name hname)

theorem TenantKind.spelled_word (k : TenantKind) : p k.word := by
  cases k <;> exact hp _ (by decide)

theorem Readiness.spelled_word (r : Readiness) : p r.word := by
  cases r <;> exact hp _ (by decide)

theorem Queue.spelled_toJson_iff (queue : Queue) :
    queue.toJson.Spelled p q ↔ ∀ t ∈ queue.texts, p t := by
  rw [toJson, Json.Spelled]
  simp (disch := decide) only [Json.spelledMembers_cons hp]
  simp [Json.Spelled, Json.SpelledMembers, texts]

theorem Queue.spelled_option_iff (o : Option Queue) :
    (Json.ofOption Queue.toJson o).Spelled p q ↔ ∀ t ∈ o.toList.flatMap Queue.texts, p t := by
  cases o with
  | none => simp [Json.ofOption, Json.Spelled]
  | some queue => simp [Json.ofOption, queue.spelled_toJson_iff hp]

theorem Target.spelled_toJson_iff (t : Target) : t.toJson.Spelled p q ↔ ∀ s ∈ t.texts, p s := by
  have hvalue : ∀ v : String, (Json.string v).Spelled p q ↔ ∀ s ∈ [v], p s := by
    simp [Json.Spelled]
  have hfilter := Json.spelled_ofDict_iff hvalue t.filter
  have hqueue := Queue.spelled_option_iff (q := q) hp t.retryQueue
  rw [toJson, Json.Spelled]
  simp (disch := decide) only [Json.spelledMembers_cons hp]
  simp only [Json.Spelled, Json.SpelledMembers, hfilter, hqueue, texts, List.forall_mem_append,
    List.forall_mem_cons, t.tenantKind.spelled_word hp, t.readiness.spelled_word hp]
  simp [and_assoc]

theorem CellTenant.spelled_toJson_iff (c : CellTenant) :
    c.toJson.Spelled p q ↔ ∀ s ∈ c.texts, p s := by
  have htargets := Json.spelled_ofDict_iff (q := q) (Target.spelled_toJson_iff hp) c.targets
  have hqueue := Queue.spelled_option_iff (q := q) hp c.decoupleQueue
  rw [toJson, Json.Spelled]
  simp (disch := decide) only [Json.spelledMembers_cons hp]
  simp only [Json.Spelled, Json.SpelledMembers, htargets, hqueue, texts, List.forall_mem_append,
    List.forall_mem_cons, c.kind.spelled_word hp, c.readiness.spelled_word hp]
  simp [and_assoc]

theorem Snapshot.spelled_toJson_iff (s : Snapshot) : s.toJson.Spelled p q ↔ ∀ t ∈ s.texts, p t := by
  have htenants := Json.spelled_ofDict_iff (q := q) (CellTenant.spelled_toJson_iff hp) s.tenants
  rw [toJson, Json.Spelled, Json.spelledMembers_cons hp (by decide), htenants]
  exact and_iff_left trivial

end Spelling

/-! ### Loading -/

namespace Snapshot

variable {s : Snapshot} {j : Json}

/-- No string of a snapshot is broken in JSON5. -/
def Unbroken (s : Snapshot) : Prop := ∀ t ∈ s.texts, Json5.Unbroken t

instance (s : Snapshot) : Decidable s.Unbroken := List.decidableBAll ..

theorem unbroken_of_isAscii (t : String) (h : Text.isAscii t = true) : Json5.Unbroken t := by
  intro c hc
  have hascii : c.toNat < 128 := of_decide_eq_true (List.all_eq_true.1 h c hc)
  refine Bool.eq_false_iff.2 fun hbreaks => ?_
  simp only [Json5.breaks, Bool.or_eq_true, decide_eq_true_eq] at hbreaks
  rcases hbreaks with rfl | rfl <;> contradiction

/-- Read as JSON5, the JSON text of a snapshot gives the snapshot or nothing. -/
theorem run_json5 (h : j.Reorders s.toJson) : decode.run (.json5 j.text) =
    if s.Unbroken then .ok s else .error (.stopped .malformed) := by
  have hreads := s.reads_toJson (n := 0)
  have hspelled : (j.Spelled Json5.Unbroken fun _ => False) ↔ s.Unbroken :=
    (h.spelled_iff hreads.distinct).trans (s.spelled_toJson_iff unbroken_of_isAscii)
  by_cases hs : s.Unbroken
  · rw [if_pos hs, Decoder.run, Json5.read?_text (hspelled.2 hs)]
    exact hreads.decode_eq .json5 j h
  · have hstrings : j.Spelled (fun _ => True) fun _ => False :=
      (h.spelled_iff hreads.distinct).2
        ((s.spelled_toJson_iff fun _ _ => trivial).2 fun _ _ => trivial)
    rw [if_neg hs, Decoder.run, Json5.read?_text_of_broken hstrings (mt hspelled.1 hs)]

/-- The JSON text of a snapshot, with the members of all objects in any order, is decoded as the
snapshot. Loaded from the file that settings name, it is the same snapshot if none of its strings is
broken in JSON5; with one that is, the file is refused as a whole. -/
theorem loads_json (h : j.Reorders s.toJson) :
    decode.run (.json j.text) = .ok s ∧
    (decode.run (.json5 j.text) = if s.Unbroken then .ok s else .error (.stopped .malformed)) ∧
    ∀ {m : Type → Type} [Monad m] [LawfulMonad m] (settings : Inspection.Settings)
      (read : Inspection.FileReader m), read settings.targetsFile = pure (.ok j.text) →
        settings.loadSnapshot read = pure (if s.Unbroken then .ok s else
          .error (.content .json5 (.stopped .malformed))) := by
  have hjson5 := run_json5 h
  refine ⟨run_of_written (.text h), hjson5, fun settings read hread => ?_⟩
  rw [Inspection.Settings.loadSnapshot, Inspection.loadFile, hread, pure_bind]
  dsimp only
  rw [Inspection.decodeSource, hjson5]
  by_cases hs : s.Unbroken
  · simp only [if_pos hs]
  · simp only [if_neg hs]
    rfl

/-- A snapshot with one cell tenant, which has an address. -/
def addressed (address : String) : Snapshot :=
  let key : TenantKey := ⟨.broker, "ns", "b"⟩
  ⟨Dict.empty.insert "broker/ns/b" { CellTenant.shell key with address }⟩

/-- An address with characters that are escaped in JSON, and with two that are not. -/
theorem loads_json_of_escapes :
    let s := addressed "\"\\/\t\x01\x7f\ufeff"
    let settings : Inspection.Settings := ⟨"targets", none, .text⟩
    let read : Inspection.FileReader Id := fun _ => .ok s.toJson.text
    s.toJson.Reorders s.toJson ∧ s.Unbroken ∧ decode.run (.json s.toJson.text) = .ok s ∧
      decode.run (.json5 s.toJson.text) = .ok s ∧ settings.loadSnapshot read = .ok s := by
  intro s settings read
  have hself : s.toJson.Reorders s.toJson := (s.reads_toJson (n := 0)).distinct.reorders
  have hunbroken : s.Unbroken := by decide +kernel
  obtain ⟨hjson, hjson5, hload⟩ := loads_json hself
  refine ⟨hself, hunbroken, hjson, hjson5.trans (if_pos hunbroken), ?_⟩
  exact (hload settings read rfl).trans (if_pos hunbroken)

/-- An address with the end of a line of JSON5, which JSON does not escape. -/
theorem not_every_json_loads : ¬ ∀ s : Snapshot, decode.run (.json5 s.toJson.text) = .ok s := by
  intro h
  have hself := ((addressed "a\u2028b").reads_toJson (n := 0)).distinct.reorders
  have hbroken : ¬ (addressed "a\u2028b").Unbroken := by decide +kernel
  have hloaded := h (addressed "a\u2028b")
  rw [run_json5 hself, if_neg hbroken] at hloaded
  contradiction

end Snapshot

end EventRouter
