import EventRouter.Proofs.Decode.Inverse
import EventRouter.Snapshot.Document

/-! Snapshots read from what is written for them, part by part. For every record, what is written
stands in the order of the fields. -/

namespace EventRouter

variable {n : Nat}

theorem TenantKind.reads_word (k : TenantKind) :
    TenantKind.decode.Reads n (.string k.word) k := by
  cases k <;> exact Decoder.reads_choice rfl

theorem Readiness.reads_word (r : Readiness) :
    Readiness.decode.Reads n (.string r.word) r := by
  cases r <;> exact Decoder.reads_choice rfl

theorem Queue.reads_toJson (q : Queue) : Queue.decode.Reads (n + 1) q.toJson q := by
  refine Schema.reads
    (.cons (Decoder.reads_string q.topic).needed <|
      .cons (Decoder.reads_string q.subscription).needed .nil)
    rfl (by decide) ?_ rfl
  -- Two fields of a record can be put in either order, and so in the records below.
  simp

theorem Queue.reads_option (o : Option Queue) :
    (Decoder.option Queue.decode).Reads (n + 1) (.ofOption Queue.toJson o) o :=
  Decoder.reads_option (fun _ => by simp [Queue.toJson]) Queue.reads_toJson o

theorem Target.reads_toJson (t : Target) : Target.decode.Reads (n + 2) t.toJson t := by
  refine Schema.reads
    (.cons (Decoder.reads_string t.id).optional <|
      .cons (Decoder.reads_string t.name).optional <|
      .cons (Decoder.reads_string t.ns).optional <|
      .cons t.tenantKind.reads_word.optional <|
      .cons (Decoder.reads_string t.tenantName).optional <|
      .cons (Decoder.reads_string t.address).optional <|
      .cons (Decoder.reads_dict Decoder.reads_string t.filter).optional <|
      .cons (Queue.reads_option t.retryQueue).optional <|
      .cons t.readiness.reads_word.optional .nil)
    rfl (by decide) ?_ rfl
  simp

theorem CellTenant.reads_toJson (c : CellTenant) :
    CellTenant.decode.Reads (n + 4) c.toJson c := by
  refine Schema.reads
    (.cons c.kind.reads_word.optional <|
      .cons (Decoder.reads_string c.id).optional <|
      .cons (Decoder.reads_string c.ns).optional <|
      .cons (Decoder.reads_string c.name).optional <|
      .cons (Decoder.reads_string c.address).optional <|
      .cons (Queue.reads_option c.decoupleQueue).optional <|
      .cons c.readiness.reads_word.optional <|
      .cons (Decoder.reads_dict Target.reads_toJson c.targets).optional .nil)
    rfl (by decide) ?_ rfl
  simp

/-- A snapshot is read from what is written for it, whether it is valid or not. -/
theorem Snapshot.reads_toJson (s : Snapshot) : Snapshot.decode.Reads (n + 6) s.toJson s := by
  refine Schema.reads
    (.cons (Decoder.reads_dict CellTenant.reads_toJson s.tenants).optional .nil)
    rfl (by decide) ?_ rfl
  simp

/-- A source holds a snapshot: as a value or as its text, with the members of all objects in any
order. -/
inductive Snapshot.Written (s : Snapshot) : Source → Prop
  | value {j : Json} (h : j.Reorders s.toJson) : Written s (.value j)
  | text {j : Json} (h : j.Reorders s.toJson) : Written s (.json j.text)

theorem Snapshot.run_of_written {s : Snapshot} {source : Source} (h : s.Written source) :
    Snapshot.decode.run source = .ok s := by
  have hreads := s.reads_toJson (n := 0)
  cases h with
  | value h => exact (hreads.run_eq (by decide) h).1
  | text h => exact (hreads.run_eq (by decide) h).2

end EventRouter
