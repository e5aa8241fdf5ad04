import EventRouter.Proofs.Decode.Record
import Mathlib.Data.List.Nodup

/-! What one member means for a record. A member for a field that has no other member changes what
the field changes, wherever it stands; and what no other field changes is told by the member for the
one that does. -/

namespace EventRouter

/-! ### Members by name -/

/-- What an object has under a name: the last member of the name counts. -/
def Doc.lastMember? (name : String) (members : List (Name × Doc)) : Option Doc :=
  (members.filter (·.1 = .text name)).getLast?.map (·.2)

theorem Doc.mem_of_lastMember? {name : String} {members : List (Name × Doc)} {d : Doc}
    (h : lastMember? name members = some d) : (.text name, d) ∈ members := by
  obtain ⟨m, hm, rfl⟩ := Option.map_eq_some_iff.1 h
  obtain ⟨hmem, hname⟩ := List.mem_filter.1 (List.mem_of_getLast? hm)
  rwa [← of_decide_eq_true hname]

theorem Doc.lastMember?_eq_none_iff {name : String} {members : List (Name × Doc)} :
    lastMember? name members = none ↔ ∀ m ∈ members, m.1 ≠ .text name := by
  simp [lastMember?]

/-- In an object whose members have different names, each member is the last one of its name. -/
theorem Doc.lastMember?_eq_some_iff {name : String} {members : List (Name × Doc)} {d : Doc}
    (h : (members.map (·.1)).Nodup) :
    lastMember? name members = some d ↔ (.text name, d) ∈ members := by
  refine ⟨mem_of_lastMember?, fun hmem => ?_⟩
  cases hlast : lastMember? name members with
  | none => exact absurd rfl (lastMember?_eq_none_iff.1 hlast _ hmem)
  | some last =>
    have hsame := List.inj_on_of_nodup_map h (mem_of_lastMember? hlast) hmem rfl
    exact congrArg some (Prod.ext_iff.1 hsame).2

theorem Name.decode_eq_ok_iff {name : Name} {s : String} :
    name.decode = .ok s ↔ name = .text s := by
  cases name <;> simp [Name.decode]

/-! ### One member -/

namespace Schema

variable {σ β : Type} {schema : Schema σ} {dialect : Dialect}
  {other : String → Doc → Except Flaw (σ → σ)} {seen : List String} {record : σ} {name : String}
  {members before after : List (Name × Doc)} {result : List String × σ}

/-- A member that is read is one for a field that was not seen yet, or for none. -/
theorem readMembers_cons_eq_ok {m : Name × Doc}
    (h : schema.readMembers dialect other seen record (m :: members) = .ok result) :
    ∃ name put, m.1 = .text name ∧
      ((∃ field, schema.field? name = some field ∧ name ∉ seen ∧
          field.read dialect m.2 = .ok put ∧
          schema.readMembers dialect other (name :: seen) (put record) members = .ok result) ∨
        schema.field? name = none ∧ other name m.2 = .ok put ∧
          schema.readMembers dialect other seen (put record) members = .ok result) := by
  obtain ⟨name, hname, h⟩ := Except.bind_eq_ok_iff.1 h
  have hname := Name.decode_eq_ok_iff.1 hname
  cases hfield : schema.field? name with
  | some field =>
    simp only [hfield] at h
    split at h
    · contradiction
    · next hseen =>
      obtain ⟨put, hput, h⟩ := Except.bind_eq_ok_iff.1 h
      exact ⟨name, put, hname, .inl ⟨field, hfield, hseen, hput, h⟩⟩
  | none =>
    simp only [hfield] at h
    obtain ⟨put, hput, h⟩ := Except.bind_eq_ok_iff.1 h
    exact ⟨name, put, hname, .inr ⟨hfield, hput, h⟩⟩

theorem name_of_field? {field : Field σ} (h : schema.field? name = some field) :
    field ∈ schema.fields ∧ field.name = name :=
  ⟨List.mem_of_find?_eq_some h, by simpa using List.find?_some h⟩

/-- Where other members are refused, every member is one for a field. -/
theorem mem_names_of_readMembers
    (h : schema.readMembers dialect schema.refuseOther seen record members = .ok result)
    {m : Name × Doc} (hm : m ∈ members) (hname : m.1 = .text name) : name ∈ schema.names := by
  induction members generalizing seen record with
  | nil => contradiction
  | cons first rest ih =>
    obtain ⟨x, put, hx, ⟨field, hfield, -, -, hrest⟩ | ⟨-, hother, -⟩⟩ := readMembers_cons_eq_ok h
    · rcases List.mem_cons.1 hm with rfl | hm
      · obtain rfl := Name.text.inj (hx.symm.trans hname)
        obtain ⟨hmem, rfl⟩ := name_of_field? hfield
        exact List.mem_map_of_mem hmem
      · exact ih hrest hm
    · contradiction

theorem decode_ne_ok_of_unknown {m : Name × Doc} (hm : m ∈ members) (hname : m.1 = .text name)
    (hunknown : name ∉ schema.names) (dialect : Dialect) (a : σ) :
    schema.decode dialect (.object members) ≠ .ok a := by
  intro h
  obtain ⟨seen, hread⟩ := readMembers_of_decodeMembers h
  exact hunknown (mem_names_of_readMembers hread hm hname)

theorem absent_of_seen (hfield : schema.field? name ≠ none) (hseen : name ∈ seen)
    (h : schema.readMembers dialect other seen record members = .ok result) :
    ∀ m ∈ members, m.1 ≠ .text name := by
  induction members generalizing seen record with
  | nil => exact List.forall_mem_nil _
  | cons first rest ih =>
    obtain ⟨x, put, hx, ⟨field, -, hfresh, -, hrest⟩ | ⟨hnone, -, hrest⟩⟩ :=
      readMembers_cons_eq_ok h
    · refine List.forall_mem_cons.2 ⟨fun hfirst => ?_, ih (List.mem_cons_of_mem x hseen) hrest⟩
      obtain rfl := Name.text.inj (hx.symm.trans hfirst)
      exact hfresh hseen
    · refine List.forall_mem_cons.2 ⟨fun hfirst => ?_, ih hseen hrest⟩
      obtain rfl := Name.text.inj (hx.symm.trans hfirst)
      exact hfield hnone

/-- A field has one member at most. -/
theorem pairwise_of_readMembers (hfield : schema.field? name ≠ none)
    (h : schema.readMembers dialect other seen record members = .ok result) :
    members.Pairwise fun m m' => m.1 = .text name → m'.1 ≠ .text name := by
  induction members generalizing seen record with
  | nil => exact .nil
  | cons first rest ih =>
    obtain ⟨x, put, hx, ⟨field, -, -, -, hrest⟩ | ⟨hnone, -, hrest⟩⟩ := readMembers_cons_eq_ok h
    · refine .cons (fun m hm hfirst => ?_) (ih hrest)
      obtain rfl := Name.text.inj (hx.symm.trans hfirst)
      exact absent_of_seen hfield List.mem_cons_self hrest m hm
    · refine .cons (fun m _ hfirst => ?_) (ih hrest)
      obtain rfl := Name.text.inj (hx.symm.trans hfirst)
      exact absurd hnone hfield

theorem absent_of_readMembers {d : Doc} (hfield : schema.field? name ≠ none)
    (h : schema.readMembers dialect other seen record (before ++ (.text name, d) :: after) =
      .ok result) : ∀ m ∈ before ++ after, m.1 ≠ .text name := by
  obtain ⟨-, hafter, hbefore⟩ := List.pairwise_append.1 (pairwise_of_readMembers hfield h)
  intro m hm hname
  rcases List.mem_append.1 hm with hm | hm
  · exact hbefore m hm _ List.mem_cons_self hname rfl
  · exact (List.pairwise_cons.1 hafter).1 m hm rfl hname

/-! ### What only one field changes -/

/-- Only the field of a name changes what is seen of a record. -/
structure Keeps (schema : Schema σ) (dialect : Dialect)
    (other : String → Doc → Except Flaw (σ → σ)) (name : String) (view : σ → β) : Prop where
  field : ∀ field ∈ schema.fields, field.name ≠ name → ∀ d put, field.read dialect d = .ok put →
    ∀ record, view (put record) = view record
  other : ∀ name d put, other name d = .ok put → ∀ record, view (put record) = view record

namespace Keeps

variable {view : σ → β} (hkeeps : schema.Keeps dialect other name view)
include hkeeps

theorem view_eq (hname : schema.field? name ≠ none)
    (hread : schema.readMembers dialect other seen record members = .ok result)
    (h : name ∈ seen ∨ ∀ m ∈ members, m.1 ≠ .text name) : view result.2 = view record := by
  -- Along the members: a field that has been seen stays seen, and is refused a second member.
  induction members generalizing seen record with
  | nil =>
    obtain rfl := Except.ok.inj hread
    rfl
  | cons m rest ih =>
    obtain ⟨x, put, hx, ⟨field, hfield, hseen, hput, hread⟩ | ⟨hfield, hput, hread⟩⟩ :=
      readMembers_cons_eq_ok hread
    · obtain ⟨hmem, hfieldName⟩ := name_of_field? hfield
      have hne : x ≠ name := by
        rintro rfl
        rcases h with h | h
        · exact hseen h
        · exact h m List.mem_cons_self hx
      have hrest : name ∈ x :: seen ∨ ∀ m ∈ rest, m.1 ≠ .text name :=
        h.imp (List.mem_cons_of_mem x) fun h m hm => h m (List.mem_cons_of_mem _ hm)
      rw [ih hread hrest, hkeeps.field field hmem (hfieldName ▸ hne) m.2 put hput]
    · rw [ih hread (h.imp_right fun h m hm => h m (List.mem_cons_of_mem _ hm)),
        hkeeps.other x m.2 put hput]

/-- What is seen of a record is what the member for the field made of it. -/
theorem view_of_mem {field : Field σ} {d : Doc} (hname : schema.field? name = some field)
    (hread : schema.readMembers dialect other seen record members = .ok result)
    (hmem : (.text name, d) ∈ members) :
    ∃ put record, field.read dialect d = .ok put ∧ view result.2 = view (put record) := by
  induction members generalizing seen record with
  | nil => exact absurd hmem List.not_mem_nil
  | cons m rest ih =>
    obtain ⟨x, put, hx, ⟨field', hfield, hseen, hput, hread⟩ | ⟨hfield, hput, hread⟩⟩ :=
      readMembers_cons_eq_ok hread
    · rcases List.mem_cons.1 hmem with rfl | hmem
      -- At the member itself; none of those behind it is for the field.
      · obtain rfl := Name.text.inj hx
        obtain rfl := Option.some.inj (hname.symm.trans hfield)
        have hne : schema.field? name ≠ none := by simp [hname]
        exact ⟨put, record, hput, hkeeps.view_eq hne hread (.inl List.mem_cons_self)⟩
      · exact ih hread hmem
    · rcases List.mem_cons.1 hmem with rfl | hmem
      · obtain rfl := Name.text.inj hx
        rw [hname] at hfield
        contradiction
      · exact ih hread hmem

end Keeps

/-! ### A member put between others -/

/-- A function can be applied to a record before or after all fields but the one of a name. -/
structure Commutes (schema : Schema σ) (dialect : Dialect)
    (other : String → Doc → Except Flaw (σ → σ)) (name : String) (f : σ → σ) : Prop where
  field : ∀ field ∈ schema.fields, field.name ≠ name → ∀ d put, field.read dialect d = .ok put →
    ∀ record, put (f record) = f (put record)
  other : ∀ name d put, other name d = .ok put → ∀ record, put (f record) = f (put record)

/-- Two readers that stand at the same member go on alike if they do so behind it. -/
theorem map_readMembers_cons {α : Type} {m : Name × Doc} {seen' : List String} {record' : σ}
    {members' : List (Name × Doc)} {g g' : List String × σ → α}
    (hseen : ∀ x, m.1 = .text x → (x ∈ seen' ↔ x ∈ seen))
    (hfield : ∀ x field put, m.1 = .text x → schema.field? x = some field →
      field.read dialect m.2 = .ok put →
      g' <$> schema.readMembers dialect other (x :: seen') (put record') members' =
        g <$> schema.readMembers dialect other (x :: seen) (put record) members)
    (hother : ∀ x put, m.1 = .text x → other x m.2 = .ok put →
      g' <$> schema.readMembers dialect other seen' (put record') members' =
        g <$> schema.readMembers dialect other seen (put record) members) :
    g' <$> schema.readMembers dialect other seen' record' (m :: members') =
      g <$> schema.readMembers dialect other seen record (m :: members) := by
  obtain ⟨n, d⟩ := m
  cases n with
  | fault f => rfl
  | text x =>
    simp only [readMembers, Name.decode, bind, Except.bind]
    cases hx : schema.field? x with
    | some field =>
      simp only [hseen x rfl]
      split
      · rfl
      · cases hput : field.read dialect d with
        | error f => rfl
        | ok put => exact hfield x field put rfl hx hput
    | none =>
      cases hput : other x d with
      | error f => rfl
      | ok put => exact hother x put rfl hput

namespace Commutes

variable {f : σ → σ} (hcommutes : schema.Commutes dialect other name f)
include hcommutes

theorem map_readMembers {seen' : List String} (habsent : ∀ m ∈ members, m.1 ≠ .text name)
    (hseen : ∀ x, x ≠ name → (x ∈ seen' ↔ x ∈ seen)) :
    Prod.snd <$> schema.readMembers dialect other seen' (f record) members =
      (fun x => f x.2) <$> schema.readMembers dialect other seen record members := by
  induction members generalizing seen seen' record with
  | nil => rfl
  | cons m rest ih =>
    obtain ⟨hm, hrest⟩ := List.forall_mem_cons.1 habsent
    have hne : ∀ x, m.1 = .text x → x ≠ name := by
      rintro x hx rfl
      exact hm hx
    refine map_readMembers_cons (fun x hx => hseen x (hne x hx))
      (fun x field put hx hfield hput => ?_) fun x put hx hput => ?_
    · obtain ⟨hmem, hname⟩ := name_of_field? hfield
      rw [hcommutes.field field hmem (hname ▸ hne x hx) m.2 put hput]
      exact ih hrest fun y hy => by simp only [List.mem_cons, hseen y hy]
    · rw [hcommutes.other x m.2 put hput]
      exact ih hrest hseen

/-- A member for a field that no other member is for does to the record what the field does. -/
theorem map_readMembers_insert {field : Field σ} {d : Doc} (hname : schema.field? name = some field)
    (hput : field.read dialect d = .ok f) (habsent : ∀ m ∈ before ++ after, m.1 ≠ .text name)
    (hseen : name ∉ seen) :
    Prod.snd <$> schema.readMembers dialect other seen record (before ++ (.text name, d) :: after) =
      (fun x => f x.2) <$> schema.readMembers dialect other seen record (before ++ after) := by
  -- Both readers stand at the same member until one of them meets the member that was put in.
  induction before generalizing seen record with
  | nil =>
    rw [List.nil_append, readMembers_field hname hseen hput]
    exact hcommutes.map_readMembers habsent fun x hx => List.mem_cons.trans (or_iff_right hx)
  | cons m rest ih =>
    obtain ⟨hm, hrest⟩ := List.forall_mem_cons.1 habsent
    refine map_readMembers_cons (fun _ _ => Iff.rfl) (fun x _ put hx _ _ => ih hrest ?_)
      fun x put _ _ => ih hrest hseen
    rw [List.mem_cons, not_or]
    refine ⟨?_, hseen⟩
    rintro rfl
    exact hm hx

end Commutes

theorem decodeMembers_eq_map (hoptional : ∀ field ∈ schema.fields, field.required = false) :
    schema.decodeMembers dialect other members =
      Prod.snd <$> schema.readMembers dialect other [] schema.blank members := by
  unfold decodeMembers
  cases schema.readMembers dialect other [] schema.blank members with
  | error f => rfl
  | ok result =>
    have hmissing : schema.missing? result.1 = none :=
      List.find?_eq_none.2 fun field hfield => by simp [hoptional field hfield]
    simp only [bind, Except.bind, hmissing]
    rfl

theorem Commutes.decodeMembers_insert {field : Field σ} {d : Doc} {f : σ → σ}
    (hcommutes : schema.Commutes dialect other name f)
    (hoptional : ∀ field ∈ schema.fields, field.required = false)
    (hname : schema.field? name = some field) (hput : field.read dialect d = .ok f)
    (habsent : ∀ m ∈ before ++ after, m.1 ≠ .text name) :
    schema.decodeMembers dialect other (before ++ (.text name, d) :: after) =
      f <$> schema.decodeMembers dialect other (before ++ after) := by
  rw [decodeMembers_eq_map hoptional, decodeMembers_eq_map hoptional,
    hcommutes.map_readMembers_insert hname hput habsent List.not_mem_nil]
  cases schema.readMembers dialect other [] schema.blank (before ++ after) <;> rfl

end Schema
end EventRouter
