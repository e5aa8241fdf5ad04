import EventRouter.Proofs.Decode.Members
import EventRouter.Proofs.Dict

/-! Documents inside documents. What stands at a place of a document is read by a decoder of its
own. The document is refused if that decoder refuses what stands there, and something else in its
place changes one part of what is read, and nothing else. -/

namespace EventRouter

/-! ### Maps -/

namespace Decoder

variable {α : Type} {value : Decoder α} {dialect : Dialect}
  {members before after : List (Name × Doc)} {key : String} {d : Doc} {l : List (String × α)}

theorem keys_entries (h : entries value dialect members = .ok l) :
    members.map (·.1) = l.map fun e => .text e.1 := by
  induction members generalizing l with
  | nil =>
    obtain rfl := Except.ok.inj h
    rfl
  | cons m rest ih =>
    obtain ⟨x, hx, h⟩ := Except.bind_eq_ok_iff.1 h
    obtain ⟨a, -, h⟩ := Except.bind_eq_ok_iff.1 h
    obtain ⟨tail, htail, h⟩ := Except.bind_eq_ok_iff.1 h
    obtain rfl := Except.ok.inj h
    rw [List.map_cons, List.map_cons, ih htail, Name.decode_eq_ok_iff.1 hx]

theorem key_mem_entries_iff (h : entries value dialect members = .ok l) :
    key ∈ l.map (·.1) ↔ ∃ m ∈ members, m.1 = .text key := by
  have hmem : (∃ m ∈ members, m.1 = .text key) ↔ Name.text key ∈ members.map (·.1) := by simp
  rw [hmem, keys_entries h]
  simp

theorem entries_cons_eq_ok_iff : entries value dialect ((.text key, d) :: members) = .ok l ↔
    ∃ a rest, value dialect d = .ok a ∧ entries value dialect members = .ok rest ∧
      l = (key, a) :: rest := by
  simp only [entries, Name.decode, Except.bind_eq_ok_iff, Except.ok.injEq, exists_eq_left', pure,
    Except.pure, exists_and_left, eq_comm (b := l)]

theorem entries_append_eq_ok_iff : entries value dialect (before ++ after) = .ok l ↔
    ∃ front back, entries value dialect before = .ok front ∧
      entries value dialect after = .ok back ∧ l = front ++ back := by
  induction before generalizing l with
  | nil =>
    constructor
    · exact fun h => ⟨[], l, rfl, h, rfl⟩
    · rintro ⟨front, back, hfront, hback, rfl⟩
      obtain rfl := Except.ok.inj hfront
      exact hback
  | cons m rest ih =>
    simp only [List.cons_append, entries, Except.bind_eq_ok_iff, ih]
    constructor
    · rintro ⟨x, hx, a, ha, _, ⟨front, back, hfront, hback, rfl⟩, h⟩
      exact ⟨(x, a) :: front, back, ⟨x, hx, a, ha, front, hfront, rfl⟩, hback,
        (Except.ok.inj h).symm⟩
    · rintro ⟨_, back, ⟨x, hx, a, ha, front, hfront, h⟩, hback, rfl⟩
      obtain rfl := Except.ok.inj h
      exact ⟨x, hx, a, ha, front ++ back, ⟨front, back, hfront, hback, rfl⟩, rfl⟩

theorem entries_insert {front back : List (String × α)} {a : α}
    (hfront : entries value dialect before = .ok front) (ha : value dialect d = .ok a)
    (hback : entries value dialect after = .ok back) :
    entries value dialect (before ++ (.text key, d) :: after) = .ok (front ++ (key, a) :: back) :=
  entries_append_eq_ok_iff.2
    ⟨front, (key, a) :: back, hfront, entries_cons_eq_ok_iff.2 ⟨a, back, ha, hback, rfl⟩, rfl⟩

/-- A map with one more entry, which no later entry has the key of, is read with that entry. -/
theorem dict_insert {m : Dict α} {a : α}
    (h : dict value dialect (.object (before ++ after)) = .ok m) (ha : value dialect d = .ok a)
    (hnew : ∀ m ∈ after, m.1 ≠ .text key) :
    dict value dialect (.object (before ++ (.text key, d) :: after)) = .ok (m.insert key a) := by
  obtain ⟨l, hl, rfl⟩ := Except.map_eq_ok_iff.1 h
  obtain ⟨front, back, hfront, hback, rfl⟩ := entries_append_eq_ok_iff.1 hl
  have hkey : key ∉ back.map (·.1) := fun hmem => by
    obtain ⟨m, hm, hname⟩ := (key_mem_entries_iff hback).1 hmem
    exact hnew m hm hname
  rw [dict, entries_insert hfront ha hback, ← Dict.ofList_insert hkey]
  rfl

end Decoder

/-! ### Places -/

/-- A document that is made of other documents. -/
def Doc.IsComposite : Doc → Prop
  | .array _ | .object _ => True
  | _ => False

/-- Where `outer` reads a document that has been put into `around`, `inner` reads what was put
there. When something else is read there, what is read of the whole changes by `change`. -/
structure Decoder.Hole {α β : Type} (outer : Decoder β) (inner : Decoder α) (around : Doc → Doc)
    (change : (α → α) → β → β) : Prop where
  isComposite : ∀ d, d.IsComposite → (around d).IsComposite
  exists_inner : ∀ dialect d b, d.IsComposite → outer dialect (around d) = .ok b →
    ∃ a, inner dialect d = .ok a ∧ ∀ d' φ, d'.IsComposite → inner dialect d' = .ok (φ a) →
      outer dialect (around d') = .ok (change φ b)

namespace Decoder.Hole

variable {α β γ : Type} {outer : Decoder γ} {middle : Decoder β} {inner : Decoder α}
  {around around' : Doc → Doc} {change : (β → β) → γ → γ} {change' : (α → α) → β → β}

theorem refl (decode : Decoder α) : Hole decode decode id id where
  isComposite _ hd := hd
  exists_inner _ _ a _ ha := ⟨a, ha, fun _ _ _ hd' => hd'⟩

theorem trans (h : Hole outer middle around change) (h' : Hole middle inner around' change') :
    Hole outer inner (around ∘ around') (change ∘ change') where
  isComposite d hd := h.isComposite _ (h'.isComposite d hd)
  exists_inner dialect d c hd hc := by
    obtain ⟨b, hb, hchange⟩ := h.exists_inner dialect _ c (h'.isComposite d hd) hc
    obtain ⟨a, ha, hchange'⟩ := h'.exists_inner dialect d b hd hb
    refine ⟨a, ha, fun d' φ hd' hφ => ?_⟩
    exact hchange _ _ (h'.isComposite d' hd') (hchange' d' φ hd' hφ)

theorem option (decode : Decoder α) : Hole (.option decode) decode id Option.map where
  isComposite _ hd := hd
  exists_inner dialect d o hd ho := by
    have hoption (d : Doc) (hd : d.IsComposite) :
        Decoder.option decode dialect d = some <$> decode dialect d := by
      cases d <;> first | contradiction | rfl
    rw [id, hoption d hd] at ho
    obtain ⟨a, ha, rfl⟩ := Except.map_eq_ok_iff.1 ho
    refine ⟨a, ha, fun d' φ hd' hφ => ?_⟩
    rw [id, hoption d' hd', hφ]
    rfl

/-- The entry of a map. It counts unless a later one has the same key. -/
theorem entry (value : Decoder α) (before after : List (Name × Doc)) (key : String) :
    Hole (.dict value) value (fun d => .object (before ++ (.text key, d) :: after))
      fun φ m => if ∃ m ∈ after, m.1 = .text key then m else m.adjust key φ where
  isComposite _ _ := trivial
  exists_inner dialect d m _ hm := by
    obtain ⟨l, hl, rfl⟩ := Except.map_eq_ok_iff.1 hm
    obtain ⟨front, rest, hfront, hrest, rfl⟩ := entries_append_eq_ok_iff.1 hl
    obtain ⟨a, back, ha, hback, rfl⟩ := entries_cons_eq_ok_iff.1 hrest
    refine ⟨a, ha, fun d' φ _ hφ => ?_⟩
    simp only [dict, entries_insert hfront hφ hback, ← key_mem_entries_iff hback]
    exact congrArg Except.ok (Dict.ofList_adjust front back key a φ)

end Decoder.Hole

end EventRouter
