import EventRouter.Proofs.Key.Codec

/-! Written keys are told apart by their texts alone. The text of a target key is the text of the
key of its cell tenant, a separator, and one component more. -/

namespace EventRouter

namespace Text

/-- The text in front of the last separator, and the text behind it. -/
def cutLast? (sep : Char) : List Char → Option (List Char × List Char)
  | [] => none
  | c :: rest =>
    match cutLast? sep rest with
    | some (front, back) => some (c :: front, back)
    | none => if c = sep then some ([], rest) else none

variable {sep : Char} {cs front back : List Char}

theorem cutLast?_eq_none_iff : cutLast? sep cs = none ↔ sep ∉ cs := by
  induction cs with
  | nil => simp [cutLast?]
  | cons c rest ih =>
    rw [cutLast?]
    cases hrest : cutLast? sep rest with
    | some cut =>
      have hmem : sep ∈ rest := Decidable.not_not.1 (mt ih.2 (by simp [hrest]))
      simp [hmem]
    | none =>
      have hnot : sep ∉ rest := ih.1 hrest
      simp [hnot, eq_comm]

theorem cutLast?_append (front : List Char) (h : sep ∉ back) :
    cutLast? sep (front ++ sep :: back) = some (front, back) := by
  induction front with
  | nil => rw [List.nil_append, cutLast?, cutLast?_eq_none_iff.2 h, if_pos rfl]
  | cons c front ih => rw [List.cons_append, cutLast?, ih]

/-- The cut is at a separator behind which no other one follows. -/
theorem cutLast?_eq_some_iff :
    cutLast? sep cs = some (front, back) ↔ cs = front ++ sep :: back ∧ sep ∉ back := by
  constructor
  · intro h
    induction cs generalizing front with
    | nil => contradiction
    | cons c rest ih =>
      rw [cutLast?] at h
      split at h
      · next front' back' hrest =>
        obtain ⟨rfl, rfl⟩ : c :: front' = front ∧ back' = back := by simpa using h
        obtain ⟨hcs, hback⟩ := ih hrest
        exact ⟨congrArg (c :: ·) hcs, hback⟩
      · next hrest =>
        obtain ⟨rfl, rfl, rfl⟩ : c = sep ∧ [] = front ∧ rest = back := by simpa using h
        exact ⟨rfl, cutLast?_eq_none_iff.1 hrest⟩
  · rintro ⟨rfl, hback⟩
    exact cutLast?_append front hback

theorem join_concat {parts : List (List Char)} (hne : parts ≠ []) (part : List Char) :
    join sep (parts ++ [part]) = join sep parts ++ sep :: part := by
  induction parts with
  | nil => contradiction
  | cons first rest ih =>
    by_cases hrest : rest = []
    · subst hrest
      simp [join, List.intercalate]
    · have htail : rest ++ [part] ≠ [] := by simp
      rw [List.cons_append, join_cons htail, join_cons hrest, ih hrest, List.append_assoc,
        List.cons_append]

end Text

namespace TargetKey

theorem separator_not_mem_components (key : TargetKey) :
    ∀ part ∈ key.components, Key.separator ∉ part := by
  intro part hpart
  rcases List.mem_append.1 hpart with hparent | hname
  · exact key.parent.separator_not_mem_components part hparent
  · obtain rfl := List.mem_singleton.1 hname
    exact Key.not_mem_escape _

theorem components_inj {a b : TargetKey} (h : a.components = b.components) : a = b := by
  obtain ⟨hparent, hname⟩ := List.append_inj h rfl
  have hparent' : a.parent = b.parent := TenantKey.components_inj hparent
  have hname' : a.name = b.name :=
    String.toList_inj.1 (Key.escape_inj (List.singleton_inj.1 hname))
  cases a; cases b; simp_all

/-- The text of a key splits into its components. -/
theorem split_text (key : TargetKey) :
    Text.split Key.separator key.text.toList = key.components := by
  rw [text, String.toList_ofList]
  exact Text.split_join (by simp [components]) key.separator_not_mem_components

theorem text_inj {a b : TargetKey} (h : a.text = b.text) : a = b :=
  components_inj (by rw [← a.split_text, ← b.split_text, h])

/-- A target key has one component more than the key of a cell tenant. -/
theorem text_ne_text (key : TargetKey) (other : TenantKey) : key.text ≠ other.text := by
  intro h
  have hparts : key.components = other.components := by
    rw [← key.split_text, ← other.split_text, h]
  have hlength := congrArg List.length hparts
  simp [components, TenantKey.components] at hlength

theorem toList_text (key : TargetKey) :
    key.text.toList =
      key.parent.text.toList ++ Key.separator :: Key.escape key.name.toList := by
  rw [text, TenantKey.text, String.toList_ofList, String.toList_ofList]
  exact Text.join_concat (by simp [TenantKey.components]) _

end TargetKey

/-- No two keys have one text, whatever their components are, and neither have a target key and the
key of a cell tenant. The text of a target key, cut at its last separator, begins with the text of
the key of its cell tenant. -/
theorem Key.text_collision_free :
    Function.Injective TenantKey.text ∧ Function.Injective TargetKey.text ∧
    (∀ (target : TargetKey) (tenant : TenantKey), target.text ≠ tenant.text) ∧
    ∀ target : TargetKey, Text.cutLast? Key.separator target.text.toList =
      some (target.parent.text.toList, Key.escape target.name.toList) := by
  refine ⟨fun a b h => TenantKey.text_inj h, fun a b h => TargetKey.text_inj h,
    TargetKey.text_ne_text, fun target => ?_⟩
  rw [target.toList_text]
  exact Text.cutLast?_append _ (Key.not_mem_escape _)

example : (⟨⟨.broker, "a/b", ""⟩, "50%2F"⟩ : TargetKey).text = "broker/a%2Fb//50%252F" := by decide

end EventRouter
