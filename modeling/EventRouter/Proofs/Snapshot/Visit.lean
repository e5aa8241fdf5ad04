import EventRouter.Proofs.Snapshot.Listing

/-! Visits that a visitor may end. The calls of a visit are the shortest beginning of the items that
ends with the answer `false`, whatever state the visitor keeps, and a visit of targets cell tenant
by cell tenant is a visit of all targets in one row. -/

namespace EventRouter

universe u

variable {σ : Type u} {α β : Type} {visitor : σ → α → σ × Bool} {s : σ} {a : α}
  {items calls rest : List α}

/-- The state of a visitor after calls, whatever it answered. -/
def afterCalls (visitor : σ → α → σ × Bool) (s : σ) (calls : List α) : σ :=
  calls.foldl (fun s a => (visitor s a).1) s

/-- There are calls, and the answer to the last one is `false`. -/
def Refused (visitor : σ → α → σ × Bool) (s : σ) (calls : List α) : Prop :=
  ∃ before last, calls = before ++ [last] ∧ (visitor (afterCalls visitor s before) last).2 = false

/-- These are the calls of a visit of the items: their shortest beginning that ends with a refusal,
or all of them if there is none. -/
structure Visited (visitor : σ → α → σ × Bool) (s : σ) (items calls : List α) : Prop where
  beginning : calls <+: items
  shortest : ∀ early, early <+: items → Refused visitor s early → calls <+: early
  complete : Refused visitor s calls ∨ calls = items

/-- The visitor that also notes the items it is called with. -/
def noting (visitor : σ → α → σ × Bool) (s : σ × List α) (a : α) : (σ × List α) × Bool :=
  (((visitor s.1 a).1, s.2 ++ [a]), (visitor s.1 a).2)

theorem not_refused_nil : ¬ Refused visitor s [] := by
  rintro ⟨before, last, hcalls, -⟩
  simp at hcalls

theorem refused_cons_iff : Refused visitor s (a :: calls) ↔
    calls = [] ∧ (visitor s a).2 = false ∨ Refused visitor (visitor s a).1 calls := by
  constructor
  · rintro ⟨before, last, hcalls, hlast⟩
    rcases List.cons_eq_append_iff.1 hcalls with ⟨rfl, hlast'⟩ | ⟨before, rfl, rfl⟩
    · obtain ⟨rfl, rfl⟩ := List.cons.inj hlast'
      exact .inl ⟨rfl, hlast⟩
    · exact .inr ⟨before, last, rfl, hlast⟩
  · rintro (⟨rfl, ha⟩ | ⟨before, last, rfl, hlast⟩)
    · exact ⟨[], a, rfl, ha⟩
    · exact ⟨a :: before, last, rfl, hlast⟩

namespace Visited

theorem nil : Visited visitor s [] [] where
  beginning := List.prefix_rfl
  shortest _ _ _ := List.nil_prefix
  complete := .inr rfl

theorem refused (ha : (visitor s a).2 = false) : Visited visitor s (a :: rest) [a] where
  beginning := ⟨rest, rfl⟩
  shortest early hearly hrefused := by
    rcases List.prefix_cons_iff.1 hearly with rfl | ⟨early, rfl, -⟩
    · exact absurd hrefused not_refused_nil
    · exact ⟨early, rfl⟩
  complete := .inl (refused_cons_iff.2 (.inl ⟨rfl, ha⟩))

theorem accepted (ha : (visitor s a).2 = true)
    (h : Visited visitor (visitor s a).1 rest calls) :
    Visited visitor s (a :: rest) (a :: calls) where
  beginning := (List.prefix_cons_inj a).2 h.beginning
  shortest early hearly hrefused := by
    rcases List.prefix_cons_iff.1 hearly with rfl | ⟨early, rfl, hrest⟩
    · exact absurd hrefused not_refused_nil
    · rcases refused_cons_iff.1 hrefused with ⟨-, hfalse⟩ | hrefused
      · simp [ha] at hfalse
      · exact (List.prefix_cons_inj a).2 (h.shortest early hrest hrefused)
  complete := by
    rcases h.complete with hrefused | rfl
    · exact .inl (refused_cons_iff.2 (.inr hrefused))
    · exact .inr rfl

/-- A visitor that always goes on is called with all items. -/
theorem eq_items (h : Visited visitor s items calls) (hgoes : ∀ s a, (visitor s a).2 = true) :
    calls = items := by
  refine h.complete.resolve_left ?_
  rintro ⟨before, last, -, hlast⟩
  rw [hgoes] at hlast
  contradiction

end Visited

/-! ### What a visit does -/

theorem visit_of_refused (ha : (visitor s a).2 = false) :
    visit visitor s (a :: rest) = visitor s a := by
  rw [visit]
  split
  · next heq => simp [heq] at ha
  · next heq => exact heq.symm

theorem visit_of_accepted (ha : (visitor s a).2 = true) :
    visit visitor s (a :: rest) = visit visitor (visitor s a).1 rest := by
  rw [visit]
  split
  · next heq => rw [heq]
  · next heq => simp [heq] at ha

/-- A visit makes the calls of the visit, and leaves the visitor in the state after them. -/
theorem exists_visited (visitor : σ → α → σ × Bool) (s : σ) (items : List α) :
    ∃ calls, Visited visitor s items calls ∧
      (visit visitor s items).1 = afterCalls visitor s calls ∧
      ∀ noted, (visit (noting visitor) (s, noted) items).1 =
        (afterCalls visitor s calls, noted ++ calls) := by
  -- The calls are the same whatever was noted before, so what was noted is not fixed.
  induction items generalizing s with
  | nil => exact ⟨[], .nil, rfl, fun noted => by rw [List.append_nil]; rfl⟩
  | cons a rest ih =>
    cases ha : (visitor s a).2 with
    | false =>
      refine ⟨[a], .refused ha, by rw [visit_of_refused ha]; rfl, fun noted => ?_⟩
      have hnoting : (noting visitor (s, noted) a).2 = false := ha
      rw [visit_of_refused hnoting]
      rfl
    | true =>
      obtain ⟨calls, hcalls, hstate, hnoted⟩ := ih (visitor s a).1
      refine ⟨a :: calls, hcalls.accepted ha, by rw [visit_of_accepted ha, hstate]; rfl,
        fun noted => ?_⟩
      have hnoting : (noting visitor (s, noted) a).2 = true := ha
      rw [visit_of_accepted hnoting]
      refine (hnoted (noted ++ [a])).trans ?_
      rw [List.append_assoc]
      rfl

/-- A visitor that keeps what it is shown and always goes on keeps all items. -/
theorem visit_keeping (seen items : List α) :
    visit (fun seen a => (seen ++ [a], true)) seen items = (seen ++ items, true) := by
  induction items generalizing seen with
  | nil => rw [List.append_nil]; rfl
  | cons a rest ih => rw [visit_of_accepted rfl, ih, List.append_assoc, List.singleton_append]

theorem visit_map (visitor : σ → α → σ × Bool) (f : β → α) (s : σ) (l : List β) :
    visit (fun s b => visitor s (f b)) s l = visit visitor s (l.map f) := by
  induction l generalizing s with
  | nil => rfl
  | cons b l ih => simp only [List.map_cons, visit, ih]

theorem visit_append (visitor : σ → α → σ × Bool) (s : σ) (items rest : List α) :
    visit visitor s (items ++ rest) =
      if (visit visitor s items).2 then visit visitor (visit visitor s items).1 rest
      else visit visitor s items := by
  induction items generalizing s with
  | nil => rfl
  | cons a items ih =>
    rw [List.cons_append]
    cases ha : (visitor s a).2 with
    | false => rw [visit_of_refused ha, visit_of_refused ha, ha]; rfl
    | true => rw [visit_of_accepted ha, visit_of_accepted ha, ih]

/-- A visit of groups, which ends when the visit of one group was ended, is a visit of the items of
all groups. -/
theorem visit_flatMap (visitor : σ → α → σ × Bool) (f : β → List α) (s : σ) (l : List β) :
    visit (fun s b => visit visitor s (f b)) s l = visit visitor s (l.flatMap f) := by
  induction l generalizing s with
  | nil => rfl
  | cons b l ih =>
    rw [List.flatMap_cons, visit_append, ← ih]
    split
    · next hgoes => exact visit_of_accepted hgoes
    · next hends => exact visit_of_refused (Bool.eq_false_iff.2 hends)

/-! ### Visits of listings -/

namespace Listing

theorem visitTenants_eq (l : Listing) (visitor : σ → CellTenant → σ × Bool) (s : σ) :
    l.visitTenants visitor s = (visit visitor s l.allTenants).1 := by
  rw [visitTenants, visit_map]
  rfl

theorem visitTargets_eq (l : Listing) (visitor : σ → Target → σ × Bool) (s : σ) :
    l.visitTargets visitor s = (visit visitor s l.allTargets).1 := by
  have hentry : visitEntry visitor = fun s e => visit visitor s (e.targets.map (·.2)) :=
    funext fun s => funext fun e => visit_map visitor (fun t : String × Target => t.2) s e.targets
  rw [visitTargets, hentry, visit_flatMap]
  rfl

end Listing

/-- To range over items is to show them in order to a visitor, in whatever state it begins: one that
always goes on is called with all of them, and any other one with the calls of a visit. -/
structure Ranges (range : ∀ {σ : Type u}, (σ → α → σ × Bool) → σ → σ) (items : List α) : Prop where
  whole : ∀ {σ : Type u} (visitor : σ → α → σ × Bool) (s : σ),
    (∀ s a, (visitor s a).2 = true) → (range (noting visitor) (s, [])).2 = items
  calls : ∀ {σ : Type u} (visitor : σ → α → σ × Bool) (s : σ), ∃ calls,
    Visited visitor s items calls ∧ range visitor s = afterCalls visitor s calls ∧
    range (noting visitor) (s, []) = (afterCalls visitor s calls, calls)

theorem ranges_of_visit {range : ∀ {σ : Type u}, (σ → α → σ × Bool) → σ → σ}
    (h : ∀ {σ : Type u} (visitor : σ → α → σ × Bool) s,
      range visitor s = (visit visitor s items).1) : Ranges range items := by
  have hcalls : ∀ {σ : Type u} (visitor : σ → α → σ × Bool) (s : σ), ∃ calls,
      Visited visitor s items calls ∧ range visitor s = afterCalls visitor s calls ∧
      range (noting visitor) (s, []) = (afterCalls visitor s calls, calls) := by
    intro σ visitor s
    obtain ⟨calls, hcalls, hstate, hnoted⟩ := exists_visited visitor s items
    exact ⟨calls, hcalls, (h visitor s).trans hstate, (h _ _).trans (hnoted [])⟩
  refine ⟨fun visitor s hgoes => ?_, hcalls⟩
  obtain ⟨calls, hvisited, -, hnoted⟩ := hcalls visitor s
  rw [hnoted, hvisited.eq_items hgoes]

end EventRouter
