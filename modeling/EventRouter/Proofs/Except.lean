/-! How a sequence of steps that may fail ends. -/

namespace EventRouter.Except

variable {ε α β : Type}

/-- A sequence succeeds when its first step does and the others do behind it. -/
theorem bind_eq_ok_iff {x : Except ε α} {f : α → Except ε β} {b : β} :
    (x >>= f) = .ok b ↔ ∃ a, x = .ok a ∧ f a = .ok b := by
  cases x <;> simp [bind, Except.bind]

/-- A sequence fails with its first step, or with the others behind it. -/
theorem bind_eq_error_iff {x : Except ε α} {f : α → Except ε β} {e : ε} :
    (x >>= f) = .error e ↔ x = .error e ∨ ∃ a, x = .ok a ∧ f a = .error e := by
  cases x <;> simp [bind, Except.bind]

theorem map_eq_ok_iff {x : Except ε α} {f : α → β} {b : β} :
    f <$> x = .ok b ↔ ∃ a, x = .ok a ∧ f a = b := by
  cases x <;> simp [Functor.map, Except.map]

/-- Where one step undoes a function, all steps of a list together undo it on lists. -/
theorem mapM_eq_ok_iff {f : α → Except ε β} {g : β → α} (hf : ∀ a b, f a = .ok b ↔ a = g b)
    {l : List α} {r : List β} : l.mapM f = .ok r ↔ l = r.map g := by
  induction l generalizing r with
  | nil => cases r <;> simp [pure, Except.pure]
  | cons a l ih =>
    simp only [List.mapM_cons, bind_eq_ok_iff, hf, ih]
    constructor
    · rintro ⟨b, rfl, tail, rfl, htail⟩
      rw [← Except.ok.inj htail, List.map_cons]
    · intro hmap
      obtain ⟨b, tail, rfl, rfl, rfl⟩ := List.map_eq_cons_iff.1 hmap.symm
      exact ⟨b, rfl, tail, rfl, rfl⟩

end EventRouter.Except
