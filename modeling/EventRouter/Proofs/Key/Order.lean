import EventRouter.Key.Basic

/-! The order of keys. Keys are compared part by part, so their order is a linear one, and keys that
it does not tell apart are equal. -/

namespace EventRouter

namespace TenantKind

instance : Std.TransOrd TenantKind :=
  inferInstanceAs (Std.TransCmp (compareOn TenantKind.ctorIdx))

instance : Std.LawfulEqOrd TenantKind where
  eq_of_compare {a b} h := by cases a <;> cases b <;> first | rfl | contradiction

end TenantKind

namespace TenantKey

theorem compare_eq : (compare : TenantKey → TenantKey → Ordering) =
    compareLex (compareOn kind) (compareLex (compareOn ns) (compareOn name)) := by
  funext ⟨kind, ns, name⟩ ⟨kind', ns', name'⟩
  change (compare kind kind').then ((compare ns ns').then ((compare name name').then .eq)) =
    (compare kind kind').then ((compare ns ns').then (compare name name'))
  rw [Ordering.then_eq]

instance : Std.TransOrd TenantKey := by
  rw [Std.TransOrd, compare_eq]
  infer_instance

instance : Std.LawfulEqOrd TenantKey where
  eq_of_compare {a b} h := by
    rw [compare_eq] at h
    simp only [compareLex_eq_eq, compareOn, Std.LawfulEqOrd.compare_eq_iff_eq] at h
    obtain ⟨hkind, hns, hname⟩ := h
    cases a; cases b; simp_all

end TenantKey

namespace TargetKey

theorem compare_eq : (compare : TargetKey → TargetKey → Ordering) =
    compareLex (compareOn parent) (compareOn name) := by
  funext ⟨parent, name⟩ ⟨parent', name'⟩
  change (compare parent parent').then ((compare name name').then .eq) =
    (compare parent parent').then (compare name name')
  rw [Ordering.then_eq]

instance : Std.TransOrd TargetKey := by
  rw [Std.TransOrd, compare_eq]
  infer_instance

instance : Std.LawfulEqOrd TargetKey where
  eq_of_compare {a b} h := by
    rw [compare_eq] at h
    simp only [compareLex_eq_eq, compareOn, Std.LawfulEqOrd.compare_eq_iff_eq] at h
    obtain ⟨hparent, hname⟩ := h
    cases a; cases b; simp_all

end TargetKey

end EventRouter
