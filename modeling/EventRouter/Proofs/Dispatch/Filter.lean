import EventRouter.Proofs.Dispatch.Stage

/-! What a filter stage decides. For a target that is found, only the verdict of its filter
counts. -/

namespace EventRouter

theorem Snapshot.find_eq_ok_iff {s : Snapshot} {key : TargetKey} {t : Target} :
    s.find key = .ok t ↔ s.target? key = some t := by
  unfold find target?
  split
  · next hnone => simp [hnone]
  · next c hc =>
    rw [hc, Option.bind_some]
    split <;> simp [*]

namespace FilterAccess

variable {σ : Type} {access : FilterAccess σ} {key : TargetKey} {ctx : Context} {e : Event} {s : σ}
  {t : Target}

theorem decideFor_of_found (hfound : (access.snapshot s).target? key = some t) :
    (access.decideFor key ctx e s).1 =
      if Filter.evaluate e (access.order t.filter) = .pass then .forward ctx
      else .answer (.ok ()) := by
  unfold decideFor
  rw [Snapshot.find_eq_ok_iff.2 hfound]
  dsimp only
  split
  · next hpass => rw [if_pos hpass]
  · next hfail => rw [if_neg hfail]

/-- An event for a target that is found is forwarded, in a context with the trace of the event, if
it passes the filter of the target, and dropped without an error if it does not. -/
theorem stage_of_found
    (hlog : ∀ record s, access.snapshot (access.log record s) = access.snapshot s)
    (hkey : ctx.target = some key) (hfound : (access.snapshot s).target? key = some t)
    (hasNext : Bool) :
    (access.stage hasNext ctx e s).1 =
      if Filter.evaluate e (access.order t.filter) = .pass then
        .forward (access.traced key ctx e s).1
      else .answer (.ok ()) := by
  have hctx : ctx.targetKey = .ok key := by rw [Context.targetKey, hkey]
  have hsnapshot : access.snapshot (access.traced key ctx e s).2 = access.snapshot s :=
    keeps_traced (p := fun s' => access.snapshot s' = access.snapshot s)
      (fun record s' _ hs => (hlog record s').trans hs) key ctx e rfl
  unfold stage
  rw [hctx]
  exact decideFor_of_found (hsnapshot ▸ hfound)

end FilterAccess

end EventRouter
