import EventRouter.Dispatch.FilterStage

/-! What stages do to the state. What every stage keeps, a chain of them keeps; a filter stage
changes the state by log records alone. -/

namespace EventRouter

variable {σ : Type} {p : σ → Prop}

namespace Stage

variable {stage : Stage σ} {handler : Handler σ} {ctx ctx' : Context} {e : Event} {s s' : σ}

theorem link_of_answer {next : Option (Handler σ)} {a : Answer}
    (h : stage next.isSome ctx e s = (.answer a, s')) : stage.link next ctx e s = (a, s') := by
  simp only [link, h]

theorem link_of_forward (h : stage true ctx e s = (.forward ctx', s')) :
    stage.link (some handler) ctx e s = handler ctx' e s' := by
  simp only [link, Option.isSome_some, h]

/-- What is forwarded past the last stage is done. -/
theorem link_none_of_forward (h : stage false ctx e s = (.forward ctx', s')) :
    stage.link none ctx e s = (.ok (), s') := by
  simp only [link, Option.isSome_none, h]

end Stage

/-- A stage that keeps a property of the state, whatever it decides. -/
def Stage.Keeps (p : σ → Prop) (stage : Stage σ) : Prop :=
  ∀ hasNext ctx e s, p s → p (stage hasNext ctx e s).2

theorem Stage.keeps_link {stage : Stage σ} {next : Option (Handler σ)} (h : stage.Keeps p)
    (hnext : ∀ handler, next = some handler → ∀ ctx e s, p s → p (handler ctx e s).2)
    (ctx : Context) (e : Event) {s : σ} (hs : p s) : p (stage.link next ctx e s).2 := by
  have hstage := h next.isSome ctx e s hs
  unfold link
  split
  · next heq => rwa [heq] at hstage
  · next heq =>
    rw [heq] at hstage
    cases next with
    | none => exact hstage
    | some handler => exact hnext handler rfl _ e _ hstage

theorem Stage.keeps_chain {stages : List (Stage σ)} (h : ∀ stage ∈ stages, stage.Keeps p)
    {handler : Handler σ} (hchain : chain stages = some handler) (ctx : Context) (e : Event) {s : σ}
    (hs : p s) : p (handler ctx e s).2 := by
  induction stages generalizing handler ctx e s with
  | nil => contradiction
  | cons stage rest ih =>
    obtain rfl := Option.some.inj hchain
    refine keeps_link (h stage (by simp)) (fun handler hrest ctx e s hs => ?_) ctx e hs
    exact ih (fun st hst => h st (List.mem_cons_of_mem stage hst)) hrest ctx e hs

namespace FilterAccess

variable {access : FilterAccess σ}

section Keeps

-- All records of a filter stage come from the same component.
variable (h : ∀ record s, record.component = "filter_processor" → p s → p (access.log record s))
include h

theorem keeps_traced (key : TargetKey) (ctx : Context) (e : Event) {s : σ} (hs : p s) :
    p (access.traced key ctx e s).2 := by
  unfold traced
  split
  · exact hs
  · exact h _ s rfl hs
  · exact hs

theorem keeps_decideFor (key : TargetKey) (ctx : Context) (e : Event) {s : σ} (hs : p s) :
    p (access.decideFor key ctx e s).2 := by
  unfold decideFor
  split
  · exact h _ s rfl hs
  · split
    · exact h _ s rfl hs
    · exact h _ s rfl hs

theorem keeps_stage : access.stage.Keeps p := by
  intro hasNext ctx e s hs
  unfold stage
  split
  · exact hs
  · exact keeps_decideFor h _ _ e (keeps_traced h _ ctx e hs)

end Keeps

end FilterAccess

end EventRouter
