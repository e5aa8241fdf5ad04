import EventRouter.Proofs.Dispatch.Stage

/-! The course of an event through a chain. The stages are called one after the other, each one
once, until a stage does not forward the event or the last one has forwarded it. -/

namespace EventRouter

/-- A call of a stage: the context and the state that it is given, what it decides, and the state
that it leaves. -/
structure Call (σ : Type) where
  ctx : Context
  before : σ
  decision : Decision
  after : σ

namespace Stage

variable {σ : Type}

/-- The calls that an event leads to, up to the first stage that does not forward it. -/
def calls (e : Event) : List (Stage σ) → Context → σ → List (Call σ)
  | [], _, _ => []
  | stage :: rest, ctx, s =>
    let (decision, after) := stage (!rest.isEmpty) ctx e s
    ⟨ctx, s, decision, after⟩ ::
      match decision with
      | .answer _ => []
      | .forward ctx => calls e rest ctx after

/-- The stage with notes beside its state: it notes each call of it under a number. -/
def noted (number : Nat) (stage : Stage σ) : Stage (σ × List (Nat × Context × Event)) :=
  fun hasNext ctx e (s, notes) =>
    let (decision, after) := stage hasNext ctx e s
    (decision, after, notes ++ [(number, ctx, e)])

/-- The stage with a fixed handler behind it, whatever comes behind it in a chain. -/
def before (stage : Stage σ) (handler : Handler σ) : Stage σ := fun _ ctx e s =>
  let (a, after) := stage.link (some handler) ctx e s
  (.answer a, after)

/-- Calls that lead an event through stages, from a context and a state to an answer and a state. -/
structure Course (stages : List (Stage σ)) (ctx : Context) (e : Event) (s : σ)
    (calls : List (Call σ)) (result : Answer × σ) : Prop where
  /-- The calls are those of the first stages, in order, one call of each. -/
  called : ∀ (i : Nat) (c : Call σ), calls[i]? = some c → ∃ stage : Stage σ,
    stages[i]? = some stage ∧
      stage (i + 1 < stages.length) c.ctx e c.before = (c.decision, c.after)
  first : ∃ c, calls.head? = some c ∧ c.ctx = ctx ∧ c.before = s
  /-- A stage that is called after another one gets the context that this one has forwarded. -/
  next : ∀ (i : Nat) (c c' : Call σ), calls[i]? = some c → calls[i + 1]? = some c' →
    c.decision = .forward c'.ctx ∧ c'.before = c.after
  /-- The last stage that is called answers; if it is the last of all and forwards, all is well. -/
  last : ∃ c, calls.getLast? = some c ∧ c.after = result.2 ∧
    (c.decision = .answer result.1 ∨
      calls.length = stages.length ∧ (∃ ctx', c.decision = .forward ctx') ∧ result.1 = .ok ())

variable {stage : Stage σ} {rest : List (Stage σ)} {ctx ctx' : Context} {e : Event} {s s' : σ}

namespace Course

/-- The stage in front of others has something behind it unless there are none. -/
theorem called_first {d : Decision} (h : stage (!rest.isEmpty) ctx e s = (d, s')) (i : Nat)
    (c : Call σ) (hc : [(⟨ctx, s, d, s'⟩ : Call σ)][i]? = some c) : ∃ st : Stage σ,
      (stage :: rest)[i]? = some st ∧
        st (i + 1 < (stage :: rest).length) c.ctx e c.before = (c.decision, c.after) := by
  cases i with
  | succ i => contradiction
  | zero =>
    obtain rfl := Option.some.inj hc
    have hnext : decide (0 + 1 < (stage :: rest).length) = !rest.isEmpty := by
      cases rest <;> simp
    exact ⟨stage, rfl, hnext ▸ h⟩

theorem answered {a : Answer} (h : stage (!rest.isEmpty) ctx e s = (.answer a, s')) :
    Course (stage :: rest) ctx e s [⟨ctx, s, .answer a, s'⟩] (a, s') where
  called := called_first h
  first := ⟨_, rfl, rfl, rfl⟩
  next i c c' hc hc' := by simp at hc'
  last := ⟨_, rfl, rfl, .inl rfl⟩

theorem done (h : stage false ctx e s = (.forward ctx', s')) :
    Course [stage] ctx e s [⟨ctx, s, .forward ctx', s'⟩] (.ok (), s') where
  called := called_first h
  first := ⟨_, rfl, rfl, rfl⟩
  next i c c' hc hc' := by simp at hc'
  last := ⟨_, rfl, rfl, .inr ⟨rfl, ⟨_, rfl⟩, rfl⟩⟩

theorem forwarded {calls : List (Call σ)} {result : Answer × σ} (hne : rest ≠ [])
    (h : stage true ctx e s = (.forward ctx', s')) (hrest : Course rest ctx' e s' calls result) :
    Course (stage :: rest) ctx e s (⟨ctx, s, .forward ctx', s'⟩ :: calls) result where
  called i c hc := by
    cases i with
    | zero =>
      have hnext : (!rest.isEmpty) = true := by rw [List.isEmpty_eq_false_iff.2 hne]; rfl
      exact called_first (hnext ▸ h) 0 c hc
    | succ i =>
      obtain ⟨st, hst, hcall⟩ := hrest.called i c hc
      refine ⟨st, hst, ?_⟩
      simpa using hcall
  first := ⟨_, rfl, rfl, rfl⟩
  next i c c' hc hc' := by
    cases i with
    | zero =>
      obtain ⟨c₁, hfirst, hctx, hbefore⟩ := hrest.first
      obtain rfl := Option.some.inj hc
      obtain rfl : c₁ = c' := by
        rw [List.head?_eq_getElem?] at hfirst
        exact Option.some.inj (hfirst.symm.trans hc')
      exact ⟨congrArg _ hctx.symm, hbefore⟩
    | succ i => exact hrest.next i c c' hc hc'
  last := by
    obtain ⟨c, hc, hafter, hend⟩ := hrest.last
    refine ⟨c, ?_, hafter, hend.imp_right fun ⟨hlength, hforward, hok⟩ => ?_⟩
    · rw [List.getLast?_cons, hc, Option.getD_some]
    · exact ⟨congrArg (· + 1) hlength, hforward, hok⟩

end Course

/-! ### The calls of a chain -/

theorem isSome_chain (stages : List (Stage σ)) : (chain stages).isSome = !stages.isEmpty := by
  cases stages <;> rfl

theorem calls_of_answer {a : Answer} (h : stage (!rest.isEmpty) ctx e s = (.answer a, s')) :
    calls e (stage :: rest) ctx s = [⟨ctx, s, .answer a, s'⟩] := by
  rw [calls, h]

theorem calls_of_forward (h : stage (!rest.isEmpty) ctx e s = (.forward ctx', s')) :
    calls e (stage :: rest) ctx s = ⟨ctx, s, .forward ctx', s'⟩ :: calls e rest ctx' s' := by
  rw [calls, h]

/-- The chain of a stage and others, by what the stage decides: either it answers, or it forwards
past the last stage, or it forwards to the chain of the others. -/
theorem link_chain_cases (stage : Stage σ) (rest : List (Stage σ)) (ctx : Context) (e : Event)
    (s : σ) :
    (∃ a s', stage (!rest.isEmpty) ctx e s = (.answer a, s') ∧
      stage.link (chain rest) ctx e s = (a, s')) ∨
    (∃ ctx' s', stage false ctx e s = (.forward ctx', s') ∧ rest = [] ∧
      stage.link (chain rest) ctx e s = (.ok (), s')) ∨
    ∃ ctx' s' handler, stage true ctx e s = (.forward ctx', s') ∧ rest ≠ [] ∧
      chain rest = some handler ∧ stage.link (chain rest) ctx e s = handler ctx' e s' := by
  rcases hstage : stage (!rest.isEmpty) ctx e s with ⟨a | ctx', s'⟩
  · exact .inl ⟨a, s', rfl, link_of_answer (by rw [isSome_chain, hstage])⟩
  · cases rest with
    | nil => exact .inr (.inl ⟨ctx', s', hstage, rfl, link_none_of_forward hstage⟩)
    | cons next rest =>
      exact .inr (.inr ⟨ctx', s', _, hstage, List.cons_ne_nil _ _, rfl, link_of_forward hstage⟩)

theorem course_calls {stages : List (Stage σ)} {handler : Handler σ}
    (h : chain stages = some handler) (ctx : Context) (e : Event) (s : σ) :
    Course stages ctx e s (calls e stages ctx s) (handler ctx e s) := by
  induction stages generalizing handler ctx s with
  | nil => contradiction
  | cons stage rest ih =>
    obtain rfl := Option.some.inj h
    rcases link_chain_cases stage rest ctx e s with ⟨a, s', hstage, hlink⟩ |
      ⟨ctx', s', hstage, rfl, hlink⟩ | ⟨ctx', s', handler, hstage, hne, hchain, hlink⟩
    · rw [hlink, calls_of_answer hstage]
      exact .answered hstage
    · rw [hlink, calls_of_forward hstage]
      exact .done hstage
    · rw [hlink, calls_of_forward (by rwa [List.isEmpty_eq_false_iff.2 hne])]
      exact .forwarded hne hstage (ih hchain ctx' s')

/-- Stages that note their calls, numbered from some number on. -/
def noteAll (stages : List (Stage σ)) (n : Nat) : List (Stage (σ × List (Nat × Context × Event))) :=
  (stages.zipIdx n).map fun x => x.1.noted x.2

theorem noteAll_cons (stage : Stage σ) (rest : List (Stage σ)) (n : Nat) :
    noteAll (stage :: rest) n = stage.noted n :: noteAll rest (n + 1) := by
  rw [noteAll, List.zipIdx_cons, List.map_cons, noteAll]

theorem isEmpty_noteAll (stages : List (Stage σ)) (n : Nat) :
    (noteAll stages n).isEmpty = stages.isEmpty := by
  cases stages with
  | nil => rfl
  | cons stage rest => rw [noteAll_cons]; rfl

theorem noted_of_call {hasNext : Bool} {d : Decision} (h : stage hasNext ctx e s = (d, s')) (n : Nat)
    (notes : List (Nat × Context × Event)) :
    stage.noted n hasNext ctx e (s, notes) = (d, s', notes ++ [(n, ctx, e)]) := by
  rw [noted, h]

theorem exists_noting {stages : List (Stage σ)} {handler : Handler σ}
    (h : chain stages = some handler) (n : Nat) :
    ∃ noting, chain (noteAll stages n) = some noting := by
  have hsome := isSome_chain stages
  rw [h, ← isEmpty_noteAll stages n, ← isSome_chain] at hsome
  exact Option.isSome_iff_exists.1 hsome.symm

/-- Stages that note their calls note the calls of the course and no others. -/
theorem noting_eq {stages : List (Stage σ)} {handler : Handler σ}
    {noting : Handler (σ × List (Nat × Context × Event))} {n : Nat}
    (h : chain stages = some handler) (hnoting : chain (noteAll stages n) = some noting)
    (ctx : Context) (e : Event) (s : σ) (notes : List (Nat × Context × Event)) :
    noting ctx e (s, notes) = ((handler ctx e s).1, (handler ctx e s).2,
      notes ++ ((calls e stages ctx s).zipIdx n).map fun x => (x.2, x.1.ctx, e)) := by
  induction stages generalizing handler noting n ctx s notes with
  | nil => contradiction
  | cons stage rest ih =>
    obtain rfl := Option.some.inj h
    rw [noteAll_cons] at hnoting
    obtain rfl := Option.some.inj hnoting
    rcases link_chain_cases stage rest ctx e s with ⟨a, s', hstage, hlink⟩ |
      ⟨ctx', s', hstage, rfl, hlink⟩ | ⟨ctx', s', handler, hstage, hne, hchain, hlink⟩
    · have hnoted := noted_of_call hstage n notes
      rw [← isEmpty_noteAll rest (n + 1), ← isSome_chain] at hnoted
      rw [hlink, calls_of_answer hstage]
      exact link_of_answer hnoted
    · rw [hlink, calls_of_forward hstage]
      exact link_none_of_forward (noted_of_call hstage n notes)
    · obtain ⟨noting, hnoting⟩ := exists_noting hchain (n + 1)
      rw [hlink, calls_of_forward (by rwa [List.isEmpty_eq_false_iff.2 hne]), hnoting,
        link_of_forward (noted_of_call hstage n notes), ih hchain hnoting]
      simp [List.zipIdx_cons]

/-! ### How a chain is linked -/

/-- A chain is linked from its end: every stage is put in front of what is linked already. -/
theorem chain_eq_foldl (stages : List (Stage σ)) :
    chain stages = stages.reverse.foldl (fun head stage => some (stage.link head)) none := by
  rw [List.foldl_reverse]
  induction stages with
  | nil => rfl
  | cons stage rest ih => rw [chain, ih, List.foldr_cons]

theorem link_before (stage : Stage σ) (handler : Handler σ) :
    (stage.before handler).link none = stage.link (some handler) := by
  funext ctx e s
  exact link_of_answer rfl

/-- The chain of two lists of stages, as that of the first list whose last stage has the chain of
the second one behind it. -/
theorem chain_append_cons {back : List (Stage σ)} {handler : Handler σ}
    (h : chain back = some handler) (front : List (Stage σ)) (last : Stage σ) :
    chain (front ++ last :: back) = chain (front ++ [last.before handler]) := by
  induction front with
  | nil => simp only [List.nil_append, chain, h, link_before]
  | cons stage rest ih => simp only [List.cons_append, chain, ih]

/-- A chain runs a prefix of its stages. It is linked from the end, and there is none without a
stage. An event is led through by a course: in order and each one once, stages are called with it
and with the context that the stage before has forwarded, until one answers, or the last one has
forwarded and all is well. What the stages note tells of these calls and no others. Two lists
chained one after the other are the first one with the chain of the second behind its last
stage. -/
theorem chain_runs_in_order (stages : List (Stage σ)) :
    (chain stages = none ↔ stages = []) ∧
    chain stages = stages.reverse.foldl (fun head stage => some (stage.link head)) none ∧
    (∀ handler, chain stages = some handler → ∃ noting, chain (noteAll stages 0) = some noting ∧
      ∀ ctx e s, ∃ calls, Course stages ctx e s calls (handler ctx e s) ∧
        noting ctx e (s, []) = ((handler ctx e s).1, (handler ctx e s).2,
          calls.zipIdx.map fun x => (x.2, x.1.ctx, e))) ∧
    ∀ (front back : List (Stage σ)) (last : Stage σ) (handler : Handler σ),
      chain back = some handler →
        chain (front ++ last :: back) = chain (front ++ [last.before handler]) := by
  refine ⟨?_, chain_eq_foldl stages, fun handler h => ?_, fun front back last handler h => ?_⟩
  · rw [← Option.not_isSome_iff_eq_none, isSome_chain]
    simp
  · obtain ⟨noting, hnoting⟩ := exists_noting h 0
    refine ⟨noting, hnoting, fun ctx e s => ⟨calls e stages ctx s, course_calls h ctx e s, ?_⟩⟩
    exact noting_eq h hnoting ctx e s []
  · exact chain_append_cons h front last

/-- A stage derives a context, the next one counts, and the third one fails; the last one is not
called. -/
theorem chain_runs_in_order_of_failure :
    let key : TargetKey := ⟨⟨.broker, "a", "b"⟩, "t"⟩
    let stages : List (Stage Nat) := [.derive fun ctx => { ctx with target := some key },
      .act fun _ _ _ n => n + 1, .halt (.error (.stage "x")), .pass]
    ∃ handler, chain stages = some handler ∧
      handler .empty (.blank .v10) 0 = (.error (.stage "x"), 1) ∧
      ∃ calls, Course stages .empty (.blank .v10) 0 calls (.error (.stage "x"), 1) := by
  intro key stages
  obtain ⟨noting, -, hcourse⟩ := (chain_runs_in_order stages).2.2.1 _ rfl
  obtain ⟨calls, hcalls, -⟩ := hcourse .empty (.blank .v10) 0
  exact ⟨_, rfl, rfl, calls, hcalls⟩

end Stage

end EventRouter
