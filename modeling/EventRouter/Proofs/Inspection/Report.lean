import EventRouter.Inspection.Run
import EventRouter.Proofs.Dispatch.Filter
import EventRouter.Proofs.Filter
import EventRouter.Proofs.Key.Order
import EventRouter.Proofs.Snapshot.Visit
import EventRouter.Proofs.Store.Change
import Mathlib.Data.List.Forall2

/-! What an inspection reports. Each event that is sent to a target of a valid snapshot meets that
very target, so the counter behind the filter tells what became of it, and the order of the keys
hides the order in which the targets were met. -/

namespace EventRouter.Inspection

/-- What a report has to say of a target, to which an event is sent if there is one. -/
structure Report.Tells (event : Option Event) (t : Target) (r : Report) : Prop where
  target : r.target = t.key
  address : r.address = t.address
  filterSize : r.filterSize = t.filter.size
  silent : event = none → r.delivery = none
  passed : ∀ e, event = some e → (r.delivery = some .pass ↔ e.Satisfies t.filter)
  dropped : ∀ e, event = some e → (r.delivery = some .drop ↔ ¬ e.Satisfies t.filter)

/-- The report that a target gets when the entries of filters are met in an order. -/
def Report.expected (order : Dict String → List (String × String)) (event : Option Event)
    (t : Target) : Report where
  target := t.key
  address := t.address
  filterSize := t.filter.size
  delivery := event.map fun e =>
    if Filter.evaluate e (order t.filter) = .pass then .pass else .drop

variable {order : Dict String → List (String × String)} {event : Option Event} {s : Snapshot}
  {l : Listing} {t : Target} {targets : List Target}

theorem Report.expected_eq (h : (order t.filter).Perm t.filter.entries) :
    expected order event t = expected Dict.entries event t := by
  have hpass : ∀ e, Filter.evaluate e (order t.filter) = .pass ↔
      Filter.evaluate e t.filter.entries = .pass := fun e =>
    (Filter.evaluate_eq_pass_iff_satisfies h).trans
      (Filter.evaluate_eq_pass_iff_satisfies (.refl _)).symm
  simp only [expected, hpass]

theorem Report.tells_expected : (expected Dict.entries event t).Tells event t where
  target := rfl
  address := rfl
  filterSize := rfl
  silent hnone := by rw [expected, hnone, Option.map_none]
  passed e he := by
    rw [expected, he, ← Filter.evaluate_eq_pass_iff_satisfies (.refl _)]
    simp
  dropped e he := by
    rw [expected, he, ← Filter.evaluate_eq_pass_iff_satisfies (.refl _)]
    simp

/-! ### Targets in the order of their keys -/

theorem collectTargets_eq (l : Listing) : collectTargets l = l.allTargets := by
  rw [collectTargets, l.visitTargets_eq, visit_keeping, List.nil_append]

theorem sortTargets_perm (targets : List Target) : (sortTargets targets).Perm targets :=
  List.mergeSort_perm _ _

theorem pairwise_sortTargets (targets : List Target) :
    (sortTargets targets).Pairwise fun a b => (compare a.key b.key).isLE := by
  unfold sortTargets
  apply List.pairwise_mergeSort
  · intro a b c hab hbc
    exact Std.TransOrd.isLE_trans hab hbc
  · intro a b
    rw [Std.OrientedOrd.eq_swap (a := b.key)]
    cases compare a.key b.key <;> rfl

/-- Targets with different keys are in strictly ascending order once they are sorted. -/
theorem ascending_sortTargets (h : (targets.map Target.key).Nodup) :
    (sortTargets targets).Pairwise fun a b => compare a.key b.key = .lt := by
  have hne := List.pairwise_map.1 (((sortTargets_perm targets).map Target.key).nodup_iff.2 h)
  refine (pairwise_sortTargets targets).imp₂ (fun a b hle hkey => ?_) hne
  have hnot : compare a.key b.key ≠ .eq := fun heq => hkey (Std.LawfulEqOrd.eq_of_compare heq)
  exact (Ordering.isLE_iff_eq_lt_or_eq_eq.1 hle).resolve_right hnot

/-- The order in which targets with different keys are met is not seen after they are sorted. -/
theorem sortTargets_eq_of_perm (h : (targets.map Target.key).Nodup) {others : List Target}
    (hperm : targets.Perm others) : sortTargets targets = sortTargets others := by
  have hothers := (hperm.map Target.key).nodup_iff.1 h
  refine List.Perm.eq_of_pairwise (fun a b _ _ hab hba => ?_) (ascending_sortTargets h)
    (ascending_sortTargets hothers)
    ((sortTargets_perm targets).trans (hperm.trans (sortTargets_perm others).symm))
  exact absurd (Std.OrientedCmp.gt_of_lt hba) (by simp [hab])

/-! ### Sending the event -/

namespace Probe

variable {handler : Handler Probe} {probe : Probe} {e : Event}

variable (order e) in
theorem stage_of_found (hfound : probe.snapshot.target? t.key = some t) (hasNext : Bool) :
    ∃ ctx, (access order).stage hasNext (context t.key) e probe =
      (if Filter.evaluate e (order t.filter) = .pass then .forward ctx else .answer (.ok ()),
        probe) := by
  have hstate : ((access order).stage hasNext (context t.key) e probe).2 = probe :=
    FilterAccess.keeps_stage (p := fun after => after = probe) (fun _ _ _ h => h) _ _ _ _ rfl
  exact ⟨_, Prod.ext (FilterAccess.stage_of_found (fun _ _ => rfl) rfl hfound hasNext) hstate⟩

/-- The chain answers without an error, and the counter behind the filter goes up exactly if the
event passes. -/
theorem process_of_found (hchain : Stage.chain (stages order) = some handler)
    (hfound : probe.snapshot.target? t.key = some t) :
    handler (context t.key) e probe = (.ok (),
      if Filter.evaluate e (order t.filter) = .pass then
        { probe with delivered := probe.delivered + 1 }
      else probe) := by
  obtain rfl := Option.some.inj hchain
  obtain ⟨ctx, hstage⟩ := stage_of_found order e hfound (Stage.chain [count]).isSome
  rw [Stage.link, hstage]
  by_cases hpass : Filter.evaluate e (order t.filter) = .pass
  · rw [if_pos hpass, if_pos hpass]
    rfl
  · rw [if_neg hpass, if_neg hpass]

theorem deliver_of_found (hchain : Stage.chain (stages order) = some handler)
    (hfound : probe.snapshot.target? t.key = some t) :
    ∃ after, after.snapshot = probe.snapshot ∧ deliver handler probe t.key e =
      (.ok (if Filter.evaluate e (order t.filter) = .pass then .pass else .drop), after) := by
  rw [deliver, process_of_found hchain hfound]
  by_cases hpass : Filter.evaluate e (order t.filter) = .pass
  · rw [if_pos hpass, if_pos hpass]
    refine ⟨{ probe with delivered := probe.delivered + 1 }, rfl, ?_⟩
    dsimp only [Except.map]
    rw [if_pos (Nat.lt_succ_self _)]
  · rw [if_neg hpass, if_neg hpass]
    refine ⟨probe, rfl, ?_⟩
    dsimp only [Except.map]
    rw [if_neg (Nat.lt_irrefl _)]

theorem report_of_found (hchain : Stage.chain (stages order) = some handler)
    (hfound : ∀ t ∈ targets, probe.snapshot.target? t.key = some t) :
    report handler event probe targets = .ok (targets.map (Report.expected order event)) := by
  induction targets generalizing probe with
  | nil => rfl
  | cons t rest ih =>
    have ⟨ht, hrest⟩ := List.forall_mem_cons.1 hfound
    cases event with
    | none =>
      rw [report, ih hrest]
      rfl
    | some e =>
      obtain ⟨after, hafter, hdeliver⟩ := deliver_of_found (e := e) hchain ht
      rw [report, hdeliver]
      dsimp only
      rw [ih (hafter ▸ hrest)]
      rfl

end Probe

theorem reports_eq_ok (hs : s.Valid) (hl : l.Of s) :
    reports order s l event =
      .ok ((sortTargets l.allTargets).map (Report.expected order event)) := by
  unfold reports
  split
  · contradiction
  · next handler hchain =>
    rw [collectTargets_eq]
    refine Probe.report_of_found hchain fun t ht => ?_
    exact (hs.mem_allTargets_iff hl).1 ((sortTargets_perm _).mem_iff.1 ht)

theorem inspect_eq_ok (hs : s.Valid) (output : OutputFormat) :
    inspect output s (.ok event) =
      .ok (output.write ((sortTargets s.listing.allTargets).map
        (Report.expected Dict.entries event))) := by
  rw [inspect, Store.create_eq_ok_iff.2 ⟨hs, rfl⟩]
  change ((reports Dict.entries s s.listing event).mapError Failure.process >>= fun rs =>
    .ok (output.write rs)) = _
  rw [reports_eq_ok hs s.listing_of]
  rfl

/-- In a valid snapshot, a key finds a target exactly if a listing meets the target and it has the
key. -/
theorem target?_eq_some_iff (hs : s.Valid) (hl : l.Of s) {key : TargetKey} :
    s.target? key = some t ↔ t ∈ sortTargets l.allTargets ∧ t.key = key := by
  rw [(sortTargets_perm _).mem_iff, hs.mem_allTargets_iff hl]
  constructor
  · intro ht
    obtain rfl := hs.key_of_target? ht
    exact ⟨ht, rfl⟩
  · rintro ⟨ht, rfl⟩
    exact ht

/-- An inspection of a snapshot that validation accepts succeeds, with the same reports for all
orders in which the targets and the entries of their filters are met. They are in strictly ascending
order of keys, as many as the snapshot has targets, one for each target that a key finds, and each
one tells what becomes of the event at its target. -/
theorem reports_exact {v : Listing} (hv : v.Of s) (hvalid : v.validate = .ok ())
    (event : Option Event) : ∃ rs : List Report,
      (∀ order l, (∀ d : Dict String, (order d).Perm d.entries) → l.Of s →
        reports order s l event = .ok rs) ∧
      (∀ output, inspect output s (.ok event) = .ok (output.write rs)) ∧
      (rs.Pairwise fun a b => compare a.target b.target = .lt) ∧
      ∃ targets : List Target, targets.length = s.targetCount ∧
        (∀ key t, s.target? key = some t ↔ t ∈ targets ∧ t.key = key) ∧
        List.Forall₂ (Report.Tells event) targets rs := by
  have hs : s.Valid := hv.validate_eq_ok_iff.1 hvalid
  have hnodup := hs.nodup_targetKeys s.listing_of
  refine ⟨(sortTargets s.listing.allTargets).map (Report.expected Dict.entries event), ?_,
    inspect_eq_ok hs, ?_, sortTargets s.listing.allTargets, ?_,
    fun key t => target?_eq_some_iff hs s.listing_of, ?_⟩
  · intro order l horder hl
    have hreports : Report.expected order event = Report.expected Dict.entries event :=
      funext fun t => Report.expected_eq (horder t.filter)
    have hperm : s.listing.allTargets.Perm l.allTargets :=
      s.listing_of.allTargets_perm.trans hl.allTargets_perm.symm
    rw [reports_eq_ok hs hl, hreports, ← sortTargets_eq_of_perm hnodup hperm]
  · rw [List.pairwise_map]
    exact ascending_sortTargets hnodup
  · rw [(sortTargets_perm _).length_eq, s.listing_of.length_allTargets]
  · rw [List.forall₂_map_right_iff, List.forall₂_same]
    exact fun t _ => Report.tells_expected

/-- The event has the type that the filter of the only target asks for, so the only report says that
it passes. -/
theorem reports_exact_of_awkward :
    let e := { Event.blank .v10 with type := "x" }
    Snapshot.awkward.listing.Of .awkward ∧ Snapshot.awkward.listing.validate = .ok () ∧
      ∃ r : Report, r.target = ⟨⟨.broker, "a/b", ""⟩, "t/"⟩ ∧ r.delivery = some .pass ∧
        (∀ order l, (∀ d : Dict String, (order d).Perm d.entries) → l.Of .awkward →
          reports order .awkward l (some e) = .ok [r]) ∧
        ∀ output, inspect output .awkward (.ok (some e)) = .ok (output.write [r]) := by
  intro e
  have hlisting : Snapshot.awkward.listing.Of .awkward := Snapshot.listing_of _
  obtain ⟨rs, hreports, hinspect, -, targets, hcount, hfound, htells⟩ :=
    reports_exact hlisting rfl (some e)
  have hone : rs.length = 1 := htells.length_eq.symm.trans hcount
  obtain ⟨r, rfl⟩ := List.length_eq_one_iff.1 hone
  obtain ⟨t, rest, ht, hrest, rfl⟩ := List.forall₂_cons_right_iff.1 htells
  obtain rfl := List.forall₂_nil_right_iff.1 hrest
  obtain ⟨t', ht'⟩ : ∃ t, Snapshot.awkward.target? ⟨⟨.broker, "a/b", ""⟩, "t/"⟩ = some t := ⟨_, rfl⟩
  obtain ⟨hmem, hkey⟩ := (hfound _ _).1 ht'
  obtain rfl := List.mem_singleton.1 hmem
  refine ⟨hlisting, rfl, r, ht.target.trans hkey, (ht.passed e rfl).2 ?_, hreports, hinspect⟩
  obtain rfl := Option.some.inj ht'
  exact (Filter.evaluate_eq_pass_iff_satisfies (.refl _)).1 (by decide +kernel)

end EventRouter.Inspection
