import EventRouter.Proofs.Key.Codec
import Mathlib.Data.List.Basic

/-! The texts that are read as no key. Every part of a text has its own way to be wrong, and of all
that is wrong with a text one reason is given: the number of its parts comes first, then an empty
part, then the word for the kind, and an unknown escape sequence comes last. -/

namespace EventRouter

namespace Key

/-- Some escape character of a part begins neither of the two escape sequences. -/
def Unescapable (part : List Char) : Prop :=
  ∃ before after, part = before ++ '%' :: after ∧
    ¬ ['2', 'F'] <+: after ∧ ¬ ['2', '5'] <+: after

theorem not_unescapable_nil : ¬ Unescapable [] := by
  simp [Unescapable]

theorem unescapable_cons_iff {c : Char} {rest : List Char} :
    Unescapable (c :: rest) ↔
      (c = '%' ∧ ¬ ['2', 'F'] <+: rest ∧ ¬ ['2', '5'] <+: rest) ∨ Unescapable rest := by
  constructor
  · rintro ⟨before, after, hsplit, hafter⟩
    cases before with
    | nil =>
      obtain ⟨rfl, rfl⟩ := List.cons.inj hsplit
      exact .inl ⟨rfl, hafter⟩
    | cons _ before => exact .inr ⟨before, after, (List.cons.inj hsplit).2, hafter⟩
  · rintro (⟨rfl, hafter⟩ | ⟨before, after, rfl, hafter⟩)
    · exact ⟨[], rest, rfl, hafter⟩
    · exact ⟨c :: before, after, rfl, hafter⟩

/-- Reading jumps over the escape sequences that it knows. It misses no escape character by that,
since none stands inside a sequence. -/
theorem unescape?_eq_none_iff {part : List Char} : unescape? part = none ↔ Unescapable part := by
  fun_induction unescape? part with
  | case1 => simp [not_unescapable_nil]
  | case2 rest ih => simp [unescapable_cons_iff, ih]
  | case3 rest ih => simp [unescapable_cons_iff, ih]
  | case4 rest hslash hpercent =>
    have hunknown : ¬ ['2', 'F'] <+: rest ∧ ¬ ['2', '5'] <+: rest := by
      constructor
      · rintro ⟨after, rfl⟩
        exact hslash after rfl rfl
      · rintro ⟨after, rfl⟩
        exact hpercent after rfl rfl
    exact iff_of_true rfl (unescapable_cons_iff.2 (.inl ⟨rfl, hunknown⟩))
  | case5 c rest _ _ hc ih => simp [unescapable_cons_iff, hc, ih]

end Key

namespace TenantKey

/-- A text is three parts with separators between them and none in them. -/
structure Divided (input : String) (kind ns name : List Char) : Prop where
  text : input.toList = kind ++ '/' :: (ns ++ '/' :: name)
  kind : '/' ∉ kind
  ns : '/' ∉ ns
  name : '/' ∉ name

variable {input : String} {kind ns name : List Char} {e : KeyError}

theorem Divided.split_eq (h : Divided input kind ns name) :
    Text.split Key.separator input.toList = [kind, ns, name] := by
  rw [h.text, Key.separator, Text.split_append_cons h.kind, Text.split_append_cons h.ns,
    Text.split_of_not_mem h.name]

theorem divided_of_split (h : Text.split Key.separator input.toList = [kind, ns, name]) :
    Divided input kind ns name := by
  have hparts : ∀ part ∈ [kind, ns, name], '/' ∉ part := fun part hpart =>
    Text.not_mem_of_mem_split (h ▸ hpart)
  refine ⟨?_, hparts kind (by simp), hparts ns (by simp), hparts name (by simp)⟩
  rw [← Text.join_split Key.separator input.toList, h, Text.join_cons (by simp),
    Text.join_cons (by simp)]
  simp [Text.join, Key.separator]

/-- Three parts are what two separators make. -/
theorem exists_divided_iff :
    (∃ kind ns name, Divided input kind ns name) ↔ input.toList.count '/' = 2 := by
  have hlength := Text.length_split Key.separator input.toList
  constructor
  · rintro ⟨kind, ns, name, h⟩
    rw [h.split_eq] at hlength
    exact (Nat.succ.inj hlength).symm
  · intro hcount
    rw [Key.separator, hcount] at hlength
    obtain ⟨kind, ns, name, hsplit⟩ := List.length_eq_three.1 hlength
    exact ⟨kind, ns, name, divided_of_split hsplit⟩

/-! ### One part -/

theorem kindOf_of_unknown (h : kind ≠ "broker".toList ∧ kind ≠ "channel".toList) :
    kindOf kind = .error (.unknownKind (String.ofList kind)) := by
  cases hkind : kindOf kind with
  | ok k =>
    have hword := kindOf_eq_ok_iff.1 hkind
    cases k with
    | broker => exact absurd hword h.1
    | channel => exact absurd hword h.2
  | error e =>
    unfold kindOf at hkind
    split at hkind
    · contradiction
    · exact hkind.symm

theorem exists_kindOf (h : ¬ (kind ≠ "broker".toList ∧ kind ≠ "channel".toList)) :
    ∃ k, kindOf kind = .ok k := by
  by_cases hbroker : kind = "broker".toList
  · exact ⟨.broker, kindOf_eq_ok_iff.2 hbroker⟩
  · exact ⟨.channel, kindOf_eq_ok_iff.2 (not_not.1 fun hchannel => h ⟨hbroker, hchannel⟩)⟩

theorem componentOf_eq_error_iff {part : List Char} :
    componentOf input part = .error e ↔ Key.Unescapable part ∧ e = .invalidEscape input := by
  rw [← Key.unescape?_eq_none_iff, componentOf]
  cases Key.unescape? part with
  | none => simp [eq_comm]
  | some cs => simp

theorem exists_componentOf {part : List Char} (h : ¬ Key.Unescapable part) :
    ∃ s, componentOf input part = .ok s := by
  cases hpart : componentOf input part with
  | ok s => exact ⟨s, rfl⟩
  | error e => exact absurd (componentOf_eq_error_iff.1 hpart).1 h

/-! ### The whole text -/

theorem parse_of_count (h : input.toList.count '/' ≠ 2) :
    parse input = .error (.wrongComponentCount input) := by
  unfold parse
  split
  · next kind ns name hsplit =>
    exact absurd (exists_divided_iff.1 ⟨kind, ns, name, divided_of_split hsplit⟩) h
  · rfl

theorem parse_of_divided (h : Divided input kind ns name) : parse input =
    if kind = [] ∨ ns = [] ∨ name = [] then .error (.emptyComponent input)
    else do
      let kind ← kindOf kind
      let ns ← componentOf input ns
      let name ← componentOf input name
      return ⟨kind, ns, name⟩ := by
  simp only [parse, h.split_eq, Bool.or_eq_true, List.isEmpty_iff, or_assoc]

/-- With a word for a kind in front, only the other two parts can be wrong. The reason is the same,
whichever of them is. -/
theorem components_eq_error_iff {k : TenantKind} (hkind : kindOf kind = .ok k) :
    (do
      let kind ← kindOf kind
      let ns ← componentOf input ns
      let name ← componentOf input name
      return (⟨kind, ns, name⟩ : TenantKey)) = .error e ↔
      (Key.Unescapable ns ∨ Key.Unescapable name) ∧ e = .invalidEscape input := by
  rw [hkind]
  change (componentOf input ns >>= fun ns => componentOf input name >>= fun name =>
    pure (⟨k, ns, name⟩ : TenantKey)) = .error e ↔ _
  simp only [Except.bind_eq_error_iff, componentOf_eq_error_iff]
  constructor
  · rintro (⟨hns, he⟩ | ⟨_, -, ⟨hname, he⟩ | ⟨_, -, hpure⟩⟩)
    · exact ⟨.inl hns, he⟩
    · exact ⟨.inr hname, he⟩
    · contradiction
  · rintro ⟨hparts, he⟩
    by_cases hns : Key.Unescapable ns
    · exact .inl ⟨hns, he⟩
    · obtain ⟨s, hs⟩ := exists_componentOf hns
      exact .inr ⟨s, hs, .inl ⟨hparts.resolve_left hns, he⟩⟩

/-- Each text that is read as no key is refused for one reason, and only such a text is. A text that
has not exactly two separators is refused as it stands. In a text with two, an empty part is the
reason, if there is one; if not, the first part is, unless it is the word for a kind; and if it is
one, an escape character of the other two that begins no escape sequence. -/
theorem refusals_exact (input : String) :
    (input.toList.count '/' ≠ 2 →
      ∀ e, parse input = .error e ↔ e = .wrongComponentCount input) ∧
    (input.toList.count '/' = 2 → ∃ kind ns name, Divided input kind ns name) ∧
    ∀ kind ns name, Divided input kind ns name → ∀ e, parse input = .error e ↔
      if kind = [] ∨ ns = [] ∨ name = [] then e = .emptyComponent input
      else if kind ≠ "broker".toList ∧ kind ≠ "channel".toList then
        e = .unknownKind (String.ofList kind)
      else (Key.Unescapable ns ∨ Key.Unescapable name) ∧ e = .invalidEscape input := by
  refine ⟨fun hcount e => ?_, exists_divided_iff.2, fun kind ns name hparts e => ?_⟩
  · rw [parse_of_count hcount, Except.error.injEq, eq_comm]
  · rw [parse_of_divided hparts]
    split
    · rw [Except.error.injEq, eq_comm]
    · split
      · next hkind =>
        rw [kindOf_of_unknown hkind]
        exact ⟨fun h => (Except.error.inj h).symm, fun h => congrArg _ h.symm⟩
      · next hkind =>
        obtain ⟨k, hk⟩ := exists_kindOf hkind
        exact components_eq_error_iff hk

/-- One separator; an empty part between two others that are wrong as well; an unknown kind in front
of a wrong part; and an escape sequence that is cut off behind one that is not. -/
theorem refusals_exact_of_overlaps :
    "trigger/%41".toList.count '/' ≠ 2 ∧
    parse "trigger/%41" = .error (.wrongComponentCount "trigger/%41") ∧
    Divided "trigger//%41" "trigger".toList [] "%41".toList ∧
    parse "trigger//%41" = .error (.emptyComponent "trigger//%41") ∧
    Divided "Broker/a/%41" "Broker".toList ['a'] "%41".toList ∧
    parse "Broker/a/%41" = .error (.unknownKind "Broker") ∧
    Divided "channel/%2f/%25%2" "channel".toList "%2f".toList "%25%2".toList ∧
    parse "channel/%2f/%25%2" = .error (.invalidEscape "channel/%2f/%25%2") := by
  have hcount : "trigger/%41".toList.count '/' ≠ 2 := by decide
  have hempty : Divided "trigger//%41" "trigger".toList [] "%41".toList :=
    ⟨by decide, by decide, by decide, by decide⟩
  have hkind : Divided "Broker/a/%41" "Broker".toList ['a'] "%41".toList :=
    ⟨by decide, by decide, by decide, by decide⟩
  have hescape : Divided "channel/%2f/%25%2" "channel".toList "%2f".toList "%25%2".toList :=
    ⟨by decide, by decide, by decide, by decide⟩
  have hcut : Key.Unescapable "%25%2".toList :=
    ⟨"%25".toList, ['2'], by decide, by decide, by decide⟩
  refine ⟨hcount, ?_, hempty, ?_, hkind, ?_, hescape, ?_⟩
  · exact ((refusals_exact _).1 hcount _).2 rfl
  · exact ((refusals_exact _).2.2 _ _ _ hempty _).2 rfl
  · exact ((refusals_exact _).2.2 _ _ _ hkind _).2 rfl
  · exact ((refusals_exact _).2.2 _ _ _ hescape _).2 ⟨.inr hcut, rfl⟩

end TenantKey

end EventRouter
