import EventRouter.Key.Basic
import EventRouter.Proofs.Except

/-! The written forms of keys. The text of a key tells the key, whatever its components are. A text
is read as a key exactly when it is the text of that key and neither the namespace nor the name is
empty, so every text that is read has one spelling. -/

namespace EventRouter

namespace Key

theorem unescape?_eq_some_iff {written cs : List Char} (hsep : separator ∉ written) :
    unescape? written = some cs ↔ written = escape cs :=
  ⟨eq_escape_of_unescape? hsep, fun h => h ▸ unescape?_escape cs⟩

theorem escape_inj {cs ds : List Char} (h : escape cs = escape ds) : cs = ds := by
  have := congrArg unescape? h
  rwa [unescape?_escape, unescape?_escape, Option.some.injEq] at this

/-- Only the empty component has an empty written form. -/
@[simp] theorem escape_eq_nil_iff {cs : List Char} : escape cs = [] ↔ cs = [] :=
  ⟨fun h => escape_inj h, by rintro rfl; rfl⟩

end Key

theorem TenantKind.ofWord?_eq_some_iff {word : String} {kind : TenantKind} :
    ofWord? word = some kind ↔ word = kind.word := by
  constructor
  · intro h
    unfold ofWord? at h
    split at h
    · rw [← Option.some.inj h]; rfl
    · rw [← Option.some.inj h]; rfl
    · contradiction
  · rintro rfl
    cases kind <;> rfl

theorem TenantKind.word_inj {a b : TenantKind} (h : a.word = b.word) : a = b :=
  Option.some.inj ((ofWord?_eq_some_iff.2 rfl).symm.trans (ofWord?_eq_some_iff.2 h))

/-- The word for a kind needs no escapes. -/
theorem TenantKind.separator_not_mem_word (kind : TenantKind) :
    Key.separator ∉ kind.word.toList := by
  cases kind <;> decide

namespace TenantKey

/-! ### The components of a written key -/

theorem separator_not_mem_components (key : TenantKey) :
    ∀ part ∈ key.components, Key.separator ∉ part := by
  intro part hpart
  simp only [components, List.mem_cons, List.not_mem_nil, or_false] at hpart
  rcases hpart with rfl | rfl | rfl
  · exact key.kind.separator_not_mem_word
  · exact Key.not_mem_escape _
  · exact Key.not_mem_escape _

theorem components_inj {a b : TenantKey} (h : a.components = b.components) : a = b := by
  simp only [components, List.cons.injEq, and_true] at h
  obtain ⟨hkind, hns, hname⟩ := h
  have hkind' := TenantKind.word_inj (String.toList_inj.1 hkind)
  have hns' := String.toList_inj.1 (Key.escape_inj hns)
  have hname' := String.toList_inj.1 (Key.escape_inj hname)
  cases a; cases b; simp_all

/-- The text of a key splits into its components. -/
theorem split_text (key : TenantKey) :
    Text.split Key.separator key.text.toList = key.components := by
  rw [text, String.toList_ofList]
  exact Text.split_join (by simp [components]) key.separator_not_mem_components

theorem text_inj {a b : TenantKey} (h : a.text = b.text) : a = b :=
  components_inj (by rw [← a.split_text, ← b.split_text, h])

theorem text_eq_iff {key : TenantKey} {input : String} :
    key.text = input ↔ Text.split Key.separator input.toList = key.components := by
  constructor
  · rintro rfl
    exact key.split_text
  · intro h
    rw [text, ← h, Text.join_split, String.ofList_toList]

/-! ### Reading a key -/

theorem kindOf_eq_ok_iff {word : List Char} {kind : TenantKind} :
    kindOf word = .ok kind ↔ word = kind.word.toList := by
  have hword : String.ofList word = kind.word ↔ word = kind.word.toList := by
    rw [← String.toList_inj, String.toList_ofList]
  rw [← hword, ← TenantKind.ofWord?_eq_some_iff, kindOf]
  cases TenantKind.ofWord? (String.ofList word) <;> simp

theorem componentOf_eq_ok_iff {input s : String} {part : List Char} (hsep : Key.separator ∉ part) :
    componentOf input part = .ok s ↔ part = Key.escape s.toList := by
  rw [← Key.unescape?_eq_some_iff hsep, componentOf]
  cases Key.unescape? part with
  | none => simp
  | some cs => simp [← String.toList_inj]

/-- Three parts are read as a key exactly when they are its components and the last two are not
empty; the first one is a word then. -/
theorem parse_eq_ok_iff_of_split {input : String} {kind ns name : List Char}
    (hsplit : Text.split Key.separator input.toList = [kind, ns, name]) {key : TenantKey} :
    parse input = .ok key ↔ (ns ≠ [] ∧ name ≠ []) ∧ [kind, ns, name] = key.components := by
  have hsep : ∀ part ∈ [kind, ns, name], Key.separator ∉ part := fun part hpart =>
    Text.not_mem_of_mem_split (hsplit ▸ hpart)
  have hns := hsep ns (by simp)
  have hname := hsep name (by simp)
  simp only [parse, hsplit, components, List.cons.injEq, and_true]
  constructor
  · intro h
    split at h
    · contradiction
    · next hne =>
      simp only [Bool.or_eq_true, List.isEmpty_iff, not_or] at hne
      obtain ⟨k, hk, h⟩ := Except.bind_eq_ok_iff.1 h
      obtain ⟨n, hn, h⟩ := Except.bind_eq_ok_iff.1 h
      obtain ⟨m, hm, h⟩ := Except.bind_eq_ok_iff.1 h
      obtain rfl : ⟨k, n, m⟩ = key := Except.ok.inj h
      exact ⟨⟨hne.1.2, hne.2⟩, kindOf_eq_ok_iff.1 hk, (componentOf_eq_ok_iff hns).1 hn,
        (componentOf_eq_ok_iff hname).1 hm⟩
  · rintro ⟨⟨hnsNe, hnameNe⟩, hk, hn, hm⟩
    have hkindNe : kind ≠ [] := by
      rw [hk]
      cases key.kind <;> decide
    rw [if_neg (by simp [hkindNe, hnsNe, hnameNe]), kindOf_eq_ok_iff.2 hk,
      (componentOf_eq_ok_iff hns).2 hn, (componentOf_eq_ok_iff hname).2 hm]
    rfl

/-- A text that is read as a key has three parts. -/
theorem split_of_parse {input : String} {key : TenantKey} (h : parse input = .ok key) :
    ∃ kind ns name, Text.split Key.separator input.toList = [kind, ns, name] := by
  unfold parse at h
  split at h
  · next kind ns name hsplit => exact ⟨kind, ns, name, hsplit⟩
  · contradiction

theorem parse_eq_ok_iff {input : String} {key : TenantKey} :
    parse input = .ok key ↔ key.ns ≠ "" ∧ key.name ≠ "" ∧ key.text = input := by
  have hns : Key.escape key.ns.toList = [] ↔ key.ns = "" := by simp
  have hname : Key.escape key.name.toList = [] ↔ key.name = "" := by simp
  constructor
  · intro h
    obtain ⟨kind, ns, name, hsplit⟩ := split_of_parse h
    obtain ⟨⟨hnsNe, hnameNe⟩, hparts⟩ := (parse_eq_ok_iff_of_split hsplit).1 h
    have htext : key.text = input := text_eq_iff.2 (hsplit.trans hparts)
    simp only [components, List.cons.injEq, and_true] at hparts
    obtain ⟨-, rfl, rfl⟩ := hparts
    exact ⟨mt hns.2 hnsNe, mt hname.2 hnameNe, htext⟩
  · rintro ⟨hnsNe, hnameNe, htext⟩
    exact (parse_eq_ok_iff_of_split (text_eq_iff.1 htext)).2
      ⟨⟨mt hns.1 hnsNe, mt hname.1 hnameNe⟩, rfl⟩

/-- What is read from the text of a key: the key, or the complaint about an empty component. -/
theorem parse_text (key : TenantKey) : parse key.text =
    if key.ns = "" ∨ key.name = "" then .error (.emptyComponent key.text) else .ok key := by
  by_cases hempty : key.ns = "" ∨ key.name = ""
  · rw [if_pos hempty]
    simp only [parse, key.split_text, components]
    exact if_pos (by simpa [or_assoc] using Or.inr hempty)
  · rw [if_neg hempty]
    obtain ⟨hns, hname⟩ := not_or.1 hempty
    exact parse_eq_ok_iff.2 ⟨hns, hname, rfl⟩

/-- Reading accepts exactly the texts of the keys whose namespace and name are not empty. Hence it
undoes writing for these keys, writing undoes it for every text that it accepts, and no key is read
from two texts. -/
theorem parse_exact :
    (∀ (input : String) (key : TenantKey),
      parse input = .ok key ↔ key.ns ≠ "" ∧ key.name ≠ "" ∧ key.text = input) ∧
    (∀ key : TenantKey, key.ns ≠ "" → key.name ≠ "" → parse key.text = .ok key) ∧
    (∀ (input : String) (key : TenantKey), parse input = .ok key → key.text = input) ∧
    ∀ (a b : String) (key : TenantKey), parse a = .ok key → parse b = .ok key → a = b := by
  refine ⟨fun input key => parse_eq_ok_iff, fun key hns hname => ?_, fun input key h => ?_,
    fun a b key ha hb => ?_⟩
  · exact parse_eq_ok_iff.2 ⟨hns, hname, rfl⟩
  · exact (parse_eq_ok_iff.1 h).2.2
  · exact (parse_eq_ok_iff.1 ha).2.2.symm.trans (parse_eq_ok_iff.1 hb).2.2

/-- A separator and what already looks like an escape sequence come back from a written key. -/
theorem parse_exact_of_escapes :
    "a/b" ≠ "" ∧ "50%2F" ≠ "" ∧ (⟨.channel, "a/b", "50%2F"⟩ : TenantKey).text =
      "channel/a%2Fb/50%252F" ∧ parse "channel/a%2Fb/50%252F" = .ok ⟨.channel, "a/b", "50%2F"⟩ :=
  ⟨by decide, by decide, by decide,
    parse_exact.2.1 ⟨.channel, "a/b", "50%2F"⟩ (by decide) (by decide)⟩

end TenantKey

end EventRouter
