import EventRouter.Proofs.Text.Numeral
import EventRouter.Proofs.Text.Parts
import EventRouter.Trace.Parent
import Mathlib.Data.Option.Basic

/-! The canonical header of a span context. A trace parent may be written in many ways: with white
space around it, in a version to come with more parts behind the flags, with ids of any length and a
plus in front of them, with flags that nobody knows. Whatever is read from one of them is read from
its canonical header, too. -/

namespace EventRouter

namespace SpanContext

/-- A span context that came from elsewhere, with ids that are not zero. -/
structure Received (c : SpanContext) : Prop where
  remote : c.remote = true
  traceId : c.traceId ≠ 0
  spanId : ∃ id, c.spanId = .given id ∧ id ≠ 0

/-- The header of version 0 for a span context, with its ids in full. -/
def header (c : SpanContext) : String :=
  "00-" ++ c.traceIdText ++ "-" ++ c.spanId.text ++ if c.sampled then "-01" else "-00"

theorem lowerHex_traceIdText (c : SpanContext) :
    Numeral.LowerHex 32 c.traceId.toNat c.traceIdText.toList := by
  rw [traceIdText, String.toList_ofList]
  exact Numeral.lowerHex_writePadded (by decide) c.traceId.isLt

end SpanContext

theorem SpanId.lowerHex_text (id : BitVec 64) :
    Numeral.LowerHex 16 id.toNat (SpanId.given id).text.toList := by
  rw [text, String.toList_ofList]
  exact Numeral.lowerHex_writePadded (by decide) id.isLt

namespace TraceParent

open Numeral (LowerHex hexDigits)

variable {header : String} {state : TraceState} {c : SpanContext}

/-! ### What a header is read as -/

/-- The parts of an accepted header, with the span context that they give. -/
inductive Gives (state : TraceState) : List (List Char) → SpanContext → Prop
  | parts {version traceId spanId flags : List Char} {more : List (List Char)} {v f : BitVec 8}
    {t : BitVec 128} {s : BitVec 64} (hversion : hex? 8 version = some v)
    (hmore : v ≠ 255 ∧ (v = 0 → more = [])) (htraceId : id? 128 traceId = some t)
    (hspanId : id? 64 spanId = some s) (hflags : hex? 8 flags = some f)
    (hvalid : validFlags v f = true) :
    Gives state (version :: traceId :: spanId :: flags :: more)
      ⟨t, .given s, f.getLsbD 0, true, state⟩

theorem ofParts?_eq_some_iff {parts : List (List Char)} :
    ofParts? state parts = some c ↔ Gives state parts c := by
  constructor
  · intro h
    unfold ofParts? at h
    split at h
    · obtain ⟨v, hversion, h⟩ := Option.bind_eq_some_iff.1 h
      obtain ⟨⟨⟩, hmore, h⟩ := Option.bind_eq_some_iff.1 h
      obtain ⟨t, htraceId, h⟩ := Option.bind_eq_some_iff.1 h
      obtain ⟨s, hspanId, h⟩ := Option.bind_eq_some_iff.1 h
      obtain ⟨f, hflags, h⟩ := Option.bind_eq_some_iff.1 h
      obtain ⟨⟨⟩, hvalid, h⟩ := Option.bind_eq_some_iff.1 h
      obtain rfl := Option.some.inj h
      exact .parts hversion ((Option.guard_eq_some' ()).1 hmore) htraceId hspanId hflags
        ((Option.guard_eq_some' ()).1 hvalid)
    · contradiction
  · rintro ⟨hversion, hmore, htraceId, hspanId, hflags, hvalid⟩
    have hmore := (Option.guard_eq_some' ()).2 hmore
    have hvalid := (Option.guard_eq_some' ()).2 hvalid
    simp only [ofParts?, hversion, htraceId, hspanId, hflags, bind, pure, Option.bind_some, hmore,
      hvalid]

theorem ne_zero_of_id? {width : Nat} {cs : List Char} {n : BitVec width}
    (h : id? width cs = some n) : n ≠ 0 := by
  unfold id? at h
  split at h
  · contradiction
  · simpa using (Option.filter_eq_some_iff.1 h).2

theorem Gives.received {parts : List (List Char)} (h : Gives state parts c) :
    c.Received ∧ c.state = state := by
  obtain ⟨-, -, htraceId, hspanId, -, -⟩ := h
  exact ⟨⟨rfl, ne_zero_of_id? htraceId, _, rfl, ne_zero_of_id? hspanId⟩, rfl⟩

theorem parse_eq_ok_iff : parse header = .ok c ↔ read? header [] = some c := by
  unfold parse parseWith
  split <;> simp_all

/-! ### What the canonical header is read as -/

theorem hex?_of_lowerHex {width digits : Nat} {n : BitVec width} {cs : List Char}
    (h : LowerHex digits n.toNat cs) : hex? width cs = some n := by
  obtain ⟨c, rest, rfl⟩ : ∃ c rest, cs = c :: rest :=
    List.exists_cons_of_ne_nil fun hnil => by simpa [hnil, Numeral.read?] using h.value
  have hplus : c ≠ '+' := by
    rintro rfl
    exact absurd (h.mem_hexDigits '+' List.mem_cons_self) (by decide)
  simpa [hex?, hplus, h.value] using n.isLt

theorem id?_of_lowerHex {width digits : Nat} {n : BitVec width} {cs : List Char}
    (h : LowerHex digits n.toNat cs) (hn : n ≠ 0) : id? width cs = some n := by
  have hlower : ∀ c ∈ hexDigits, (!c.isUpper) = true := List.all_eq_true.1 (by decide)
  have hupper : ¬ cs.any Char.isUpper = true := by
    simpa using fun c hc => hlower c (h.mem_hexDigits c hc)
  rw [id?, if_neg hupper, hex?_of_lowerHex h]
  simpa using hn

/-- The flags of a canonical header. -/
def flagsText (c : SpanContext) : List Char := if c.sampled then ['0', '1'] else ['0', '0']

/-- The parts of a canonical header. -/
def headerParts (c : SpanContext) : List (List Char) :=
  [['0', '0'], c.traceIdText.toList, c.spanId.text.toList, flagsText c]

theorem toList_header (c : SpanContext) : c.header.toList = Text.join '-' (headerParts c) := by
  cases h : c.sampled <;>
    simp [SpanContext.header, headerParts, flagsText, Text.join, List.intercalate, h]

theorem mem_hexDigits_of_mem_headerParts (hc : c.Received) :
    ∀ part ∈ headerParts c, ∀ d ∈ part, d ∈ hexDigits := by
  obtain ⟨id, hid, -⟩ := hc.spanId
  have hzero : '0' ∈ hexDigits := by decide
  have hone : '1' ∈ hexDigits := by decide
  intro part hpart
  simp only [headerParts, hid, List.mem_cons, List.not_mem_nil, or_false] at hpart
  rcases hpart with rfl | rfl | rfl | rfl
  · simp [hzero]
  · exact c.lowerHex_traceIdText.mem_hexDigits
  · exact (SpanId.lowerHex_text id).mem_hexDigits
  · unfold flagsText
    split <;> simp [hzero, hone]

theorem parts_header (hc : c.Received) : parts c.header = headerParts c := by
  -- All parts are hexadecimal digits: none of them is cut at a dash or trimmed.
  have hdigits := mem_hexDigits_of_mem_headerParts hc
  have hdash : '-' ∉ hexDigits := by decide
  have hblank : ∀ d ∈ hexDigits, (!Text.isBlank d) = true := List.all_eq_true.1 (by decide)
  have hlast : (headerParts c).getLast? ≠ some [] := by
    cases h : c.sampled <;> simp [headerParts, flagsText, h]
  have hshown : ∀ d ∈ Text.join '-' (headerParts c), Text.isBlank d = false :=
    Text.forall_mem_join (by decide) fun part hpart d hd => by
      simpa using hblank d (hdigits part hpart d hd)
  rw [parts, toList_header, Text.trim_of_not_blank hshown]
  exact Text.splitTerminated_join (by simp [headerParts])
    (fun part hpart hmem => hdash (hdigits part hpart '-' hmem)) hlast

theorem hex?_flagsText (c : SpanContext) : ∃ f : BitVec 8,
    hex? 8 (flagsText c) = some f ∧ validFlags 0 f = true ∧ f.getLsbD 0 = c.sampled := by
  rw [flagsText]
  cases c.sampled
  · exact ⟨0, by decide⟩
  · exact ⟨1, by decide⟩

theorem read?_header (hc : c.Received) : read? c.header c.state = some c := by
  obtain ⟨id, hid, hne⟩ := hc.spanId
  obtain ⟨f, hflags, hvalid, hsampled⟩ := hex?_flagsText c
  have hversion : hex? 8 ['0', '0'] = some 0 := by decide
  have htraceId := id?_of_lowerHex c.lowerHex_traceIdText hc.traceId
  have hspanId := id?_of_lowerHex (SpanId.lowerHex_text id) hne
  rw [← hid] at hspanId
  have hgives : Gives c.state (headerParts c) ⟨c.traceId, .given id, f.getLsbD 0, true, c.state⟩ :=
    .parts hversion ⟨by decide, fun _ => rfl⟩ htraceId hspanId hflags hvalid
  rw [hsampled, ← hid, ← hc.remote] at hgives
  rwa [read?, parts_header hc, ofParts?_eq_some_iff]

/-- Whatever header is accepted, its span context came from elsewhere, has ids that are not zero,
and is read from its canonical header, too. Every such span context without a trace state is read
from its canonical header, whose ids are thirty-two and sixteen lower-case hexadecimal digits. -/
theorem canonical_form :
    (∀ (v : String) (c : SpanContext), parse v = .ok c →
      c.remote = true ∧ c.traceId ≠ 0 ∧ (∃ id, c.spanId = .given id ∧ id ≠ 0) ∧
        parse c.header = .ok c) ∧
    (∀ (t : BitVec 128) (s : BitVec 64) (sampled : Bool), t ≠ 0 → s ≠ 0 →
      parse (SpanContext.header ⟨t, .given s, sampled, true, []⟩) =
        .ok ⟨t, .given s, sampled, true, []⟩) ∧
    (∀ c : SpanContext, LowerHex 32 c.traceId.toNat c.traceIdText.toList) ∧
    ∀ id : BitVec 64, LowerHex 16 id.toNat (SpanId.given id).text.toList := by
  refine ⟨fun v c hv => ?_, fun t s sampled ht hs => ?_, SpanContext.lowerHex_traceIdText,
    SpanId.lowerHex_text⟩
  · obtain ⟨hc, hstate⟩ := (ofParts?_eq_some_iff.1 (parse_eq_ok_iff.1 hv)).received
    have hread := read?_header hc
    rw [hstate] at hread
    exact ⟨hc.remote, hc.traceId, hc.spanId, parse_eq_ok_iff.2 hread⟩
  · exact parse_eq_ok_iff.2 (read?_header ⟨rfl, ht, s, rfl, hs⟩)

/-- A header of version 30 with white space around it, short and long ids, a plus and unknown flags,
with more parts behind them. -/
theorem canonical_form_of_relaxed :
    let c : SpanContext := ⟨0x4bf9, .given 0xb7, true, true, []⟩
    parse "\t 1E-+4bf9-000000000000000000000000b7-ff-more- " = .ok c ∧
      c.header = "00-00000000000000000000000000004bf9-00000000000000b7-01" ∧
      parse c.header = .ok c ∧
      parse (SpanContext.header ⟨0x4bf9, .given 0xb7, false, true, []⟩) =
        .ok ⟨0x4bf9, .given 0xb7, false, true, []⟩ := by
  intro c
  obtain ⟨haccepted, hwritten, -⟩ := canonical_form
  have hparse : parse "\t 1E-+4bf9-000000000000000000000000b7-ff-more- " = .ok c :=
    parse_eq_ok_iff.2 (by decide +kernel)
  have hheader : c.header = "00-00000000000000000000000000004bf9-00000000000000b7-01" := by
    decide +kernel
  obtain ⟨-, -, -, hcanonical⟩ := haccepted _ c hparse
  exact ⟨hparse, hheader, hcanonical, hwritten 0x4bf9 0xb7 false (by decide) (by decide)⟩

end TraceParent

end EventRouter
