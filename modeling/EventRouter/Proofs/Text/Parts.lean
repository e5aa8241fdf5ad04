import EventRouter.Text.Blank
import EventRouter.Text.Split
import Mathlib.Data.List.TakeWhile

/-! The parts of a text: what stands before the first separator, what trimming leaves, and the parts
that come back from a joined text. -/

namespace EventRouter.Text

/-! ### Up to a separator -/

section Until

variable {sep : Char} {before after : List Char} (h : sep ∉ before)
include h

theorem decide_ne_of_mem : ∀ c ∈ before, decide (c ≠ sep) = true :=
  fun _ hc => decide_eq_true fun heq => h (heq ▸ hc)

theorem takeWhile_ne_append : (before ++ sep :: after).takeWhile (· ≠ sep) = before := by
  rw [List.takeWhile_append_of_pos (decide_ne_of_mem h)]
  simp

theorem dropWhile_ne_append : (before ++ sep :: after).dropWhile (· ≠ sep) = sep :: after := by
  rw [List.dropWhile_append_of_pos (decide_ne_of_mem h)]
  simp

theorem dropWhile_ne_eq_nil : before.dropWhile (· ≠ sep) = [] :=
  List.dropWhile_eq_nil_iff.2 (decide_ne_of_mem h)

end Until

/-! ### White space -/

variable {cs : List Char}

theorem trimStart_of_not_blank (h : ∀ c ∈ cs.head?, isBlank c = false) : trimStart cs = cs := by
  cases cs with
  | nil => rfl
  | cons c tail => simp [trimStart, h c rfl]

theorem trim_of_not_blank (h : ∀ c ∈ cs, isBlank c = false) : trim cs = cs := by
  have hfirst : ∀ c ∈ cs.head?, isBlank c = false := fun c hc => h c (List.mem_of_mem_head? hc)
  have hlast : ∀ c ∈ cs.reverse.head?, isBlank c = false :=
    fun c hc => h c (List.mem_reverse.1 (List.mem_of_mem_head? hc))
  rw [trim, trimStart_of_not_blank hfirst, trimStart_of_not_blank hlast, List.reverse_reverse]

/-! ### Joined parts -/

variable {sep : Char} {parts : List (List Char)}

theorem forall_mem_join {p : Char → Prop} (hsep : p sep) (h : ∀ part ∈ parts, ∀ c ∈ part, p c) :
    ∀ c ∈ join sep parts, p c := by
  induction parts with
  | nil => simp [join]
  | cons part rest ih =>
    obtain ⟨hpart, hrest⟩ := List.forall_mem_cons.1 h
    by_cases hnil : rest = []
    · subst hnil
      simpa [join, List.intercalate] using hpart
    · rw [join_cons hnil]
      exact List.forall_mem_append.2 ⟨hpart, List.forall_mem_cons.2 ⟨hsep, ih hrest⟩⟩

theorem splitTerminated_join (hne : parts ≠ []) (h : ∀ part ∈ parts, sep ∉ part)
    (hlast : parts.getLast? ≠ some []) : splitTerminated sep (join sep parts) = parts := by
  rw [splitTerminated, split_join hne h]
  exact if_neg hlast

end EventRouter.Text
