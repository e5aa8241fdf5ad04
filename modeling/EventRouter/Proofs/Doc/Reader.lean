import EventRouter.Doc.Reader

/-! The tokens of a value, and reading them. Whatever the grammar, they are read as the document of
the value, if brackets may nest as deeply as they do. -/

namespace EventRouter

namespace Json

mutual

/-- The number of brackets that are open at once in the text of a value. -/
def depth : Json → Nat
  | .array items => depthItems items + 1
  | .object members => depthMembers members + 1
  | _ => 0

/-- The greatest depth of the items of an array. -/
def depthItems : List Json → Nat
  | [] => 0
  | j :: rest => max (depth j) (depthItems rest)

/-- The greatest depth of the members of an object. -/
def depthMembers : List (String × Json) → Nat
  | [] => 0
  | (_, j) :: rest => max (depth j) (depthMembers rest)

end

theorem depthMembers_le {members : List (String × Json)} {n : Nat}
    (h : ∀ m ∈ members, m.2.depth ≤ n) : depthMembers members ≤ n := by
  induction members with
  | nil => exact Nat.zero_le n
  | cons m rest ih =>
    have hrest := ih fun m hm => h m (List.mem_cons_of_mem _ hm)
    exact Nat.max_le.2 ⟨h m List.mem_cons_self, hrest⟩

mutual

/-- The tokens that a value is written with. -/
def toTokens : Json → List Token
  | .null => [.word .null]
  | .bool true => [.word .true]
  | .bool false => [.word .false]
  | .number n => [.number (.ok (Doc.ofNumber n))]
  | .string s => [.string (.ok s)]
  | .array [] => [.openArray, .closeArray]
  | .array (j :: rest) => .openArray :: (toTokens j ++ itemTokens rest)
  | .object [] => [.openObject, .closeObject]
  | .object ((name, j) :: rest) =>
    .openObject :: .string (.ok name) :: .colon :: (toTokens j ++ memberTokens rest)

/-- The tokens of the items after the first one, and of the closing bracket. -/
def itemTokens : List Json → List Token
  | [] => [.closeArray]
  | j :: rest => .comma :: (toTokens j ++ itemTokens rest)

/-- The tokens of the members after the first one, and of the closing brace. -/
def memberTokens : List (String × Json) → List Token
  | [] => [.closeObject]
  | (name, j) :: rest =>
    .comma :: .string (.ok name) :: .colon :: (toTokens j ++ memberTokens rest)

end

/-- A value does not begin with a closing bracket. -/
theorem toTokens_eq_cons (j : Json) : ∃ t rest, j.toTokens = t :: rest ∧ t ≠ .closeArray := by
  cases j with
  | null => exact ⟨_, _, by rw [toTokens], by simp⟩
  | bool b => cases b <;> exact ⟨_, _, by rw [toTokens], by simp⟩
  | number n => exact ⟨_, _, by rw [toTokens], by simp⟩
  | string s => exact ⟨_, _, by rw [toTokens], by simp⟩
  | array items => cases items <;> exact ⟨_, _, by rw [toTokens], by simp⟩
  | object members => cases members <;> exact ⟨_, _, by rw [toTokens], by simp⟩

end Json

namespace Place

variable {rules : Grammar} {frames : List Frame}

/-- Brackets may nest that deeply inside the frames. -/
def Fits (rules : Grammar) (frames : List Frame) (depth : Nat) : Prop :=
  ∀ limit, rules.depth = some limit → frames.length + depth ≤ limit

theorem Fits.mono {m n : Nat} (h : Fits rules frames n) (hle : m ≤ n) : Fits rules frames m :=
  fun limit hlimit => by have := h limit hlimit; omega

/-- One level of the depth is used up by the frame that is opened. -/
theorem Fits.inside {n : Nat} (h : Fits rules frames (n + 1)) (frame : Frame) :
    Fits rules (frame :: frames) n := by
  intro limit hlimit
  have := h limit hlimit
  simp only [List.length_cons]
  omega

theorem Fits.mayOpen {n : Nat} (h : Fits rules frames (n + 1)) : mayOpen rules frames = true := by
  unfold Place.mayOpen
  split
  · rfl
  · next limit hlimit =>
    have := h limit hlimit
    exact decide_eq_true (by omega)

/-- The place behind some tokens. -/
def steps (rules : Grammar) (place : Place) (tokens : List Token) : Place :=
  tokens.foldl (step rules) place

@[simp] theorem steps_nil (place : Place) : steps rules place [] = place := rfl

@[simp] theorem steps_cons (place : Place) (t : Token) (tokens : List Token) :
    steps rules place (t :: tokens) = steps rules (step rules place t) tokens := rfl

@[simp] theorem steps_append (place : Place) (ts us : List Token) :
    steps rules place (ts ++ us) = steps rules (steps rules place ts) us :=
  List.foldl_append

/-- Where an item may stand, a value is read as it is anywhere else. -/
theorem steps_item (done : List Doc) (mayClose : Bool) (j : Json) :
    steps rules (.item done mayClose frames) j.toTokens =
      steps rules (.value (.item done :: frames)) j.toTokens := by
  obtain ⟨t, rest, htokens, hne⟩ := j.toTokens_eq_cons
  have hstep : step rules (.item done mayClose frames) t =
      step rules (.value (.item done :: frames)) t := by
    cases mayClose with
    | false => cases t <;> rfl
    | true => cases t <;> first | rfl | contradiction
  rw [htokens, steps_cons, steps_cons, hstep]

theorem steps_name (done : List (Name × Doc)) (mayClose : Bool) (name : String)
    (tokens : List Token) :
    steps rules (.name done mayClose frames) (.string (.ok name) :: .colon :: tokens) =
      steps rules (.value (.member done (.text name) :: frames)) tokens := by
  cases mayClose <;> rfl

theorem step_openArray {n : Nat} (h : Fits rules frames (n + 1)) :
    step rules (.value frames) .openArray = .item [] true frames := if_pos h.mayOpen

theorem step_openObject {n : Nat} (h : Fits rules frames (n + 1)) :
    step rules (.value frames) .openObject = .name [] true frames := if_pos h.mayOpen

mutual

/-- The tokens of a value are read as its document. -/
theorem steps_toTokens (j : Json) (frames : List Frame) (h : Fits rules frames j.depth) :
    steps rules (.value frames) j.toTokens = .after (Doc.ofJson j) frames := by
  match j with
  | .null => rfl
  | .bool true => rfl
  | .bool false => rfl
  | .number n => rfl
  | .string s => rfl
  | .array [] =>
    rw [Json.toTokens, steps_cons, step_openArray h]
    rfl
  | .array (j :: rest) =>
    have hfirst := steps_toTokens j (.item [] :: frames) ((h.inside _).mono (Nat.le_max_left _ _))
    rw [Json.toTokens, steps_cons, step_openArray h, steps_append, steps_item, hfirst]
    exact steps_itemTokens rest _ [] frames (h.mono (Nat.succ_le_succ (Nat.le_max_right _ _)))
  | .object [] =>
    rw [Json.toTokens, steps_cons, step_openObject h]
    rfl
  | .object ((field, j) :: rest) =>
    have hfirst := steps_toTokens j (.member [] (.text field) :: frames)
      ((h.inside _).mono (Nat.le_max_left _ _))
    rw [Json.toTokens, steps_cons, step_openObject h, steps_name, steps_append, hfirst]
    exact steps_memberTokens rest _ [] _ frames (h.mono (Nat.succ_le_succ (Nat.le_max_right _ _)))

/-- Behind an item, the tokens of the other items are read up to the end of the array. -/
theorem steps_itemTokens (items : List Json) (d : Doc) (done : List Doc) (frames : List Frame)
    (h : Fits rules frames (Json.depthItems items + 1)) :
    steps rules (.after d (.item done :: frames)) (Json.itemTokens items) =
      .after (.array (done.reverse ++ d :: Doc.ofItems items)) frames := by
  match items with
  | [] => simp [Json.itemTokens, step, Doc.ofItems]
  | j :: rest =>
    have hfirst := steps_toTokens j (.item (d :: done) :: frames)
      ((h.inside _).mono (Nat.le_max_left _ _))
    have hrest := steps_itemTokens rest (Doc.ofJson j) (d :: done) frames
      (h.mono (Nat.succ_le_succ (Nat.le_max_right _ _)))
    rw [Json.itemTokens, steps_cons, step, steps_append, steps_item, hfirst, hrest, Doc.ofItems,
      List.reverse_cons, List.append_assoc, List.singleton_append]

/-- Behind a member, the tokens of the other members are read up to the end of the object. -/
theorem steps_memberTokens (members : List (String × Json)) (d : Doc) (done : List (Name × Doc))
    (field : Name) (frames : List Frame)
    (h : Fits rules frames (Json.depthMembers members + 1)) :
    steps rules (.after d (.member done field :: frames)) (Json.memberTokens members) =
      .after (.object (done.reverse ++ (field, d) :: Doc.ofMembers members)) frames := by
  match members with
  | [] => simp [Json.memberTokens, step, Doc.ofMembers]
  | (next, j) :: rest =>
    have hfirst := steps_toTokens j (.member ((field, d) :: done) (.text next) :: frames)
      ((h.inside _).mono (Nat.le_max_left _ _))
    have hrest := steps_memberTokens rest (Doc.ofJson j) ((field, d) :: done) (.text next) frames
      (h.mono (Nat.succ_le_succ (Nat.le_max_right _ _)))
    rw [Json.memberTokens, steps_cons, step, steps_name, steps_append, hfirst, hrest,
      Doc.ofMembers, List.reverse_cons, List.append_assoc, List.singleton_append]

end

/-! ### Texts that are no documents -/

/-- A place from which no token leads to a whole document. -/
inductive Lost : Place → Prop where
  | beyond (d : Doc) : Lost (.beyond d)
  | stopped (d : Doc) : Lost (.stopped d)

theorem lost_step_bad (place : Place) : (step rules place .bad).Lost := by
  match place with
  | .value _ => exact .stopped _
  | .item _ true _ | .item _ false _ => exact .stopped _
  | .name _ true _ | .name _ false _ => exact .stopped _
  | .colon .. => exact .stopped _
  | .after _ [] => exact .beyond _
  | .after _ (.item _ :: _) | .after _ (.member .. :: _) => exact .stopped _
  | .beyond _ => exact .beyond _
  | .stopped _ => exact .stopped _

theorem Lost.steps {place : Place} (h : place.Lost) (tokens : List Token) :
    (steps rules place tokens).Lost := by
  induction tokens generalizing place with
  | nil => exact h
  | cons t tokens ih => exact ih (by cases h <;> constructor)

theorem Lost.not_isWhole {place : Place} (h : place.Lost) : place.isWhole = false := by
  cases h <;> rfl

end Place

theorem Grammar.not_isWhole_of_bad (rules : Grammar) {tokens : List Token} (h : .bad ∈ tokens) :
    (rules.read tokens).isWhole = false := by
  obtain ⟨front, back, rfl⟩ := List.append_of_mem h
  have hread : rules.read (front ++ .bad :: back) =
      Place.steps rules (.step rules (Place.steps rules (.value []) front) .bad) back :=
    Place.steps_append _ _ _
  rw [hread]
  exact ((Place.lost_step_bad _).steps back).not_isWhole

/-- The tokens of a value are a whole text, which reads as the document of the value. -/
theorem Grammar.read_toTokens (rules : Grammar) (j : Json)
    (h : ∀ limit, rules.depth = some limit → j.depth ≤ limit) :
    rules.read j.toTokens = .after (Doc.ofJson j) [] :=
  Place.steps_toTokens j [] fun limit hlimit => by simpa using h limit hlimit

end EventRouter
