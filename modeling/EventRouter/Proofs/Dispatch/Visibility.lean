import EventRouter.Proofs.Dispatch.Gate

/-! What filters see of an event. They see its context attributes, and of an extension under any
other name its string form. They see nothing of its data, and no extension shows under the name of a
context attribute, whether or not the event has that attribute. -/

namespace EventRouter

namespace Event

variable {a b : Event} {name : String}

/-- The names of the context attributes; the schema of the data has two. -/
def contextNames : List String :=
  ["specversion", "id", "source", "type", "subject", "time", "datacontenttype", "dataschema",
    "schemaurl"]

/-- Two events have the same context attributes and, under all other names, extensions of the same
string form. -/
structure Alike (a b : Event) : Prop where
  id : a.id = b.id
  source : a.source = b.source
  type : a.type = b.type
  specVersion : a.specVersion = b.specVersion
  subject : a.subject = b.subject
  time : a.time = b.time
  dataContentType : a.dataContentType = b.dataContentType
  dataSchema : a.dataSchema = b.dataSchema
  extensions : ∀ name ∉ contextNames, (a.extensions.get? name).map ExtensionValue.text =
    (b.extensions.get? name).map ExtensionValue.text

/-- An event lacks the context attribute of a name. -/
inductive Lacks (e : Event) : String → Prop
  | subject (h : e.subject = none) : Lacks e "subject"
  | time (h : e.time = none) : Lacks e "time"
  | dataContentType (h : e.dataContentType = none) : Lacks e "datacontenttype"
  | dataSchema (h : e.dataSchema = none) : Lacks e "dataschema"
  | schemaUrl (h : e.dataSchema = none) : Lacks e "schemaurl"

theorem attribute?_of_not_mem (e : Event) (h : name ∉ contextNames) :
    e.attribute? name = (e.extensions.get? name).map ExtensionValue.text := by
  unfold attribute?
  split
  all_goals first
    | rfl
    | exact absurd (by decide) h

theorem attribute?_of_lacks {e : Event} (h : e.Lacks name) : e.attribute? name = none := by
  cases h with
  | subject h | dataContentType h | dataSchema h | schemaUrl h => exact h
  | time h => exact congrArg (Option.map Instant.text) h

namespace Alike

theorem attribute?_eq (h : a.Alike b) (name : String) : a.attribute? name = b.attribute? name := by
  by_cases hname : name ∈ contextNames
  · simp only [contextNames, List.mem_cons, List.not_mem_nil, or_false] at hname
    rcases hname with rfl | rfl | rfl | rfl | rfl | rfl | rfl | rfl | rfl
    · exact congrArg (fun version => some version.text) h.specVersion
    · exact congrArg some h.id
    · exact congrArg some h.source
    · exact congrArg some h.type
    · exact h.subject
    · exact congrArg (Option.map Instant.text) h.time
    · exact h.dataContentType
    · exact h.dataSchema
    · exact h.dataSchema
  · rw [a.attribute?_of_not_mem hname, b.attribute?_of_not_mem hname, h.extensions name hname]

/-- Only the extensions under other names than those of context attributes count. -/
theorem of_extensions (e : Event) (data : Option Json) (dataBase64 : Option String)
    {extensions : Dict ExtensionValue} (h : ∀ name ∉ contextNames,
      (e.extensions.get? name).map ExtensionValue.text =
        (extensions.get? name).map ExtensionValue.text) :
    e.Alike { e with data, dataBase64, extensions } :=
  ⟨rfl, rfl, rfl, rfl, rfl, rfl, rfl, rfl, h⟩

theorem of_data (e : Event) (data : Option Json) (dataBase64 : Option String) :
    e.Alike { e with data, dataBase64 } := of_extensions e data dataBase64 fun _ _ => rfl

theorem of_hidden (e : Event) (hname : name ∈ contextNames) (value : Option ExtensionValue) :
    e.Alike { e with extensions := e.extensions.put name value } := by
  refine of_extensions e e.data e.dataBase64 fun other hother => ?_
  have hne : other ≠ name := by
    rintro rfl
    exact hother hname
  rw [Dict.get?_put, if_neg hne]

theorem of_text (e : Event) {value other : ExtensionValue}
    (hvalue : e.extensions.get? name = some value) (htext : other.text = value.text) :
    e.Alike { e with extensions := e.extensions.insert name other } := by
  refine of_extensions e e.data e.dataBase64 fun other' _ => ?_
  rw [Dict.get?_insert]
  split
  · next heq => rw [heq, hvalue, Option.map_some, Option.map_some, htext]
  · rfl

end Alike

end Event

namespace Filter

variable {a b : Event}

theorem judge_congr (h : a.Alike b) (entry : String × String) : judge a entry = judge b entry := by
  simp only [judge, h.attribute?_eq]

theorem evaluate_congr (h : a.Alike b) (entries : List (String × String)) :
    evaluate a entries = evaluate b entries := by
  induction entries with
  | nil => rfl
  | cons entry rest ih => rw [evaluate, evaluate, judge_congr h, ih]

end Filter

/-- A filter stage decides alike on two events that are alike, and logs the same of them. -/
theorem FilterAccess.decideFor_congr {σ : Type} {a b : Event} (h : a.Alike b)
    (access : FilterAccess σ) (key : TargetKey) (ctx : Context) (s : σ) :
    access.decideFor key ctx a s = access.decideFor key ctx b s := by
  have hid : a.logId = b.logId := congrArg Event.orNone h.id
  have htype : a.logType = b.logType := congrArg Event.orNone h.type
  simp only [decideFor, Filter.evaluate_congr h, hid, htype]

/-- Events that are alike get the same verdict from every filter, in whatever order its entries are
met, and the same decision from every filter stage. Events are alike that differ in their data, in
the kinds of values of the same string form, or in extensions under the names of context attributes.
An event that lacks a context attribute passes no filter that asks for it, whatever extensions it
has. -/
theorem Event.hidden_parts_unseen :
    (∀ a b : Event, a.Alike b →
      (∀ entries : List (String × String),
        Filter.evaluate a entries = Filter.evaluate b entries) ∧
      ∀ {σ : Type} (access : FilterAccess σ) (key : TargetKey) (ctx : Context) (s : σ),
        access.decideFor key ctx a s = access.decideFor key ctx b s) ∧
    (∀ (e : Event) (data : Option Json) (dataBase64 : Option String),
      e.Alike { e with data, dataBase64 }) ∧
    (∀ (e : Event) (name : String) (value other : ExtensionValue),
      e.extensions.get? name = some value → other.text = value.text →
        e.Alike { e with extensions := e.extensions.insert name other }) ∧
    (∀ (e : Event) (name : String) (value : Option ExtensionValue), name ∈ contextNames →
      e.Alike { e with extensions := e.extensions.put name value }) ∧
    ∀ (e : Event) (name : String), e.Lacks name → ∀ (filter : Dict String) (value : String),
      filter.get? name = some value → ∀ entries : List (String × String),
        entries.Perm filter.entries → Filter.evaluate e entries ≠ .pass := by
  refine ⟨fun a b h => ⟨Filter.evaluate_congr h, FilterAccess.decideFor_congr h⟩, Alike.of_data,
    fun e _ _ _ => Alike.of_text e, fun e _ value hname => Alike.of_hidden e hname value,
    fun e name hlacks filter value hvalue entries hperm hpass => ?_⟩
  have hattribute := (Filter.evaluate_eq_pass_iff_satisfies hperm).1 hpass name value hvalue
  rw [attribute?_of_lacks hlacks] at hattribute
  contradiction

/-- An extension that poses as the subject, and a number in the place of its digits. -/
theorem Event.hidden_parts_unseen_of_posing :
    let plain := build [.extension "priority" (.string "5")]
    let counted := plain.apply (.extension "priority" (.int 5))
    let posing := counted.apply (.extension "subject" (.string "x"))
    (∀ entries, Filter.evaluate plain entries = Filter.evaluate posing entries) ∧
      Filter.evaluate posing [("priority", "5")] = .pass ∧
      Filter.evaluate posing [("subject", "x")] ≠ .pass := by
  intro plain counted posing
  obtain ⟨hsame, -, htext, hhidden, hlacks⟩ := hidden_parts_unseen
  have hcounted : plain.Alike counted :=
    htext plain "priority" (.string "5") (.int 5) rfl (by decide +kernel)
  have hposing : counted.Alike posing :=
    hhidden counted "subject" (some (.string "x")) (by decide)
  refine ⟨fun entries => ?_, by decide +kernel, ?_⟩
  · rw [(hsame _ _ hcounted).1, (hsame _ _ hposing).1]
  · exact hlacks posing "subject" (.subject rfl) (Dict.empty.insert "subject" "x") "x" rfl _
      (.refl _)

end EventRouter
