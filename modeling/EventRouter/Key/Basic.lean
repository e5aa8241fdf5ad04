import EventRouter.Key.Component

/-! The keys of cell tenants and of their targets. A cell tenant is named by its kind, a namespace
and a name, a target by its cell tenant and a name; a key is written as its components, escaped and
joined by separators. -/

namespace EventRouter

/-- The kind of routing scope that a cell tenant stands for. -/
inductive TenantKind where
  | broker
  | channel
deriving DecidableEq, Repr, Ord, Inhabited

/-- The word for a kind. -/
def TenantKind.word : TenantKind → String
  | .broker => "broker"
  | .channel => "channel"

/-- The kind that a word names. -/
def TenantKind.ofWord? : String → Option TenantKind
  | "broker" => some .broker
  | "channel" => some .channel
  | _ => none

/-- The key of a cell tenant. -/
structure TenantKey where
  kind : TenantKind
  ns : String
  name : String
deriving DecidableEq, Repr, Ord, Inhabited

/-- The key of a target: the key of its cell tenant and its own name. -/
structure TargetKey where
  parent : TenantKey
  name : String
deriving DecidableEq, Repr, Ord, Inhabited

/-- The reasons for which a text is not the written form of a cell tenant key. -/
inductive KeyError where
  | wrongComponentCount (input : String)
  | emptyComponent (input : String)
  | unknownKind (word : String)
  | invalidEscape (input : String)
deriving DecidableEq, Repr

/-- The wording of an error. -/
def KeyError.message : KeyError → String
  | .wrongComponentCount input => s!"key '{input}' must have exactly 3 components"
  | .emptyComponent input => s!"key '{input}' has an empty component"
  | .unknownKind word => s!"unknown cell tenant type '{word}'"
  | .invalidEscape input => s!"key '{input}' has an invalid escape sequence"

namespace TenantKey

/-- The key of a target of this cell tenant. -/
def target (key : TenantKey) (name : String) : TargetKey := ⟨key, name⟩

/-- The written components of a key. -/
def components (key : TenantKey) : List (List Char) :=
  [key.kind.word.toList, Key.escape key.ns.toList, Key.escape key.name.toList]

/-- The written form of a key. -/
def text (key : TenantKey) : String := String.ofList (Text.join Key.separator key.components)

/-- The kind that the first component names. -/
def kindOf (word : List Char) : Except KeyError TenantKind :=
  match TenantKind.ofWord? (String.ofList word) with
  | some kind => .ok kind
  | none => .error (.unknownKind (String.ofList word))

/-- The component with the given written form, inside the given key. -/
def componentOf (input : String) (part : List Char) : Except KeyError String :=
  match Key.unescape? part with
  | some cs => .ok (String.ofList cs)
  | none => .error (.invalidEscape input)

/-- Reads a written key: exactly three components, none of them empty. -/
def parse (input : String) : Except KeyError TenantKey :=
  match Text.split Key.separator input.toList with
  | [kind, ns, name] =>
    if kind.isEmpty || ns.isEmpty || name.isEmpty then .error (.emptyComponent input)
    else do
      let kind ← kindOf kind
      let ns ← componentOf input ns
      let name ← componentOf input name
      return ⟨kind, ns, name⟩
  | _ => .error (.wrongComponentCount input)

end TenantKey

namespace TargetKey

/-- The written components of a key. -/
def components (key : TargetKey) : List (List Char) :=
  key.parent.components ++ [Key.escape key.name.toList]

/-- The written form of a key. -/
def text (key : TargetKey) : String := String.ofList (Text.join Key.separator key.components)

end TargetKey

end EventRouter
