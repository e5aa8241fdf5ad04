import EventRouter.Text.Split

/-! The trace state: a list of vendor entries in the order in which a header gives them. A header
with an invalid entry has no entries at all. -/

namespace EventRouter

/-- The entries of a trace state. -/
abbrev TraceState := List (String × String)

namespace TraceState

/-- Whether a character may begin a key or a vendor. -/
def startsKey (c : Char) : Bool := c.isLower || c.isDigit

/-- Whether a character may stand in a key. -/
def isKeyChar (c : Char) : Bool :=
  startsKey c || c = '_' || c = '-' || c = '*' || c = '/' || c = '@'

/-- Whether a part of a key begins as it must; an empty one does. -/
def beginsWell : List Char → Bool
  | [] => true
  | c :: _ => startsKey c

/-- Whether the vendor behind an `@` is valid. -/
def validVendor (vendor : List Char) : Bool :=
  vendor.length ≤ 13 && beginsWell vendor && !vendor.contains '@'

/-- Whether a key is valid. The empty key is. -/
def validKey (key : List Char) : Bool :=
  key.length ≤ 256 && key.all isKeyChar && beginsWell key &&
    match key.dropWhile (· ≠ '@') with
    | [] => true
    | _ :: vendor => validVendor vendor

/-- Whether a value is valid: at most 256 bytes, without the characters that separate entries. -/
def validValue (value : List Char) : Bool :=
  (String.ofList value).utf8ByteSize ≤ 256 && !value.contains ',' && !value.contains '='

/-- The entry that a part of a header gives: a key up to the first `=`, and the value behind all
the `=` that follow. -/
def entry? (part : List Char) : Option (String × String) :=
  match part.dropWhile (· ≠ '=') with
  | [] => none
  | rest =>
    let key := part.takeWhile (· ≠ '=')
    let value := rest.dropWhile (· = '=')
    if validKey key && validValue value then some (String.ofList key, String.ofList value) else none

/-- The entries of a header, if all of them are valid. -/
def parse? (header : String) : Option TraceState :=
  (Text.splitTerminated ',' header.toList).mapM entry?

/-- The trace state of a header. -/
def ofHeader (header : String) : TraceState := (parse? header).getD []

/-- The header of a trace state. -/
def header (s : TraceState) : String := ",".intercalate (s.map fun e => e.1 ++ "=" ++ e.2)

end TraceState

end EventRouter
