import EventRouter.Json.Basic
import EventRouter.Decimal.Shortest

/-! The text of a JSON value: the compact form, without any white space, and the indented form. -/

namespace EventRouter

/-- Doubles stand by position when their first digit has an exponent from -5 to 15, and have an
exponent otherwise; of two decimals that are equally near, the even one is written. -/
def Number.style : DecimalStyle := ⟨-5, 15, .even⟩

/-- The text of a number. -/
def Number.render : Number → List Char
  | .int n => Numeral.writeInt n.val
  | .float x => Number.style.write x

namespace Json

/-- A character inside a string: quotes, backslashes and controls are escaped. -/
def escapeChar (c : Char) : List Char :=
  match c with
  | '"' => ['\\', '"']
  | '\\' => ['\\', '\\']
  | '\x08' => ['\\', 'b']
  | '\x0c' => ['\\', 'f']
  | '\n' => ['\\', 'n']
  | '\r' => ['\\', 'r']
  | '\t' => ['\\', 't']
  | c => if c < ' ' then '\\' :: 'u' :: Numeral.writePadded 16 4 c.toNat else [c]

/-- A string in quotes. -/
def renderString (s : String) : List Char := '"' :: s.toList.flatMap escapeChar ++ ['"']

mutual

/-- The compact text of a value. -/
def render : Json → List Char
  | .null => ['n', 'u', 'l', 'l']
  | .bool true => ['t', 'r', 'u', 'e']
  | .bool false => ['f', 'a', 'l', 's', 'e']
  | .number n => n.render
  | .string s => renderString s
  | .array [] => ['[', ']']
  | .array (j :: rest) => '[' :: render j ++ renderItems rest
  | .object [] => ['\x7b', '\x7d']
  | .object ((name, j) :: rest) =>
    '\x7b' :: renderString name ++ ':' :: render j ++ renderMembers rest

/-- The items after the first one, and the closing bracket. -/
def renderItems : List Json → List Char
  | [] => [']']
  | j :: rest => ',' :: render j ++ renderItems rest

/-- The members after the first one, and the closing brace. -/
def renderMembers : List (String × Json) → List Char
  | [] => ['\x7d']
  | (name, j) :: rest => ',' :: renderString name ++ ':' :: render j ++ renderMembers rest

end

/-- A line end and the indentation of the given depth. -/
def newline (depth : Nat) : List Char := '\n' :: List.replicate (2 * depth) ' '

mutual

/-- The text of a value with one item or member a line, two spaces deeper than what holds it. -/
def indented (depth : Nat) : Json → List Char
  | .array [] => ['[', ']']
  | .array (j :: rest) =>
    '[' :: newline (depth + 1) ++ indented (depth + 1) j ++ indentedItems depth rest
  | .object [] => ['\x7b', '\x7d']
  | .object ((name, j) :: rest) =>
    '\x7b' :: newline (depth + 1) ++ renderString name ++ ':' :: ' ' :: indented (depth + 1) j ++
      indentedMembers depth rest
  | j => j.render

/-- The items after the first one, and the closing bracket on a line of its own. -/
def indentedItems (depth : Nat) : List Json → List Char
  | [] => newline depth ++ [']']
  | j :: rest =>
    ',' :: newline (depth + 1) ++ indented (depth + 1) j ++ indentedItems depth rest

/-- The members after the first one, and the closing brace on a line of its own. -/
def indentedMembers (depth : Nat) : List (String × Json) → List Char
  | [] => newline depth ++ ['\x7d']
  | (name, j) :: rest =>
    ',' :: newline (depth + 1) ++ renderString name ++ ':' :: ' ' :: indented (depth + 1) j ++
      indentedMembers depth rest

end

/-- The compact text of a value. -/
def text (j : Json) : String := String.ofList j.render

/-- The indented text of a value. -/
def indentedText (j : Json) : String := String.ofList (j.indented 0)

end Json

end EventRouter
