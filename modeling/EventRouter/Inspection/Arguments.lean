/-! The arguments of an inspection: one option, which names the file with the settings, and a
request for help. -/

namespace EventRouter.Inspection

/-- What is asked for on the command line. -/
inductive Invocation where
  | inspect (settingsFile : String)
  | help
  | misuse
deriving DecidableEq, Repr

/-- What an argument is by its form. -/
inductive Argument where
  /-- The end of all options. -/
  | separator
  /-- The option with its value. -/
  | settings (file : String)
  /-- The option without its value, which is the next argument. -/
  | settingsNext
  | help
  /-- Anything else with a dash in front. -/
  | unknown
  | plain (s : String)
deriving DecidableEq, Repr

namespace Argument

/-- The argument with a long name, which may have a value behind an equals sign. -/
def ofLong (cs : List Char) : Argument :=
  let name := String.ofList (cs.takeWhile (· ≠ '='))
  match cs.dropWhile (· ≠ '=') with
  | [] => if name = "config" then settingsNext else if name = "help" then help else unknown
  | _ :: value => if name = "config" then settings (String.ofList value) else unknown

/-- The argument with a short name, which may have a value right behind it. -/
def ofShort : List Char → Argument
  | ['c'] => settingsNext
  | 'c' :: '=' :: value => settings (String.ofList value)
  | 'c' :: value => settings (String.ofList value)
  | 'h' :: _ => help
  | _ => unknown

/-- The form of an argument. -/
def ofString (s : String) : Argument :=
  match s.toList with
  | ['-', '-'] => separator
  | '-' :: '-' :: rest => ofLong rest
  | ['-'] => plain s
  | '-' :: rest => ofShort rest
  | _ => plain s

end Argument

namespace Invocation

/-- What the arguments ask for, behind those that have named a file. The option may be given once,
and nothing but options may be given. -/
def ofArguments (file : Option String) : List Argument → Invocation
  | [] => (file.map inspect).getD misuse
  | [.separator] => (file.map inspect).getD misuse
  | .help :: _ => help
  | .settings s :: rest => if file.isSome then misuse else ofArguments (some s) rest
  | .settingsNext :: .plain s :: rest => if file.isSome then misuse else ofArguments (some s) rest
  | _ => misuse

/-- What the words of a command line ask for. -/
def parse (words : List String) : Invocation := ofArguments none (words.map Argument.ofString)

end Invocation

/-- The text that helps. -/
def helpText : String :=
  "Usage: routing-inspect --config <FILE>\n\n" ++
  "Options:\n" ++
  "  -c, --config <FILE>  \n" ++
  "  -h, --help           Print help\n"

end EventRouter.Inspection
