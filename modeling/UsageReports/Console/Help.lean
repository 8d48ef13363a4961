import UsageReports.Console.Grammar

/-!
# Help

What a program tells about a command: what it is for, how it is used, the commands within it and its
options. Options with places of their own come first, in the order of their places in their lists;
of several with one place the one with the lesser letter or name is first.
-/

namespace UsageReports

namespace OptionSpec

/-- An option as it is written, with what stands for its value. -/
def pattern (o : OptionSpec) : String :=
  "--" ++ o.name ++ ((o.value.map fun v => s!" <{v}>").getD "")

/-- An option as a line of help begins. -/
def head (o : OptionSpec) : String :=
  (match o.letter with
    | some c => "  -" ++ String.ofList [c] ++ ", "
    | none => "      ") ++ o.pattern

/-- What a line of help says of an option. -/
def remark (o : OptionSpec) : String :=
  match o.preset with
  | none => o.about
  | some value => (if o.about = "" then "" else o.about ++ " ") ++ s!"[default: {value}]"

/-- What options with one place are ordered by. -/
def sortKey (o : OptionSpec) : String :=
  match o.letter with
  | some c => String.ofList [c.toLower, if c.isLower then '0' else '1']
  | none => o.name

end OptionSpec

/-- A text with blanks after it, to a width. -/
def filled (width : Nat) (s : String) : String :=
  s ++ String.ofList (List.replicate (width - s.length) ' ')

/-- Lines of two columns. -/
def columns (rows : List (String × String)) : String :=
  let width := (rows.map (·.1.length)).foldl max 0
  String.join (rows.map fun (left, right) => filled width left ++ "  " ++ right ++ "\n")

namespace CommandSpec

/-- Options with their places in the list. -/
def placed (options : List OptionSpec) : List (Nat × OptionSpec) := options.zipIdx.map Prod.swap

/-- Whether a placed option comes before another. -/
def comesFirst (a b : Nat × OptionSpec) : Bool :=
  a.1 < b.1 || (a.1 == b.1 && a.2.sortKey ≤ b.2.sortKey)

/-- The options that help lists. -/
def listed (c : CommandSpec) (shared : List OptionSpec) (isOutermost : Bool) : List OptionSpec :=
  ((placed c.options ++ placed shared).mergeSort comesFirst).map Prod.snd ++
    [Arguments.helpOption] ++ (if isOutermost then [Arguments.versionOption] else [])

/-- How a command is used; `names` are those of the commands around it and its own. -/
def usage (c : CommandSpec) (names : List String) : String :=
  let required := (c.options.filter OptionSpec.isRequired).map OptionSpec.pattern
  let inner := if c.commands.isEmpty then [] else ["<COMMAND>"]
  "Usage: " ++ " ".intercalate (names ++ ["[OPTIONS]"] ++ required ++ inner) ++ "\n"

/-- The commands that help lists. -/
def innerText (c : CommandSpec) : String :=
  if c.commands.isEmpty then ""
  else
    "Commands:\n" ++
      columns (c.commands.map (fun c => ("  " ++ c.name, c.about)) ++
        [("  help", "Print this message or the help of the given subcommand(s)")]) ++ "\n"

/-- What a program tells about a command. -/
def helpText (c : CommandSpec) (shared : List OptionSpec) (names : List String) : String :=
  c.about ++ "\n\n" ++ c.usage names ++ "\n" ++ c.innerText ++ "Options:\n" ++
    columns ((c.listed shared (names.length == 1)).map fun o => (o.head, o.remark))

/-- What a program tells about the command that names lead to. `path` is what was named before. -/
def helpAt (c : CommandSpec) (shared : List OptionSpec) (path : List String) : List String → String
  | [] => c.helpText shared path
  | name :: names =>
    match c.command? name with
    | some inner => inner.helpAt (inner.shared ++ shared) (path ++ [name]) names
    | none => c.helpText shared path

end CommandSpec

end UsageReports
