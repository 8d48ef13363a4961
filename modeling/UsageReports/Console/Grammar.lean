import UsageReports.Text.Split

/-!
# Command lines

What a program can be told on its command line: commands within commands, each with options of its
own. An option has a long name and may have a letter; options of a command that are for all hold for
the commands within it as well. Arguments are read from left to right, and the first that makes no
sense ends the reading.
-/

namespace UsageReports

/-- An option of a command. -/
structure OptionSpec where
  name : String
  letter : Option Char := none
  /-- What stands for its value, if it takes one. -/
  value : Option String := none
  about : String := ""
  isRequired : Bool := false
  /-- The value where none is given. -/
  preset : Option String := none
  /-- Whether a text can be its value. -/
  accepts : String → Bool := fun _ => true

/-- A command, with the options that are its own, those that are also for the commands within it,
and these commands. -/
inductive CommandSpec where
  | mk (name about : String) (options shared : List OptionSpec) (commands : List CommandSpec)

namespace CommandSpec

/-- The name of a command. -/
def name : CommandSpec → String
  | mk name _ _ _ _ => name

/-- What a command is for. -/
def about : CommandSpec → String
  | mk _ about _ _ _ => about

/-- The options of a command that are its own. -/
def options : CommandSpec → List OptionSpec
  | mk _ _ options _ _ => options

/-- The options of a command that are also for the commands within it. -/
def shared : CommandSpec → List OptionSpec
  | mk _ _ _ shared _ => shared

/-- The commands within a command. -/
def commands : CommandSpec → List CommandSpec
  | mk _ _ _ _ commands => commands

/-- The command of a name within another. -/
def command? (c : CommandSpec) (name : String) : Option CommandSpec :=
  c.commands.find? (·.name = name)

end CommandSpec

/-- Why nothing is done: the arguments make no sense, or help or the version was asked for. -/
inductive ArgumentStop where
  | misuse
  /-- Help about the command that these names lead to. -/
  | help (names : List String)
  | version
deriving DecidableEq

/-- Arguments that make sense: the names of commands, each within the one before it, and the values
of options, those of inner commands first. -/
structure Arguments where
  names : List String := []
  values : List (String × String) := []
deriving DecidableEq

namespace Arguments

/-- The value of an option. -/
def value? (a : Arguments) (name : String) : Option String := a.values.lookup name

/-- The option that asks for help. -/
def helpOption : OptionSpec := { name := "help", letter := some 'h', about := "Print help" }

/-- The option that asks for the version. -/
def versionOption : OptionSpec := { name := "version", letter := some 'V', about := "Print version" }

/-- Where reading has come to: the command, the names that led to it, the options that hold, and the
values that were given to it. -/
structure Level where
  command : CommandSpec
  names : List String := []
  shared : List OptionSpec
  given : List (String × String) := []

namespace Level

/-- All options that hold; the outermost command also tells its version. -/
def options (l : Level) : List OptionSpec :=
  l.command.options ++ l.shared ++ [helpOption] ++ (if l.names = [] then [versionOption] else [])

/-- Give an option its value. An option is given once, and must accept what it is given. -/
def give (l : Level) (o : OptionSpec) (value : String) : Except ArgumentStop Level :=
  if (l.given.lookup o.name).isSome || !o.accepts value then .error .misuse
  else .ok { l with given := (o.name, value) :: l.given }

/-- Meet an option without a value. -/
def meet (l : Level) (o : OptionSpec) : Except ArgumentStop Level :=
  if o.name = helpOption.name then .error (.help l.names)
  else if o.name = versionOption.name then .error .version
  else l.give o ""

/-- Read letters that follow a dash. The last of them may be an option whose value is still to
come. -/
def letters (l : Level) : List Char → Except ArgumentStop (Level × Option OptionSpec)
  | [] => .ok (l, none)
  | c :: cs =>
    match l.options.find? (·.letter = some c) with
    | none => .error .misuse
    | some o =>
      if o.value.isNone then (l.meet o).bind fun l => l.letters cs
      else
        match cs with
        | [] => .ok (l, some o)
        | '=' :: value | value => (l.give o (String.ofList value)).map fun l => (l, none)

/-- Read a name that follows two dashes, and its value if one is attached. -/
def longName (l : Level) (cs : List Char) : Except ArgumentStop (Level × Option OptionSpec) :=
  let (name, attached) := splitAtFirst '=' cs
  match l.options.find? (·.name.toList = name) with
  | none => .error .misuse
  | some o =>
    match o.value, attached with
    | none, none => (l.meet o).map fun l => (l, none)
    | none, some _ => .error .misuse
    | some _, none => .ok (l, some o)
    | some _, some value => (l.give o (String.ofList value)).map fun l => (l, none)

/-- Go on to a command within. -/
def enter (l : Level) (c : CommandSpec) : Level :=
  { command := c, names := l.names ++ [c.name], shared := c.shared ++ l.shared }

/-- Come to the end: nothing that must be given is missing, and a command that has others within it
is told which. -/
def finish (l : Level) : Except ArgumentStop Arguments :=
  if !l.command.commands.isEmpty then .error .misuse
  else if l.command.options.any fun o => o.isRequired && (l.given.lookup o.name).isNone then
    .error .misuse
  else .ok { names := l.names, values := l.given }

/-- The names that lead to the command that help is asked about. -/
def helpNames (c : CommandSpec) (names : List String) : List String → Except ArgumentStop (List String)
  | [] => .ok names
  | name :: rest =>
    match c.command? name with
    | some c => helpNames c (names ++ [name]) rest
    | none => .error .misuse

end Level

/-- Whether an argument is an option, and so no value of one. -/
def isOption (arg : String) : Bool := arg.toList.head? = some '-' && arg ≠ "-"

/-- Read the arguments of a command and of those within it. -/
def read (l : Level) (args : List String) : Except ArgumentStop Arguments :=
  match args with
  | [] => l.finish
  | arg :: rest =>
    if arg = "--" then (if rest = [] then l.finish else .error .misuse)
    else if isOption arg then
      match (match arg.toList with
        | '-' :: '-' :: cs => l.longName cs
        | cs => l.letters cs.tail) with
      | .error stop => .error stop
      | .ok (l, none) => read l rest
      | .ok (l, some o) =>
        match rest with
        | [] => .error .misuse
        | value :: rest =>
          if isOption value then .error .misuse
          else
            match l.give o value with
            | .error stop => .error stop
            | .ok l => read l rest
    else
      match l.command.command? arg with
      | some c =>
        match read (l.enter c) rest with
        | .error stop => .error stop
        | .ok inner => .ok { inner with values := inner.values ++ l.given }
      | none =>
        if arg = "help" ∧ !l.command.commands.isEmpty then
          .error (match Level.helpNames l.command l.names rest with
            | .ok names => .help names
            | .error stop => stop)
        else .error .misuse
termination_by args.length

/-- Read the arguments of a program. -/
def ofList (program : CommandSpec) (args : List String) : Except ArgumentStop Arguments :=
  read { command := program, shared := program.shared } args

end Arguments

end UsageReports
