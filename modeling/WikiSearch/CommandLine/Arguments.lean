import WikiSearch.Text.Numeral

/-!
# WikiSearch — command-line arguments

The first argument names a command. Behind it, flags stand before or after the query
in any order, each at most once. An argument that starts with a dash but is no flag is
the query if the query is still missing; behind `--` everything is.
-/

namespace WikiSearch.CommandLine

/-! ## Commands -/

/-- What the flags of a command say about reading its query. -/
structure QueryFlags where
  maxLength : Option Nat := none
  strict : Bool := false
  /-- Whether clauses without a sign should match, not must. -/
  should : Bool := false
  json : Bool := false
deriving DecidableEq, Repr, Inhabited

/-- A command with its arguments. -/
inductive Command where
  | parse (query : String) (flags : QueryFlags)
  | filter (query : String) (flags : QueryFlags)
  | keywords (json : Bool)
  | config
deriving DecidableEq, Repr

/-- Why there is no command to run. -/
inductive UsageError where
  | noCommand
  | unknownCommand
  | help
  | noQuery
  | unknownArgument
  | repeated
  | unwantedValue
  | notANumber
  | noValue
deriving DecidableEq, Repr

/-- The names of the commands. -/
inductive CommandName where
  | parse
  | filter
  | keywords
  | config
deriving DecidableEq, Repr

namespace CommandName

/-- The command of a name. -/
def ofText? : String → Option CommandName
  | "parse" => some parse
  | "filter" => some filter
  | "keywords" => some keywords
  | "config" => some config
  | _ => none

/-- Whether the command takes a query, and with it flags about reading the query. -/
def takesQuery : CommandName → Bool
  | parse | filter => true
  | keywords | config => false

/-- Whether the command has an output in JSON. -/
def hasJson : CommandName → Bool
  | parse | filter | keywords => true
  | config => false

end CommandName

/-! ## Flags -/

/-- What a long flag stands for. -/
inductive Flag where
  | json
  | strict
  | should
  | maxLength
  | help
deriving DecidableEq, Repr

/-- The flag of a name that a command takes. -/
def CommandName.flag? (command : CommandName) (name : String) : Option Flag :=
  if name = "help" then some .help
  else if name = "json" ∧ command.hasJson then some .json
  else if name = "strict" ∧ command.takesQuery then some .strict
  else if name = "should" ∧ command.takesQuery then some .should
  else if name = "max-length" ∧ command.takesQuery then some .maxLength
  else none

/-- The name of a long flag, and the value behind its first equals sign. -/
def splitFlag (arg : List Char) : String × Option String :=
  let (name, value) := (arg.drop 2).span (· ≠ '=')
  (String.ofList name, if value = [] then none else some (String.ofList (value.drop 1)))

/-- The number that the value of a flag stands for. It may have a plus in front. -/
def flagNumber? (value : String) : Option Nat :=
  match value.toList with
  | '+' :: digits => Text.stored? digits
  | digits => Text.stored? digits

/-! ## Reading the arguments of a command -/

/-- What the arguments of a command have said so far. -/
structure Progress where
  query : Option String := none
  flags : QueryFlags := {}
  /-- The flag for the soft limit was given but is not accounted for yet, with its value
  if that has come. -/
  open? : Option (Option String) := none
  /-- Whether a `--` has come. -/
  onlyQuery : Bool := false

namespace Progress

/-- Accounts for the flag for the soft limit, if it was given. -/
def settle (p : Progress) : Except UsageError Progress :=
  match p.open? with
  | none => .ok p
  | some none => .error .noValue
  | some (some value) =>
    -- a second value is refused before it is looked at
    if p.flags.maxLength.isSome then .error .repeated
    else match flagNumber? value with
      | some n => .ok { p with flags := { p.flags with maxLength := some n }, open? := none }
      | none => .error .notANumber

/-- Whether the query is still to come. -/
def wantsQuery (p : Progress) (command : CommandName) : Bool :=
  command.takesQuery && p.query.isNone

/-- Takes an argument as the query. -/
def takeQuery (p : Progress) (command : CommandName) (arg : String) :
    Except UsageError Progress :=
  if p.wantsQuery command then do
    let p ← p.settle
    .ok { p with query := some arg }
  else .error .unknownArgument

/-- Takes an argument as the value of a flag that waits for one, or as the query. -/
def takeWord (p : Progress) (command : CommandName) (arg : String) :
    Except UsageError Progress :=
  match p.open? with
  | some none => .ok { p with open? := some (some arg) }
  | _ => p.takeQuery command arg

/-- Takes a flag without a value. -/
def takeSwitch (p : Progress) (flag : Flag) : Except UsageError Progress := do
  let p ← p.settle
  -- each flag is taken once
  match flag with
  | .json =>
    if p.flags.json then .error .repeated
    else .ok { p with flags := { p.flags with json := true } }
  | .strict =>
    if p.flags.strict then .error .repeated
    else .ok { p with flags := { p.flags with strict := true } }
  | .should =>
    if p.flags.should then .error .repeated
    else .ok { p with flags := { p.flags with should := true } }
  | .maxLength => .ok { p with open? := some none }
  | .help => .error .help

/-- Takes a flag with a value behind an equals sign. -/
def takeAssigned (p : Progress) (flag : Flag) (value : String) : Except UsageError Progress :=
  match flag with
  | .maxLength => do
    let p ← p.settle
    ({ p with open? := some (some value) } : Progress).settle
  | _ => .error .unwantedValue

/-- Takes an argument that starts with two dashes. -/
def takeLong (p : Progress) (command : CommandName) (arg : String) :
    Except UsageError Progress :=
  let (name, value) := splitFlag arg.toList
  match command.flag? name, value with
  | some flag, none => p.takeSwitch flag
  | some flag, some value => p.takeAssigned flag value
  -- what is no flag may be the query, or the value that a flag waits for
  | none, _ => if p.wantsQuery command then p.takeWord command arg else .error .unknownArgument

/-- Takes an argument that starts with one dash; `letters` are the characters behind it.
The only letter with a meaning is the `h` for help. -/
def takeShort (p : Progress) (command : CommandName) (arg : String) (letters : List Char) :
    Except UsageError Progress :=
  if p.wantsQuery command && letters.any (· ≠ 'h') then p.takeWord command arg
  else if letters.head? = some 'h' then p.takeSwitch .help
  else .error .unknownArgument

/-- Takes an argument. -/
def take (command : CommandName) (p : Progress) (arg : String) : Except UsageError Progress :=
  -- behind the two dashes nothing is a flag, nor the value of one
  if p.onlyQuery then p.takeQuery command arg
  else if arg = "--" then .ok { p with onlyQuery := true }
  else match arg.toList with
    | '-' :: '-' :: _ => p.takeLong command arg
    | '-' :: c :: rest => p.takeShort command arg (c :: rest)
    | _ => p.takeWord command arg

/-- The command with what its arguments have said. -/
def finish (p : Progress) (command : CommandName) : Except UsageError Command := do
  let p ← p.settle
  match command, p.query with
  | .parse, some query => .ok (.parse query p.flags)
  | .filter, some query => .ok (.filter query p.flags)
  | .keywords, _ => .ok (.keywords p.flags.json)
  | .config, _ => .ok .config
  | _, none => .error .noQuery

end Progress

/-! ## Reading all arguments -/

/-- Why the arguments behind the word `help` give no command: help is asked for, about
the commands in general or about one, unless there is no such command. -/
def helpAbout : List String → UsageError
  | [] | ["help"] => .help
  | [name] => if (CommandName.ofText? name).isSome then .help else .unknownCommand
  | _ => .unknownCommand

/-- Why an argument where a command is wanted is none. -/
def notACommand (arg : String) (rest : List String) : UsageError :=
  match arg.toList with
  | ['-', '-'] =>
    match rest with
    | [] => .noCommand
    | name :: _ =>
      if name = "help" ∨ (CommandName.ofText? name).isSome then .unknownArgument
      else .unknownCommand
  | '-' :: '-' :: _ =>
    match splitFlag arg.toList with
    | ("help", none) => .help
    | ("help", some _) => .unwantedValue
    | _ => .unknownArgument
  | '-' :: 'h' :: _ => .help
  | '-' :: _ :: _ => .unknownArgument
  | _ => .unknownCommand

/-- The command that the arguments of the program stand for. -/
def Command.ofArguments : List String → Except UsageError Command
  | [] => .error .noCommand
  | "help" :: rest => .error (helpAbout rest)
  | name :: rest =>
    match CommandName.ofText? name with
    | some command => do
      let p ← rest.foldlM (Progress.take command) {}
      p.finish command
    | none => .error (notACommand name rest)

end WikiSearch.CommandLine
