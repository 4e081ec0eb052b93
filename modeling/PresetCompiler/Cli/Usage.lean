/-! Command lines with options and nested commands. A command line is read level by level: each
command has its own options, and the name of a command below it opens the next level. -/

namespace PresetCompiler.Cli

/-- Which texts an argument accepts. -/
inductive ValueKind
  /-- Any text. -/
  | text
  /-- Any text but the empty one. -/
  | path
  /-- One of several texts. -/
  | choice (names : List String)
  deriving DecidableEq, Repr

/-- What an option is for. -/
inductive OptionKind
  /-- Given at most once, without a value. -/
  | flag
  /-- Given any number of times, without a value. -/
  | counter
  /-- Given at most once, with a value. -/
  | value (kind : ValueKind)
  /-- Asks for help. -/
  | help
  /-- Asks for the version. -/
  | version
  deriving DecidableEq, Repr

/-- An option of a command. -/
structure OptionSpec where
  long : String
  short : Option Char := none
  kind : OptionKind
  deriving Repr

/-- An argument that is given by its place. -/
structure PlaceSpec where
  name : String
  kind : ValueKind
  isRequired : Bool
  deriving Repr

/-- A command: its options, its argument if it has one, the pairs of options that exclude each
other, and the commands below it, one of which is then wanted. -/
structure CommandSpec where
  name : String
  options : List OptionSpec
  place : Option PlaceSpec
  conflicts : List (String × String)
  commands : List CommandSpec

/-- Why a command line was not accepted, or what it asks for in place of a command. -/
inductive UsageFault
  | displayHelp
  | displayVersion
  /-- Nothing was given where a command is wanted. -/
  | helpForNothing
  | missingCommand
  | invalidCommand
  | unknownArgument
  | invalidValue
  | argumentConflict
  | missingArgument
  | tooManyValues
  deriving DecidableEq, Repr

/-- The word for the kind of a fault. -/
def UsageFault.name : UsageFault → String
  | displayHelp => "DisplayHelp"
  | displayVersion => "DisplayVersion"
  | helpForNothing => "DisplayHelpOnMissingArgumentOrSubcommand"
  | missingCommand => "MissingSubcommand"
  | invalidCommand => "InvalidSubcommand"
  | unknownArgument => "UnknownArgument"
  | invalidValue => "InvalidValue"
  | argumentConflict => "ArgumentConflict"
  | missingArgument => "MissingRequiredArgument"
  | tooManyValues => "TooManyValues"

/-- The name of the command that asks for help. -/
def helpCommand : String := "help"

/-- Whether an argument accepts a text. -/
def ValueKind.accepts (kind : ValueKind) (text : String) : Bool :=
  match kind with
  | .text => true
  | .path => text ≠ ""
  | .choice names => names.contains text

/-- An argument under way: its name, what it accepts, and its value once there is one. -/
structure Pending where
  name : String
  kind : ValueKind
  value : Option String

/-- What has been read of one level. -/
structure Level where
  command : CommandSpec
  /-- The arguments with their values, in the order in which they were accepted. -/
  given : List (String × String)
  pending : Option Pending
  /-- Whether the argument that is given by its place has been read. -/
  isPlaceTaken : Bool

namespace Level

/-- A level of which nothing has been read. -/
def start (command : CommandSpec) : Level :=
  ⟨command, [], none, false⟩

/-- Whether an argument has been accepted. -/
def has (level : Level) (name : String) : Bool :=
  level.given.any fun entry => entry.1 = name

/-- The value of an argument that has been accepted. -/
def value? (level : Level) (name : String) : Option String :=
  level.given.lookup name

/-- Accepts an argument that may be given once. -/
def accept (level : Level) (name value : String) : Except UsageFault Level :=
  if level.has name then .error .argumentConflict
  else .ok { level with given := level.given ++ [(name, value)] }

/-- Accepts the argument under way. -/
def settle (level : Level) : Except UsageFault Level :=
  match level.pending with
  | none => .ok level
  | some pending =>
    match pending.value with
    | none => .error .invalidValue
    | some value => do
      let settled ← { level with pending := none }.accept pending.name value
      if pending.kind.accepts value then .ok settled else .error .invalidValue

/-- Accepts an option without a value. -/
def switch (level : Level) (option : OptionSpec) : Except UsageFault Level := do
  let level ← level.settle
  match option.kind with
  | .help => .error .displayHelp
  | .version => .error .displayVersion
  | .counter => .ok { level with given := level.given ++ [(option.long, "")] }
  | _ => level.accept option.long ""

/-- Begins an option whose value stands in the next argument. -/
def await (level : Level) (option : OptionSpec) (kind : ValueKind) : Except UsageFault Level := do
  let level ← level.settle
  return { level with pending := some ⟨option.long, kind, none⟩ }

/-- Accepts an option with its value. -/
def attach (level : Level) (option : OptionSpec) (kind : ValueKind) (value : String) :
    Except UsageFault Level := do
  let level ← level.settle
  { level with pending := some ⟨option.long, kind, some value⟩ }.settle

/-- Whether an option still waits for its value. -/
def isWaiting (level : Level) : Bool :=
  level.pending.any fun pending => pending.value.isNone

/-- Gives the option that waits its value. -/
def supply (level : Level) (value : String) : Level :=
  { level with pending := level.pending.map fun pending => { pending with value := some value } }

/-- The command below a level with a name. -/
def command? (level : Level) (name : String) : Option CommandSpec :=
  level.command.commands.find? fun command => command.name = name

/-- Whether a word names a command below a level. -/
def isCommand (level : Level) (word : String) : Bool :=
  (level.command? word).isSome || (level.command.commands ≠ [] && word = helpCommand)

/-- Reads an option written with its long name, and its value when that is attached. -/
def longOption (level : Level) (text : List Char) : Except UsageFault Level :=
  let name := String.ofList (text.takeWhile (· ≠ '='))
  let attached := (text.dropWhile (· ≠ '=')).tail?
  match level.command.options.find? fun option => option.long = name with
  | none => .error .unknownArgument
  | some option =>
    match option.kind, attached with
    | .value kind, some value => level.attach option kind (String.ofList value)
    | .value kind, none => level.await option kind
    | _, some _ => .error .tooManyValues
    | _, none => level.switch option

/-- Reads options written with their short names. The rest after one that takes a value is its
value. -/
def shortOptions (level : Level) : List Char → Except UsageFault Level
  | [] => .ok level
  | c :: rest =>
    match level.command.options.find? fun option => option.short = some c with
    | none => .error .unknownArgument
    | some option =>
      match option.kind, rest with
      | .value kind, [] => level.await option kind
      | .value kind, '=' :: value => level.attach option kind (String.ofList value)
      | .value kind, value => level.attach option kind (String.ofList value)
      | _, rest => do (← level.switch option).shortOptions rest

/-- Reads an argument that no option takes. `escaped` says whether it follows a double dash. -/
def placed (level : Level) (escaped : Bool) (word : String) : Except UsageFault Level :=
  match level.command.place, level.isPlaceTaken with
  | some place, false => do
    let level ← level.settle
    return { level with pending := some ⟨place.name, place.kind, some word⟩, isPlaceTaken := true }
  | _, _ =>
    if level.command.commands = [] ∨ (escaped ∧ level.isCommand word) then .error .unknownArgument
    else .error .invalidCommand

/-- Checks a level that has been read, and whether a command below it was. -/
def finish (level : Level) (hasCommand : Bool) : Except UsageFault Level := do
  let level ← level.settle
  let wantsCommand := level.command.commands ≠ [] && !hasCommand
  if wantsCommand ∧ level.given = [] then .error .helpForNothing
  else if wantsCommand then .error .missingCommand
  else if level.command.conflicts.any fun (a, b) => level.has a && level.has b then
    .error .argumentConflict
  else if level.command.place.any fun place => place.isRequired && !level.isPlaceTaken then
    .error .missingArgument
  else .ok level

end Level

/-- The fault of a command that asks for help about the commands that follow it. -/
def helpFault (command : CommandSpec) : List String → UsageFault
  | [] => .displayHelp
  | word :: rest =>
    match command.commands.find? fun command => command.name = word with
    | some below => helpFault below rest
    | none =>
      if command.commands ≠ [] ∧ word = helpCommand ∧ rest = [] then .displayHelp
      else .invalidCommand

/-- Reads the arguments of a level and of those below it. `escaped` says whether a double dash has
been read; after it there are no options and no commands. -/
def readLevels (level : Level) (escaped : Bool) :
    List String → Except UsageFault (List Level)
  | [] => do return [← level.finish false]
  | word :: rest =>
    if escaped then do readLevels (← level.placed true word) true rest
    else
      match if level.isWaiting then none else level.command? word with
      | some command => do
        let below ← readLevels (.start command) false rest
        return (← level.finish true) :: below
      | none =>
        if !level.isWaiting ∧ level.isCommand word then .error (helpFault level.command rest)
        else
          match word.toList with
          | ['-', '-'] => readLevels level true rest
          | '-' :: '-' :: name => do readLevels (← level.longOption name) false rest
          | '-' :: c :: cs => do readLevels (← level.shortOptions (c :: cs)) false rest
          | _ =>
            if level.isWaiting then readLevels (level.supply word) false rest
            else do readLevels (← level.placed false word) false rest

/-- Reads the arguments of a command. The answer has a level for the command and one for each
command below it that was named. -/
def CommandSpec.read (command : CommandSpec) (args : List String) :
    Except UsageFault (List Level) :=
  readLevels (.start command) false args

end PresetCompiler.Cli
