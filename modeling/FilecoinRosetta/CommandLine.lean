import FilecoinRosetta.Configuration.Sources

/-!
# The command line

Options come first, then a command, which has no options of its own but the one for
help. An option has its value behind an equals sign or as the next argument. In the
latter case the value is checked once the next option or the end of the arguments
is reached, so that an argument which is not known is reported first, and so is
what is wrong with a command.
-/

namespace FilecoinRosetta.CommandLine

/-- What to do. -/
inductive Command where
  /-- Serve. -/
  | run
  /-- Print the settings in effect. -/
  | dumpConfiguration
  deriving DecidableEq, Repr

/-- Why arguments ask for nothing that can be done, or for help alone. -/
inductive UsageError where
  /-- An option or argument is not known. -/
  | unknownArgument
  /-- An option has no value, or none of the possible ones. -/
  | invalidValue
  /-- The value of an option cannot be read. -/
  | unreadableValue
  /-- An option is given twice. -/
  | conflict
  /-- An option that takes no value has one. -/
  | needlessValue
  /-- A command is not known. -/
  | unknownCommand
  /-- Help is asked for. -/
  | help
  /-- The version is asked for. -/
  | version
  /-- Help is needed, because the command is incomplete. -/
  | incomplete
  deriving DecidableEq, Repr

/-- What the arguments ask for. -/
structure Request where
  command : Option Command
  options : Configuration.Options
  deriving DecidableEq, Repr

/-- The options by name. -/
inductive OptionName where
  /-- The file to read. -/
  | config
  /-- The URL of the node. -/
  | rpcUrl
  /-- The address to listen on. -/
  | listen
  | logFormat
  deriving DecidableEq, Repr

/-- The option of a name. -/
def OptionName.of? (name : String) : Option OptionName :=
  if name = "config" then some config
  else if name = "rpc-url" then some rpcUrl
  else if name = "listen" then some listen
  else if name = "log-format" then some logFormat
  else none

/-- An argument by its form. -/
inductive Shape where
  /-- Two hyphens alone: no options follow. -/
  | separator
  /-- A long option, with the value behind an equals sign. -/
  | long (name : String) (value : Option String)
  /-- Short options behind one hyphen. -/
  | short (letters : List Char)
  /-- Anything else. -/
  | word
  deriving DecidableEq, Repr

/-- The form of an argument. One hyphen alone is a word. -/
def Shape.of (argument : String) : Shape :=
  match argument.toList with
  | ['-', '-'] => separator
  | '-' :: '-' :: rest =>
      let value := match rest.dropWhile (· != '=') with
        | [] => none
        | _ :: value => some (String.ofList value)
      long (String.ofList (rest.takeWhile (· != '='))) value
  | ['-'] => word
  | '-' :: letters => short letters
  | _ => word

/-! ## Commands -/

/-- What a first short option asks for, where only help is known. -/
def helpLetter : List Char → UsageError
  | 'h' :: _ => .help
  | _ => .unknownArgument

/-- What a long option asks for, where only help is known. -/
def helpOption (name : String) (value : Option String) : UsageError :=
  if name = "help" then (if value.isSome then .needlessValue else .help) else .unknownArgument

/-- Arguments of a command that takes none. -/
def endOfCommand : List String → Except UsageError Unit
  | [] => .ok ()
  | argument :: rest =>
      match Shape.of argument with
      | .separator => if rest.isEmpty then .ok () else .error .unknownArgument
      | .long name value => .error (helpOption name value)
      | .short letters => .error (helpLetter letters)
      | .word => .error .unknownArgument

/-- The command whose help is asked for: each word names a command
of the one before. -/
def helpAbout : List String → UsageError
  | [] => .help
  | ["help"] => .help
  | ["run"] => .help
  | ["config"] => .help
  | ["config", "dump"] => .help
  | ["config", "help"] => .help
  | _ => .unknownCommand

/-- The command behind the word for configurations. -/
def configurationCommand : List String → Except UsageError Command
  | [] => .error .incomplete
  | "dump" :: rest => do
      endOfCommand rest
      return .dumpConfiguration
  | "help" :: rest =>
      .error (if rest = [] ∨ rest = ["dump"] ∨ rest = ["help"] then .help else .unknownCommand)
  | argument :: rest =>
      match Shape.of argument with
      | .separator =>
          match rest with
          | [] => .error .incomplete
          | word :: _ =>
              if word = "dump" ∨
                word = "help" then .error .unknownArgument else .error .unknownCommand
      | .long name value => .error (helpOption name value)
      | .short letters => .error (helpLetter letters)
      | .word => .error .unknownCommand

/-- The command of a word and the arguments behind it. -/
def command (word : String) (rest : List String) : Except UsageError Command :=
  if word = "run" then do
    endOfCommand rest
    return .run
  else if word = "config" then configurationCommand rest
  else if word = "help" then .error (helpAbout rest)
  else .error .unknownCommand

/-! ## Options -/

/-- An option whose value is not checked yet. -/
structure Pending where
  name : OptionName
  value : Option String
  deriving DecidableEq, Repr

/-- Set an option once; a second time is a conflict. -/
def setOnce {α : Type} (before : Option α) (read : Except UsageError α) :
    Except UsageError (Option α) :=
  if before.isSome then .error .conflict else read.map some

/-- The format of logs. -/
def readFormat (value : String) : Except UsageError Bool :=
  if value = "text" then .ok false
  else if value = "json" then .ok true
  else .error .invalidValue

/-- An address to listen on. -/
def readListen (value : String) : Except UsageError Internet.SocketAddress :=
  match Internet.SocketAddress.parse? value with
  | some address => .ok address
  | none => .error .unreadableValue

/-- The path of a file, which may not be empty. -/
def readPath (value : String) : Except UsageError String :=
  if value = "" then .error .invalidValue else .ok value

/-- Check the value of an option and set it. -/
def settle (options : Configuration.Options) :
    Option Pending → Except UsageError Configuration.Options
  | none => .ok options
  | some ⟨_, none⟩ => .error .invalidValue
  | some ⟨.config, some value⟩ => do
      return { options with file := ← setOnce options.file (readPath value) }
  | some ⟨.rpcUrl, some value⟩ => do
      return { options with url := ← setOnce options.url (.ok value) }
  | some ⟨.listen, some value⟩ => do
      return { options with listen := ← setOnce options.listen (readListen value) }
  | some ⟨.logFormat, some value⟩ => do
      return { options with jsonLogs := ← setOnce options.jsonLogs (readFormat value) }

/-- A refusal. Help and the version are shown only if the options in
front are in order. -/
def refuse {α : Type} (options : Configuration.Options) (pending : Option Pending) :
    UsageError → Except UsageError α
  | .help => do
      let _ ← settle options pending
      .error .help
  | .version => do
      let _ ← settle options pending
      .error .version
  | error => .error error

/-- What short options ask for. -/
def lettersError : List Char → UsageError
  | 'h' :: _ => .help
  | 'V' :: _ => .version
  | _ => .unknownArgument

/-- What a long option that takes no value asks for. -/
def flagError (name : String) (value : Option String) : UsageError :=
  if name = "help" then (if value.isSome then .needlessValue else .help)
  else if name = "version" then (if value.isSome then .needlessValue else .version)
  else .unknownArgument

/-- What an argument stands for that should be a command but follows two
hyphens or is none. -/
def strayWord (behindSeparator : Bool) (word : String) : UsageError :=
  if behindSeparator ∧
    ["run", "config", "help"].contains word then .unknownArgument else .unknownCommand

/-- Read arguments; `options` are settled and `pending` is the option before. -/
def readArguments (options : Configuration.Options) (pending : Option Pending) :
    List String → Except UsageError Request
  | [] => do
      return ⟨none, ← settle options pending⟩
  | argument :: rest =>
      match Shape.of argument with
      | .separator =>
          match rest with
          | [] => do
              return ⟨none, ← settle options pending⟩
          | word :: _ => .error (strayWord true word)
      | .long name value =>
          match OptionName.of? name, value with
          | some option, none => do
              let settled ← settle options pending
              readArguments settled (some ⟨option, none⟩) rest
          | some option, some value => do
              let settled ← settle (← settle options pending) (some ⟨option, some value⟩)
              readArguments settled none rest
          | none, value => refuse options pending (flagError name value)
      | .short letters => refuse options pending (lettersError letters)
      | .word =>
          match pending with
          | some ⟨option, none⟩ => readArguments options (some ⟨option, some argument⟩) rest
          | pending =>
              if ["run", "config", "help"].contains argument then do
                let command ← command argument rest
                return ⟨some command, ← settle options pending⟩
              else .error (strayWord false argument)

/-- Read the arguments behind the program's name. -/
def parse (arguments : List String) : Except UsageError Request :=
  readArguments .none none arguments

end FilecoinRosetta.CommandLine
