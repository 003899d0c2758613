import FilecoinRosetta.CommandLine
import FilecoinRosetta.Startup

/-!
# The program

The program gathers its arguments, the environment and the files that may hold
settings, and does what it is told. Requests to a node are carried by whoever
embeds the library; the program on its own has no way to a node, so that a start
ends once all tries have failed.
-/

open FilecoinRosetta

namespace FilecoinRosetta.CommandLine

/-- What is found at a path. -/
def contentAt (path : String) : IO (Option Configuration.FileContent) := do
  try
    return some (.text (← IO.FS.readFile path))
  catch cause =>
    match cause with
    | .noFileOrDirectory _ _ _ => return none
    | _ => return some .unreadable

/-- The variables that matter. -/
def variableNames : List String :=
  [Configuration.fileVariable, Configuration.urlVariable, Configuration.tokenVariable,
   Configuration.taggedVariable, Configuration.safeVariable, Configuration.portVariable,
   "XDG_CONFIG_HOME", "HOME"]

/-- What the program finds around it. -/
def surroundings (options : Configuration.Options) : IO Configuration.Surroundings := do
  let values ← variableNames.filterMapM fun name => do
    return (← IO.getEnv name).map fun value => (name, value)
  let environment? (name : String) : Option String := values.lookup name
  let userFile := Configuration.userPath? environment?
  let paths := options.file.toList ++ (environment? Configuration.fileVariable).toList ++
      userFile.toList
  let files ← paths.filterMapM fun path => do
    return (← contentAt path).map fun content => (path, content)
  return { environment?, file? := fun path => files.lookup path, userFile }

/-- Run a program in real time. -/
def perform {α : Type} (node : Node) : Program α → Session → IO α
  | .done result, _ => return result
  | .ask call next, session =>
      perform node (next (node.answer session.past call))
        { session with past := .asked call :: session.past }
  | .consult name next, session => perform node (next (session.cache.entry name)) session
  | .learn name fact next, session =>
      perform node next { session with cache := session.cache.learn name fact }
  | .wait span next, session => do
      IO.sleep (UInt32.ofNat span.millis)
      perform node next { session with past := .waited span :: session.past }

/-- Report why nothing is served. -/
def report (error : StartupError) : IO UInt32 := do
  IO.eprintln ("Error: " ++ error.message)
  match error.cause? with
  | some cause => IO.eprintln ("\nCaused by:\n    " ++ cause)
  | none => pure ()
  return 1

/-- Start without a way to the node. -/
def start (surroundings : Configuration.Surroundings) (options : Configuration.Options) :
    IO UInt32 := do
  let prepared := do
    let configuration ← Startup.settings surroundings options
    return (configuration, ← Startup.client configuration)
  match prepared with
  | .error error => report error
  | .ok (configuration, client) =>
      let node := client.node (Network.ofName "") fun _ _ => .lost
      match ← perform node (Startup.service configuration client) Session.fresh with
      | .error error => report error
      | .ok service => do
          IO.println ("Serving network " ++ service.networkName)
          return 0

/-- Print the settings in effect. -/
def dump (surroundings : Configuration.Surroundings) (options : Configuration.Options) :
    IO UInt32 := do
  match Configuration.load surroundings options with
  | .error cause => report (.configuration cause)
  | .ok loaded => do
      IO.print loaded.configuration.text
      return 0

/-- How the program is used. -/
def usage : String :=
  "Usage: forest-rosetta [OPTIONS] [COMMAND]\n\n" ++
  "Commands:\n" ++
  "  run          Serve (the default)\n" ++
  "  config dump  Print the settings in effect\n\n" ++
  "Options:\n" ++
  "  --config <FILE>          The file of settings\n" ++
  "  --rpc-url <URL>          Where the node is\n" ++
  "  --listen <ADDRESS>       Where to listen\n" ++
  "  --log-format <FORMAT>    text or json\n" ++
  "  -h, --help               Print this\n" ++
  "  -V, --version            Print the version"

/-- Answer arguments that ask for nothing that can be done, or for help alone. -/
def explain : UsageError → IO UInt32
  | .help => do
      IO.println usage
      return 0
  | .version => do
      IO.println "forest-rosetta 0.1.0"
      return 0
  | _ => do
      IO.eprintln usage
      return 2

end FilecoinRosetta.CommandLine

/-- Do what the arguments ask for. -/
def main (arguments : List String) : IO UInt32 := do
  match CommandLine.parse arguments with
  | .error error => CommandLine.explain error
  | .ok request => do
      let surroundings ← CommandLine.surroundings request.options
      match request.command with
      | some .dumpConfiguration => CommandLine.dump surroundings request.options
      | _ => CommandLine.start surroundings request.options
