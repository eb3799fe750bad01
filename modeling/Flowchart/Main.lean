import Flowchart.Cli.Run

/-!
# The Program

The command line on the files of a machine. Results go to standard output, and
what goes wrong to standard error.

## Main definitions

* `Cli.machine`: The files of a machine as a host.
* `Cli.start`: A run on the arguments of the program.
-/

namespace Flowchart

namespace Cli

/-- What is printed when help is asked for. -/
def helpText : String :=
  "Usage: flowsmith [OPTIONS] <COMMAND>\n\n" ++
  "Commands:\n" ++
  "  compile    Compile a diagram (JSON) into flowchart text\n" ++
  "  lint       Check flowchart text for constructs the grammar rejects\n" ++
  "  partition  Split a diagram (JSON) into a linked pack (JSON)\n" ++
  "  repair     Repair a diagram (JSON) and print it with its reasons\n" ++
  "  help       Print this message\n\n" ++
  "Options:\n" ++
  "  -c, --config <CONFIG>        Path to configuration file (TOML)\n" ++
  "      --log-level <LOG_LEVEL>  Log level\n" ++
  "  -o, --output <OUTPUT>        Output path, stdout if omitted\n" ++
  "  -d, --direction <DIRECTION>  Flow direction (TB, TD, BT, LR, RL)\n" ++
  "      --parts <PARTS>          Split into exactly this many diagrams\n" ++
  "  -h, --help                   Print help\n" ++
  "  -V, --version                Print version"

/-- What is printed when the version is asked for. -/
def versionText : String := "flowsmith 0.1.0"

/-- A misuse in words. -/
def Misuse.text : Misuse → String
  | .help | .nothing => helpText
  | .version => versionText
  | .noCommand => "error: a command is required"
  | .unknownCommand => "error: unrecognized command"
  | .unknownArgument => "error: unexpected argument"
  | .noInput => "error: no input path"
  | .noValue => "error: an option lacks its value"
  | .badValue => "error: invalid value for an option"
  | .surplusValue => "error: an option takes no value"
  | .repeated => "error: an option is given more than once"

/-- A diagnostic in words. -/
def Diagnostic.line (d : Diagnostic) : String :=
  String.ofList <| d.code ++ ": ".toList ++ d.text ++
    match d.help? with
    | some help => "\n  help: ".toList ++ help
    | none => []

/-- The number of a system error, which some calls give with its sign turned. -/
def errorNumber (n : UInt32) : UInt32 := min n (-n)

/-- The error of a file. -/
def FileError.ofIO (e : IO.Error) : FileError :=
  match e with
  | .noFileOrDirectory .. => .missing
  | .inappropriateType _ n _ => if errorNumber n = 20 then .notDirectory else .isDirectory
  | .invalidArgument _ n _ =>
    if errorNumber n = 36 then .tooLong else .other e.toString.toList
  | e => .other e.toString.toList

/-- The files of a machine. -/
def machine (userConfig : Option Text) : Host IO where
  read path := do
    try
      match String.fromUTF8? (← IO.FS.readBinFile (String.ofList path)) with
      | some s => return .ok s.toList
      | none => return .error .notText
    catch e => return .error (.ofIO e)
  isThere path := do
    try
      let _ ← IO.FS.readBinFile (String.ofList path)
      return true
    catch e => return FileError.ofIO e ∉ [.missing, .notDirectory, .tooLong]
  write path t := do
    try
      IO.FS.writeFile (String.ofList path) (String.ofList t)
      return .ok ()
    catch e => return .error (.ofIO e)
  print t := IO.print (String.ofList t)
  userConfig

/-- The directory that a variable of the environment names by its full path. -/
def directory? (name : String) : IO (Option String) :=
  return (← IO.getEnv name).filter (·.startsWith "/")

/-- The file with the user's own settings. -/
def userConfigFile : IO (Option Text) := do
  match ← directory? "XDG_CONFIG_HOME" with
  | some dir => return some (dir ++ "/flowsmith/config.toml").toList
  | none =>
    return (← directory? "HOME").map fun home => (home ++ "/.config/flowsmith/config.toml").toList

/-- The arguments read, and the run they ask for made. -/
def start (args : List String) : IO UInt32 := do
  match Args.parse (args.map String.toList) with
  | .error .help =>
    IO.println helpText
    return 0
  | .error .version =>
    IO.println versionText
    return 0
  | .error e =>
    IO.eprintln e.text
    return 2
  | .ok a =>
    match ← run (machine (← userConfigFile)) a with
    | .ok () => return 0
    | .error e =>
      for d in e.diagnostics do
        IO.eprintln d.line
      return 1

end Cli

end Flowchart

/-- The program. -/
def main (args : List String) : IO UInt32 := Flowchart.Cli.start args
