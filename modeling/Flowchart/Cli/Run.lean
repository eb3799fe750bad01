import Flowchart.Build.Json
import Flowchart.Cli.Args
import Flowchart.Cli.Diagnostic
import Flowchart.Cli.Host
import Flowchart.Toml.Dialect
import Flowchart.Toml.Document

/-!
# Runs

A run loads its settings and then carries out its command. Settings come from
the file that is named, which must be there, or else from the first file that is
there: the one in the working directory, and then the user's own. Without any of
them there are the defaults.

There is no generator behind the command line. A diagram builds if the grammar
accepts it as it stands, or after repairs.

## Main definitions

* `Cli.loadSettings`: The settings of a run.
* `Cli.run`: A whole run.
-/

namespace Flowchart

namespace Cli

/-- The settings of a text. -/
def settingsOf (t : Text) : Except RunError Settings :=
  match (Toml.parse? t).map (Settings.decode Toml.dialect) with
  | some (.ok s) => .ok s
  | _ => .error (.setup (.config "Failed to parse TOML configuration: <toml>".toList))

/-- The file in the working directory that holds settings. -/
def localConfig : Text := "flowsmith/config.toml".toList

/-- The direction of a text that is a diagram, and downwards for any other. -/
def ownDirection (t : Text) : Direction :=
  match Diagram.parse? t with
  | .ok d => d.direction
  | .error _ => .down

/-- What a repair is reported as. -/
def repairJson (s : Success) : Json :=
  .record [
    ("ir", some s.diagram.toJson),
    ("text", some (.str (s.texts.head?.getD []))),
    ("reasons", some s.reasons.toJson)]

section

variable {m : Type → Type} [Monad m] (h : Host m)

/-- The text of a file. -/
def readFile (path : Text) : ExceptT RunError m Text := do
  match ← h.read path with
  | .ok t => return t
  | .error e => throw (.setup (.io e.message))

/-- The settings of a file, which must be there. -/
def loadFile (path : Text) : ExceptT RunError m Settings := do
  if ← h.isThere path then
    match settingsOf (← readFile h path) with
    | .ok s => return s
    | .error e => throw e
  else throw (.setup (.config ("Missing configuration file: ".toList ++ path)))

/-- The settings of the first file that is there. -/
def loadFirst : List Text → ExceptT RunError m Settings
  | [] => return {}
  | path :: paths => do if ← h.isThere path then loadFile h path else loadFirst paths

/-- The settings of a run. -/
def loadSettings : Option Text → ExceptT RunError m Settings
  | some path => loadFile h path
  | none => loadFirst h (localConfig :: h.userConfig.toList)

/-- A text written to a file, or printed on a line if no file is named. -/
def emit (target : Option Text) (t : Text) : ExceptT RunError m Unit := do
  match target with
  | none => h.print (t ++ ['\n'])
  | some path =>
    match ← h.write path t with
    | .ok () => return ()
    | .error e => throw (.setup (.io e.message))

/-- The diagram of a file, built. -/
def build (s : Settings) (input : Text) (direction : Option Direction) (split : Partition.Options) :
    ExceptT RunError m Success := do
  let source ← readFile h input
  match ((Engine.offline s).fromSpec source (direction.getD (ownDirection source)) split ()).1 with
  | .ok success => return success
  | .error f => throw (.build f)

/-- The diagram of a file, built and split as the arguments ask for. -/
def buildFor (s : Settings) (a : BuildArgs) : ExceptT RunError m Success :=
  build h s a.input a.direction ((a.parts.map Partition.Options.byCount).getD s.split)

/-- A command carried out. -/
def execute (s : Settings) : Command → ExceptT RunError m Unit
  | .compile a => do
    let success ← buildFor h s a
    emit h a.output (Text.join ['\n', '\n'] success.texts)
  | .partition a => do
    let success ← buildFor h s a
    emit h a.output success.toJson.indented
  | .lint input => do
    let report := Lint.lint (← readFile h input)
    if report.ok then emit h none report.text else throw (.lint report)
  | .repair input output => do
    let success ← build h s input none { mode := .none }
    emit h output (repairJson success).indented

/-- A whole run. -/
def run (a : Args) : m (Except RunError Unit) := do
  (do execute h (← loadSettings h a.config) a.command : ExceptT RunError m Unit).run

end

end Cli

end Flowchart
