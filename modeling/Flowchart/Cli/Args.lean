import Flowchart.Diagram.Basic
import Flowchart.Number.Word
import Flowchart.Text.Basic

/-!
# Command Line Arguments

Arguments are read from the front in two rounds: those before the name of the
command, and those after it. Either round may hold the options that are common
to all commands.

A value can be attached to its option or be the next argument. In the second
case the option stays open until something else begins, and only then is its
value looked at. So of two mistakes the one in an open value is reported after
an unknown option, but before a missing input.

Two dashes by themselves end the options, and what begins with a dash before
them is never a value.

## Main definitions

* `Cli.Args`: What the arguments ask for.
* `Cli.Misuse`: Why there is nothing to run.
* `Cli.Token`: What one argument looks like.
* `Cli.Round`: What has been read of a round.
* `Cli.Args.parse`: The arguments of a run.
-/

namespace Flowchart

namespace Cli

/-! ### What is asked for -/

/-- The arguments of a command that builds a diagram. -/
structure BuildArgs where
  input : Text
  output : Option Text := none
  direction : Option Direction := none
  /-- The number of diagrams to split into. -/
  parts : Option Nat := none
deriving DecidableEq, Repr

/-- What to do, and with which files. -/
inductive Command where
  | compile (a : BuildArgs)
  | partition (a : BuildArgs)
  | lint (input : Text)
  | repair (input : Text) (output : Option Text)
deriving DecidableEq, Repr

/-- The arguments of a run. -/
structure Args where
  command : Command
  /-- The file with the settings. -/
  config : Option Text := none
deriving DecidableEq, Repr

/-- Why there is nothing to run. -/
inductive Misuse where
  /-- Help is asked for. -/
  | help
  /-- The version is asked for. -/
  | version
  /-- There are no options and no command. -/
  | nothing
  /-- There are options, but no command. -/
  | noCommand
  | unknownCommand
  | unknownArgument
  | noInput
  /-- An option without its value. -/
  | noValue
  /-- A value that the option does not admit. -/
  | badValue
  /-- An option that takes no value is given one. -/
  | surplusValue
  /-- An option is given twice. -/
  | repeated
deriving DecidableEq, Repr

/-- The names of the commands. -/
inductive CommandName where
  | compile
  | lint
  | partition
  | repair
deriving DecidableEq, Repr

namespace CommandName

/-- How a command is written. -/
def name : CommandName → String
  | .compile => "compile"
  | .lint => "lint"
  | .partition => "partition"
  | .repair => "repair"

/-- All commands. -/
def all : List CommandName := [.compile, .lint, .partition, .repair]

/-- A command by name. -/
def ofText? (t : Text) : Option CommandName := all.find? (·.name.toList = t)

end CommandName

/-- The command that explains the others. -/
def helpCommand : Text := "help".toList

/-- The options that take a value. -/
inductive Setting where
  | config
  | logLevel
  | output
  | direction
  | parts
deriving DecidableEq, Repr

/-- A number of parts: digits, perhaps after a plus sign, that fit a 64-bit
    word. -/
def partCount? (t : Text) : Option Nat :=
  let digits := match t with
    | '+' :: r => r
    | r => r
  if digits.isEmpty || !digits.all Char.isDigit then none
  else
    let n := digits.foldl (fun n c => n * 10 + (c.toNat - '0'.toNat)) 0
    if n < wordLimit then some n else none

namespace Setting

/-- The long name of an option. -/
def long : Setting → String
  | .config => "config"
  | .logLevel => "log-level"
  | .output => "output"
  | .direction => "direction"
  | .parts => "parts"

/-- The letter of an option. -/
def letter? : Setting → Option Char
  | .config => some 'c'
  | .output => some 'o'
  | .direction => some 'd'
  | .logLevel | .parts => none

/-- A text can be the value of an option. -/
def admits (s : Setting) (value : Text) : Bool :=
  match s with
  | .direction => (Direction.ofText? value).isSome
  | .parts => (partCount? value).isSome
  | .config | .logLevel | .output => true

/-- The options that every round admits. -/
def common : List Setting := [.config, .logLevel]

/-- The options of a command. -/
def ofCommand : CommandName → List Setting
  | .compile | .partition => common ++ [.output, .direction, .parts]
  | .repair => common ++ [.output]
  | .lint => common

end Setting

/-! ### What arguments look like -/

/-- What an argument looks like. -/
inductive Token where
  /-- Two dashes. -/
  | endOfOptions
  /-- A name after two dashes, perhaps with a value attached. -/
  | long (name : Text) (attached : Option Text)
  /-- A letter after one dash, perhaps with a value attached. -/
  | short (letter : Char) (attached : Option Text)
  | plain (t : Text)
deriving DecidableEq, Repr

/-- What an argument looks like. A dash by itself is like any other text. -/
def Token.ofText (t : Text) : Token :=
  match t with
  | ['-', '-'] => .endOfOptions
  | '-' :: '-' :: r =>
    match Text.cut? ['='] r with
    | some (name, value) => .long name (some value)
    | none => .long r none
  | '-' :: c :: r =>
    match r with
    | [] => .short c none
    | '=' :: value => .short c (some value)
    | value => .short c (some value)
  | t => .plain t

/-- What an option is known as. -/
inductive Flag where
  | help
  | version
  | setting (s : Setting)
deriving DecidableEq, Repr

/-! ### One round -/

/-- What has been read of a round. -/
structure Round where
  /-- The options that the round admits. -/
  settings : List Setting
  /-- The version can be asked for. -/
  hasVersion : Bool := false
  /-- The values of the options read so far. -/
  values : List (Setting × Text) := []
  /-- The option that is open, with its value if there has been one. -/
  pending : Option (Setting × Option Text) := none
  input : Option Text := none
  /-- The options have been ended. -/
  ended : Bool := false
deriving DecidableEq, Repr

namespace Round

/-- The option with a long name. -/
def long? (r : Round) (name : Text) : Option Flag :=
  if name = "help".toList then some .help
  else if r.hasVersion && name = "version".toList then some .version
  else (r.settings.find? (·.long.toList = name)).map .setting

/-- The option with a letter. -/
def short? (r : Round) (c : Char) : Option Flag :=
  if c = 'h' then some .help
  else if r.hasVersion && c = 'V' then some .version
  else (r.settings.find? (·.letter? = some c)).map .setting

/-- The value of an option. -/
def value? (r : Round) (s : Setting) : Option Text := (r.values.find? (·.1 = s)).map (·.2)

/-- An option takes a value. -/
def assign (r : Round) (s : Setting) (value : Text) : Except Misuse Round :=
  if (r.value? s).isSome then .error .repeated
  else if s.admits value then .ok { r with values := (s, value) :: r.values }
  else .error .badValue

/-- The open option takes its value. -/
def close (r : Round) : Except Misuse Round :=
  match r.pending with
  | none => .ok r
  | some (_, none) => .error .noValue
  | some (s, some value) => { r with pending := none }.assign s value

/-- An option has been read, perhaps with a value attached. One that asks for
    something else than a run ends the reading, and so does one that is
    unknown. -/
def option (r : Round) (flag : Option Flag) (attached : Option Text) : Except Misuse Round :=
  match flag with
  | none => .error .unknownArgument
  | some (.setting s) => do
    let r ← r.close
    match attached with
    | some value => r.assign s value
    | none => .ok { r with pending := some (s, none) }
  | some .help => r.close.bind fun _ => .error .help
  | some .version => r.close.bind fun _ => .error .version

/-- What an argument is to a round. -/
inductive Offer where
  /-- It is an option, the value of one, or the end of the options. -/
  | consumed (r : Round)
  /-- It is none of these. -/
  | free (t : Text)

/-- An argument offered to a round. -/
def offer (r : Round) (arg : Text) : Except Misuse Offer :=
  if r.ended then .ok (.free arg)
  else match Token.ofText arg with
    | .endOfOptions => .ok (.consumed { r with ended := true })
    | .long name attached =>
      match r.long? name, attached with
      | some .help, some _ => .error .surplusValue
      | some .version, some _ => .error .surplusValue
      | flag, attached => (r.option flag attached).map .consumed
    | .short letter attached => (r.option (r.short? letter) attached).map .consumed
    | .plain t =>
      match r.pending with
      | some (s, none) => .ok (.consumed { r with pending := some (s, some t) })
      | _ => .ok (.free t)

/-- A free text is the input, unless there is one already. -/
def takeInput (r : Round) (t : Text) : Except Misuse Round :=
  if r.input.isSome then .error .unknownArgument
  else r.close.map fun r => { r with input := some t }

/-- An argument after the name of the command. -/
def step (r : Round) (arg : Text) : Except Misuse Round := do
  match ← r.offer arg with
  | .consumed r => .ok r
  | .free t => r.takeInput t

end Round

/-! ### Both rounds -/

/-- What the arguments after the name of a command ask for. -/
def Round.command (r : Round) (name : CommandName) : Except Misuse Command :=
  match r.input with
  | none => .error .noInput
  | some input =>
    let build : BuildArgs :=
      { input
        output := r.value? .output
        direction := (r.value? .direction).bind Direction.ofText?
        parts := (r.value? .parts).bind partCount? }
    .ok <| match name with
      | .compile => .compile build
      | .partition => .partition build
      | .lint => .lint input
      | .repair => .repair input build.output

/-- The command of a run with its own round of arguments. -/
def readCommand (name : CommandName) (args : List Text) : Except Misuse (Command × Round) := do
  let r ← args.foldlM Round.step { settings := Setting.ofCommand name }
  let r ← r.close
  return (← r.command name, r)

/-- What is said about arguments after the command that explains the others. -/
def readHelp (args : List Text) : Misuse :=
  match args with
  | [] => .help
  | [t] => if t = helpCommand || (CommandName.ofText? t).isSome then .help else .unknownCommand
  | _ => .unknownCommand

/-- A text that is no command stands where a command should. -/
def strayText (r : Round) (t : Text) : Misuse :=
  if r.ended && (t = helpCommand || (CommandName.ofText? t).isSome) then .unknownArgument
  else .unknownCommand

/-- The arguments have ended without a command. -/
def noCommand (r : Round) : Misuse :=
  match r.close with
  | .error e => e
  | .ok r => if r.values.isEmpty then .nothing else .noCommand

/-- What the arguments ask for, where the first round is underway. -/
def readRound (r : Round) : List Text → Except Misuse Args
  | [] => .error (noCommand r)
  | arg :: args => do
    match ← r.offer arg with
    | .consumed r => readRound r args
    | .free t =>
      if r.ended then .error (strayText r t)
      else if t = helpCommand then .error (readHelp args)
      else match CommandName.ofText? t with
        | none => .error (strayText r t)
        | some name =>
          -- What the command says is looked at first, and then the option left open before it.
          let (command, own) ← readCommand name args
          let r ← r.close
          return { command, config := (own.value? .config).orElse fun _ => r.value? .config }

/-- What the arguments ask for. -/
def Args.parse (args : List Text) : Except Misuse Args :=
  readRound { settings := Setting.common, hasVersion := true } args

end Cli

end Flowchart
