import Flowchart.Text.Basic

/-!
# The Host of a Run

A run reads settings and a diagram, and writes a file or prints a text. What it
needs for that is a record of four actions in any monad, so that the same run
works on the files of a machine and on a folder in memory.

## Main definitions

* `Cli.FileError`: Why a file cannot be read or written.
* `Cli.Host`: What a run can do.
-/

namespace Flowchart

namespace Cli

/-- Why a file cannot be read or written. -/
inductive FileError where
  | missing
  /-- A file stands where the path has a directory. -/
  | notDirectory
  | isDirectory
  /-- The file holds no text. -/
  | notText
  /-- The path holds a character that no path can hold. -/
  | badPath
  /-- The path, or a name in it that is looked up, is too long. -/
  | tooLong
  | other (reason : Text)
deriving DecidableEq, Repr

/-- The error in words. -/
def FileError.message : FileError → Text
  | .missing => "No such file or directory (os error 2)".toList
  | .notDirectory => "Not a directory (os error 20)".toList
  | .isDirectory => "Is a directory (os error 21)".toList
  | .notText => "stream did not contain valid UTF-8".toList
  | .badPath => "file name contained an unexpected NUL byte".toList
  | .tooLong => "File name too long (os error 36)".toList
  | .other reason => reason

/-- What a run can do. -/
structure Host (m : Type → Type) where
  read : Text → m (Except FileError Text)
  /-- Something is there at a path. -/
  isThere : Text → m Bool
  write : Text → Text → m (Except FileError Unit)
  print : Text → m Unit
  /-- The file with the user's own settings, if the user has a place for them. -/
  userConfig : Option Text

end Cli

end Flowchart
