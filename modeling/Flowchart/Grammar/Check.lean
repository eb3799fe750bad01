import Flowchart.Grammar.Statement
import Flowchart.Text.Lines

/-!
# The Grammar

A text is accepted if it begins with a header, every line after that is a
statement, and every block that is opened is closed again. Empty lines and
comments may stand anywhere. A line may end in one semicolon, which is passed
over.

Lines are checked from the top, and the first one that is wrong decides what is
reported. What has been read is the number of blocks still open, so checking a
line looks neither ahead nor further back than that.

## Main definitions

* `Grammar.Progress`: What is known after some lines.
* `Grammar.Progress.line`: What one more line does.
* `Grammar.check`: Whether a text is accepted.
-/

namespace Flowchart

namespace Grammar

/-- What is known after some lines: whether the header has been read, how many
    blocks are open, and how many lines there were. -/
structure Progress where
  headerSeen : Bool := false
  depth : Nat := 0
  lines : Nat := 0
deriving DecidableEq, Repr

/-- A line without outer blanks and without one closing semicolon. -/
def body (raw : Text) : Text :=
  let trimmed := raw.trim
  Text.trimEnd ((Text.dropSuffix? [';'] trimmed).getD trimmed)

/-- A line that says nothing: it is empty or a comment. -/
def isIdle (line : Text) : Bool := line.isEmpty || "%%".toList.isPrefixOf line

/-- The first line that says something is a header with an optional
    direction. -/
def header (line : Text) : Reading Unit :=
  let keyword := word line
  if keyword = "flowchart".toList || keyword = "graph".toList then
    let direction := Text.trim (line.drop keyword.length)
    if direction.isEmpty || (Direction.ofText? direction).isSome then .ok ()
    else .error (.unexpected .invalidDirection "DIR" (describe direction))
  else .error (.noHeader line)

/-- What a statement does to the number of open blocks. -/
def Effect.apply (e : Effect) (depth : Nat) : Reading Nat :=
  match e, depth with
  | .none, depth => .ok depth
  | .opens, depth => .ok (depth + 1)
  | .closes, 0 => .error .unmatchedEnd
  | .closes, depth + 1 => .ok depth

/-- What one more line does to what is known. -/
def Progress.read (p : Progress) (raw : Text) : Reading Progress :=
  let line := body raw
  if isIdle line then .ok p
  else if !p.headerSeen then do
    header line
    return { p with headerSeen := true }
  else match line.find? (!isAsciiChar ·) with
    | some c => .error (.foreignChar c)
    | none => do
      let effect ← statement line
      return { p with depth := ← effect.apply p.depth }

/-- One more line, which is counted. -/
def Progress.line (p : Progress) (raw : Text) : Except Rejection Progress :=
  let number := p.lines + 1
  match p.read raw with
  | .ok q => .ok { q with lines := number }
  | .error cause => .error ⟨cause, number⟩

/-- What is wrong at the end of a text, if anything. -/
def Progress.finish (p : Progress) : Except Rejection Unit :=
  if !p.headerSeen then .error ⟨.noHeader [], 1⟩
  else if 0 < p.depth then .error ⟨.unexpected .unclosedBlock "end" "EOF".toList, p.lines⟩
  else .ok ()

/-- Whether a text is accepted, and if not, the first thing that is wrong. -/
def check (t : Text) : Except Rejection Unit := do (← t.lines.foldlM Progress.line {}).finish

end Grammar

end Flowchart
