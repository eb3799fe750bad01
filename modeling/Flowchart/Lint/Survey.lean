import Flowchart.Lint.Line
import Flowchart.Lint.Report
import Flowchart.Text.Lines

/-!
# Linting a Text

The marks of all lines are gathered into a survey of the text: which nodes are
declared and where, which are referred to, which blocks have names, which are
still open, and how many edges meet where. Some findings need only what has
come before their line, such as a second declaration of a node. Others wait for
the end, such as a reference to a node that is declared nowhere.

The linter never stops at a finding. A severe one is meant for what the grammar
refuses, although there are texts on which the two disagree.

## Main definitions

* `Lint.Survey`: What is known of a text.
* `Lint.Survey.add`: What a mark adds.
* `Lint.Survey.line`: What a line adds.
* `Lint.lint`: The report about a text.
-/

namespace Flowchart

namespace Lint

/-- What is known of a text after some of its lines. -/
structure Survey where
  headerSeen : Bool := false
  /-- Findings, in the order in which they were made. -/
  issues : List Issue := []
  /-- Declared nodes with the line of their declaration. -/
  declared : List (Text × Nat) := []
  /-- Names of blocks. -/
  blocks : List Text := []
  /-- References to nodes, with where they stand. -/
  references : List (Text × Nat × Span) := []
  /-- Both ends of every edge. -/
  ends : List Text := []
  /-- The lines of the blocks that are open, the innermost first. -/
  openBlocks : List Nat := []
deriving Repr

namespace Survey

/-- The node has a declaration. -/
def isDeclared (s : Survey) (id : Text) : Bool := s.declared.any (·.1 = id)

/-- One more finding. -/
def report (s : Survey) (i : Issue) : Survey := { s with issues := s.issues ++ [i] }

/-- What a mark on a line adds. -/
def add (number : Nat) (s : Survey) : Mark → Survey
  | .found f span => s.report (f.issue (some number) (some span))
  | .declares id span =>
    if s.isDeclared id then s.report ((Finding.duplicateNode id).issue (some number) (some span))
    else { s with declared := s.declared ++ [(id, number)] }
  | .refersTo id span => { s with references := s.references ++ [(id, number, span)] }
  | .connects source target => { s with ends := s.ends ++ [source, target] }
  | .opens name =>
    { s with
      openBlocks := number :: s.openBlocks
      blocks := if name.isEmpty then s.blocks else s.blocks ++ [name] }
  | .closes span =>
    match s.openBlocks with
    | _ :: outer => { s with openBlocks := outer }
    | [] => s.report (Finding.unmatchedEnd.issue (some number) (some span))

/-- The first typographic character of a line, with its place. -/
def typographicMark? (offset : Nat) (raw : Text) : Option Mark :=
  let before := raw.takeWhile (!isTypographic ·)
  match raw.dropWhile (!isTypographic ·) with
  | c :: _ =>
    let first := offset + Text.size before
    some (.found (.typographic c) (.between first (first + c.utf8Size)))
  | [] => none

/-- What the first statement of a text adds: a complaint if it is no header, in
    which case it is read as a statement after all. -/
def addHeader (number offset : Nat) (raw : Text) (s : Survey) : Survey :=
  let keyword := raw.trim.takeWhile (!isBlank ·)
  let s := { s with headerSeen := true }
  if keyword = "flowchart".toList || keyword = "graph".toList then s
  else
    (statement offset raw).foldl (add number)
      (s.report ((Finding.wrongHeader keyword).issue (some number) none))

/-- What a line adds that starts at a byte position. -/
def line (number offset : Nat) (raw : Text) (s : Survey) : Survey :=
  let trimmed := raw.trim
  if trimmed.isEmpty || "%%".toList.isPrefixOf trimmed then s
  else
    let s := (typographicMark? offset raw).toList.foldl (add number) s
    if s.headerSeen then (statement offset raw).foldl (add number) s
    else addHeader number offset raw s

/-- What the lines of a text add, counted from a number and a byte position. -/
def lines (number offset : Nat) (s : Survey) : List Text → Survey
  | [] => s
  | segment :: more =>
    let raw := (Text.dropSuffix? ['\r'] segment).getD segment
    lines (number + 1) (offset + segment.size + 1) (s.line number offset raw) more

/-- Blocks that are never closed, the outermost first. -/
def unclosed (s : Survey) : List Issue :=
  s.openBlocks.reverse.map fun line => Finding.unclosedSubgraph.issue (some line) none

/-- Nodes that are referred to and declared nowhere, each where it is first
    referred to. A block may be referred to like a node. -/
def undeclared (s : Survey) : List Issue :=
  let missing := s.references.filter fun (id, _) => !s.isDeclared id && !s.blocks.contains id
  (firsts (·.1) missing).map fun (id, line, span) =>
    (Finding.undeclaredNode id).issue (some line) (some span)

/-- Nodes at which too many edges meet, in the order of their first edge. -/
def crowded (s : Survey) : List Issue :=
  ((firsts id s.ends).filter fun id => maxFanOut < s.ends.count id).map fun id =>
    (Finding.fanOut id (s.ends.count id)).issue ((s.declared.find? (·.1 = id)).map (·.2)) none

/-- The report about a text whose lines have all been read. -/
def finish (s : Survey) : Report :=
  let headless := if s.headerSeen then [] else [Finding.noHeader.issue (some 1) none]
  .ofFindings (s.issues ++ headless ++ s.unclosed ++ s.undeclared ++ s.crowded)

end Survey

/-- The report about a text. -/
def lint (t : Text) : Report := (Survey.lines 1 0 {} t.segments).finish

end Lint

end Flowchart
