import Flowchart.Grammar.Statement
import Flowchart.Lint.Finding
import Flowchart.Text.Alphanumeric

/-!
# Reading a Line

The linter reads a line on its own, independently of the grammar and more
forgivingly, and notes what it sees as marks: what is wrong with the line by
itself, which nodes it declares, refers to and connects, and which block it
opens or closes. What depends on other lines is left to whoever puts the marks
of all lines together, so a mark means the same wherever its line stands.

A cursor is the rest of the line with the byte position of its front. It only
ever moves forward by whole characters, which keeps every span on character
boundaries.

## Main definitions

* `Lint.Cursor`: A place in a line.
* `Lint.Mark`: Something seen on a line.
* `Lint.node?`: The marks of a node.
* `Lint.link`: The marks of a link.
* `Lint.chain`: The marks of what follows a node.
* `Lint.statement`: The marks of a line.
-/

namespace Flowchart

namespace Lint

/-- A place in a line: the byte position in the text, and what stands there. -/
structure Cursor where
  position : Nat
  rest : Text
deriving DecidableEq, Repr

namespace Cursor

/-- Move over so many characters. -/
def advance (c : Cursor) (n : Nat) : Cursor :=
  ⟨c.position + Text.size (c.rest.take n), c.rest.drop n⟩

/-- Move over blanks. -/
def skipBlanks (c : Cursor) : Cursor := c.advance (c.rest.takeWhile isBlank).length

/-- The position after the last character of the line. -/
def lineEnd (c : Cursor) : Nat := c.position + Text.size c.rest

/-- The range from the cursor to the end of the line. -/
def toEnd (c : Cursor) : Span := .between c.position c.lineEnd

/-- The range of a text that stands at the cursor. -/
def spanOf (c : Cursor) (t : Text) : Span := .between c.position (c.position + t.size)

end Cursor

/-- Something seen on a line. -/
inductive Mark where
  /-- Something wrong with the line by itself. -/
  | found (f : Finding) (span : Span)
  | declares (id : Text) (span : Span)
  | refersTo (id : Text) (span : Span)
  | connects (source target : Text)
  /-- A block is opened, under a name unless that is empty. -/
  | opens (name : Text)
  | closes (span : Span)
deriving DecidableEq, Repr

/-- A character of an identifier in any script. -/
def isIdChar (c : Char) : Bool := isAlphanumeric c || c == '_'

/-- What is wrong with an identifier. -/
def idFinding? (id : Text) : Option Finding :=
  if Identifier.isReserved id then some (.reservedId id)
  else if (id.head?.map Char.isDigit).getD false then some (.digitLeadingId id)
  else if !id.isAscii then some (.nonAsciiId id)
  else none

/-- The line breaks that may stand in a label. -/
def lineBreaks : List Text := ["<br/>".toList, "<br />".toList, "<br>".toList]

/-- The text of a label with a blank for every line break. -/
def visible (inner : Text) : Text :=
  lineBreaks.foldl (fun t lineBreak => Text.replaceAll lineBreak [' '] t) inner

/-- A less-than sign is followed by what begins a tag. -/
def hasTag : Text → Bool
  | '<' :: c :: t => c.isAlpha || c == '/' || hasTag (c :: t)
  | _ :: t => hasTag t
  | [] => false

/-- What is wrong with the text inside a label. -/
def labelFindings (id : Text) (shape : Shape) (inner : Text) : List Finding :=
  (if inner.contains shape.closer then [.closerInLabel id shape] else [])
    ++ (if inner.contains '"' then [.quoteInLabel id] else [])
    ++ (if hasTag (visible inner) then [.htmlInLabel id] else [])
    ++ (if maxLabelChars < (visible inner).length then [.longLabel id (visible inner).length]
      else [])

/-- The text inside a label, and the number of characters before it and after
    it. The text begins after the opening delimiter. A label in quotes ends at a
    quote with the closing delimiter right after it. -/
def labelInside? (shape : Shape) (t : Text) : Option (Nat × Text × Nat) :=
  match t with
  | '"' :: quoted => (Text.cut? ['"', shape.closer] quoted).map fun (inner, _) => (1, inner, 2)
  | bare => (Text.cut? [shape.closer] bare).map fun (inner, _) => (0, inner, 1)

/-- The marks of a label whose opening delimiter stands at the cursor, and the
    place after it. A label that is not closed takes the rest of the line. -/
def label (id : Text) (shape : Shape) (c : Cursor) : List Mark × Cursor :=
  let inside := c.advance 1
  match labelInside? shape inside.rest with
  | none => ([.found (.unclosedLabel id shape) c.toEnd], c.advance c.rest.length)
  | some (before, inner, after) =>
    let start := inside.advance before
    ((labelFindings id shape inner).map (.found · (start.spanOf inner)),
      start.advance (inner.length + after))

/-- A node at the cursor: its id, its marks and the place after it. -/
def node? (c : Cursor) : Option (Text × List Mark × Cursor) :=
  let id := c.rest.takeWhile isIdChar
  if id.isEmpty then none
  else
    let span := c.spanOf id
    let wrong := (idFinding? id).toList.map (Mark.found · span)
    let after := c.advance id.length
    match Grammar.shapeAt? after.rest with
    | none => some (id, wrong ++ [.refersTo id span], after)
    | some shape =>
      let (marks, after) := label id shape after
      some (id, wrong ++ marks ++ [.declares id span], after)

/-- What is wrong with the text on an edge. -/
def edgeLabelMarks (raw : Text) (c : Cursor) : List Mark :=
  let shown := raw.trim
  let wrong : List Finding :=
    (if shown.contains '"' then [.quotedEdgeLabel shown] else [])
      ++ (if !shown.isAscii then [.nonAsciiEdgeLabel shown] else [])
  wrong.map (.found · (c.spanOf raw))

/-- The beginnings of arrows that the grammar does not know. -/
def unknownArrows : List Text :=
  ["->".toList, "=>".toList, "==".toList, "--".toList, "-.".toList, "<-".toList, "~~".toList]

/-- The marks of a link at the cursor, and the place after it if there is a
    link. -/
def link (c : Cursor) : List Mark × Option Cursor :=
  match Text.dropPrefix? Grammar.arrow c.rest with
  | some _ =>
    let piped := (c.advance Grammar.arrow.length).skipBlanks
    match piped.rest with
    | '|' :: body =>
      match Text.cut? ['|'] body with
      | some (raw, _) =>
        (edgeLabelMarks raw (piped.advance 1), some (piped.advance (raw.length + 2)))
      | none => ([.found .unclosedEdgeLabel c.toEnd], none)
    | _ => ([], some (c.advance Grammar.arrow.length))
  | none =>
    if "-- ".toList.isPrefixOf c.rest then
      let start := c.advance 2
      match Text.cut? Grammar.arrow start.rest with
      | some (raw, _) =>
        (edgeLabelMarks raw start, some (start.advance (raw.length + Grammar.arrow.length)))
      | none => ([.found .missingArrow c.toEnd], none)
    else if unknownArrows.any (·.isPrefixOf c.rest) then
      let token := c.rest.takeWhile (!isBlank ·)
      ([.found (.unknownArrow token) (c.spanOf token)], none)
    else ([], none)

theorem advance_length_le (c : Cursor) (n : Nat) : (c.advance n).rest.length ≤ c.rest.length := by
  simp only [Cursor.advance, List.length_drop]
  omega

theorem node?_shorter {c after : Cursor} {id : Text} {marks : List Mark}
    (h : node? c = some (id, marks, after)) : after.rest.length < c.rest.length := by
  have hle : (c.rest.takeWhile isIdChar).length ≤ c.rest.length :=
    (List.takeWhile_prefix _).length_le
  unfold node? at h
  simp only at h
  split at h
  · simp at h
  · rename_i hne
    have hpos : 0 < (c.rest.takeWhile isIdChar).length := by
      cases hid : c.rest.takeWhile isIdChar with
      | nil => simp [hid] at hne
      | cons a l => simp
    have hadv : (c.advance (c.rest.takeWhile isIdChar).length).rest.length < c.rest.length := by
      simp only [Cursor.advance, List.length_drop]
      omega
    split at h
    · simp only [Option.some.injEq, Prod.mk.injEq] at h
      obtain ⟨_, _, rfl⟩ := h
      exact hadv
    · simp only [Option.some.injEq, Prod.mk.injEq] at h
      obtain ⟨_, _, rfl⟩ := h
      refine Nat.lt_of_le_of_lt ?_ hadv
      unfold label
      simp only
      split
      · exact advance_length_le _ _
      · exact Nat.le_trans (advance_length_le _ _)
          (Nat.le_trans (advance_length_le _ _) (advance_length_le _ _))

theorem link_shorter {c after : Cursor} {marks : List Mark} (h : link c = (marks, some after)) :
    after.rest.length ≤ c.rest.length := by
  have hskip : ∀ d : Cursor, d.skipBlanks.rest.length ≤ d.rest.length := fun d =>
    advance_length_le d _
  unfold link at h
  split at h
  · simp only at h
    split at h
    · split at h
      · simp only [Prod.mk.injEq, Option.some.injEq] at h
        obtain ⟨_, rfl⟩ := h
        exact Nat.le_trans (advance_length_le _ _) (Nat.le_trans (hskip _) (advance_length_le _ _))
      · simp at h
    · simp only [Prod.mk.injEq, Option.some.injEq] at h
      obtain ⟨_, rfl⟩ := h
      exact advance_length_le _ _
  · split at h
    · simp only at h
      split at h
      · simp only [Prod.mk.injEq, Option.some.injEq] at h
        obtain ⟨_, rfl⟩ := h
        exact Nat.le_trans (advance_length_le _ _) (advance_length_le _ _)
      · simp at h
    · split at h <;> simp at h

/-- The marks of what follows a node: links with nodes, for as long as there are
    some. -/
def chain (source : Text) (c : Cursor) : List Mark :=
  if c.skipBlanks.rest.isEmpty then []
  else
    match _hl : link c.skipBlanks with
    | (marks, none) => marks
    | (marks, some afterLink) =>
      match _hn : node? afterLink.skipBlanks with
      | none => marks
      | some (target, nodeMarks, after) =>
        marks ++ nodeMarks ++ .connects source target :: chain target after
termination_by c.rest.length
decreasing_by
  have h1 := node?_shorter _hn
  have h2 := advance_length_le afterLink (afterLink.rest.takeWhile isBlank).length
  have h3 := link_shorter _hl
  have h4 := advance_length_le c (c.rest.takeWhile isBlank).length
  simp only [Cursor.skipBlanks] at *
  omega

/-- The marks of a line that starts at a byte position. Closing blanks and any
    semicolons before them are left out. -/
def statement (offset : Nat) (raw : Text) : List Mark :=
  let c := (Cursor.mk offset (Text.dropEndWhile (· == ';') raw.trimEnd)).skipBlanks
  let first := c.rest.takeWhile (!isBlank ·)
  if c.rest = "end".toList then [.closes c.toEnd]
  else if first = "subgraph".toList then
    [.opens ((c.advance first.length).skipBlanks.rest.takeWhile isIdChar)]
  else if Grammar.opaqueWords.any (·.toList = first) then []
  else match node? c with
    | none => []
    | some (id, marks, after) => marks ++ chain id after

end Lint

end Flowchart
