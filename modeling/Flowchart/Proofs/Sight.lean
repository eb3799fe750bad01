import Flowchart.Grammar.Check
import Flowchart.Lint.Survey
import Mathlib.Data.List.TakeWhile

/-!
# What a Line Shows

The marks of a line say what was seen on it and where. What was seen does not
depend on where the line stands: a line shows the same sights wherever its first
byte is, and only the positions of its marks move.

So sights belong to lines. They are what the rest of the theory of linting is
about, since a text is printed line by line and its lines can be looked at one
at a time.

Each reader of the linter takes a cursor and leaves another one behind it. The
lemmas about them compare two cursors with the same rest of a line, and carry
that along to the cursors that are left.

## Main definitions

* `Lint.Sight`: A mark without its place.
* `Lint.statementAt`: The marks of a statement that begins at a cursor.
* `Lint.lineMarks`: The marks of a line.
* `Lint.sights`: The sights of a line.

## Theorems

* `Lint.sight_lineMarks`: Sights do not depend on the place of the line.
-/

namespace Flowchart

namespace Lint

/-- A mark without its place. -/
inductive Sight where
  | fault (f : Finding)
  | declares (id : Text)
  | refersTo (id : Text)
  | connects (source target : Text)
  | opens (name : Text)
  | closes
deriving DecidableEq, Repr

/-- What a mark is of. -/
def Mark.sight : Mark → Sight
  | .found f _ => .fault f
  | .declares id _ => .declares id
  | .refersTo id _ => .refersTo id
  | .connects source target => .connects source target
  | .opens name => .opens name
  | .closes _ => .closes

/-! ### Cursors -/

theorem rest_advance (c : Cursor) (n : Nat) : (c.advance n).rest = c.rest.drop n := rfl

theorem rest_skipBlanks (c : Cursor) : c.skipBlanks.rest = c.rest.dropWhile isBlank := by
  have hsplit : c.rest.takeWhile isBlank ++ c.rest.dropWhile isBlank = c.rest :=
    List.takeWhile_append_dropWhile
  have hdrop : (c.rest.takeWhile isBlank ++ c.rest.dropWhile isBlank).drop
      (c.rest.takeWhile isBlank).length = c.rest.dropWhile isBlank := List.drop_left
  rw [hsplit] at hdrop
  exact hdrop

/-! ### Readers at two places -/

section Places

variable {c d : Cursor}

theorem label_congr (h : c.rest = d.rest) (id : Text) (shape : Shape) :
    (label id shape c).1.map Mark.sight = (label id shape d).1.map Mark.sight ∧
      (label id shape c).2.rest = (label id shape d).2.rest := by
  unfold label
  simp only [rest_advance, h]
  cases labelInside? shape (d.rest.drop 1) with
  | none => simp only [rest_advance, h, List.map_cons, List.map_nil, Mark.sight, and_self]
  | some inside =>
    simp only [rest_advance, h, List.map_map, and_true]
    rfl

theorem node?_congr (h : c.rest = d.rest) :
    (node? c).map (fun x => (x.1, x.2.1.map Mark.sight, x.2.2.rest))
      = (node? d).map fun x => (x.1, x.2.1.map Mark.sight, x.2.2.rest) := by
  unfold node?
  simp only [h]
  by_cases hempty : (d.rest.takeWhile isIdChar).isEmpty = true
  · rw [if_pos hempty, if_pos hempty]
  · rw [if_neg hempty, if_neg hempty]
    simp only [rest_advance, h]
    cases Grammar.shapeAt? (d.rest.drop (d.rest.takeWhile isIdChar).length) with
    | none =>
      simp only [Option.map_some, List.map_append, List.map_map, rest_advance, h]
      rfl
    | some shape =>
      -- Both go on from the end of the identifier, though they may stand elsewhere.
      have hafter : (c.advance (d.rest.takeWhile isIdChar).length).rest
          = (d.advance (d.rest.takeWhile isIdChar).length).rest := by
        rw [rest_advance, rest_advance, h]
      rcases label_congr hafter (d.rest.takeWhile isIdChar) shape with ⟨hmarks, hrest⟩
      simp only [Option.map_some, List.map_append, List.map_map, hmarks, hrest]
      rfl

theorem edgeLabelMarks_congr (raw : Text) (c d : Cursor) :
    (edgeLabelMarks raw c).map Mark.sight = (edgeLabelMarks raw d).map Mark.sight := by
  unfold edgeLabelMarks
  simp only [List.map_map]
  rfl

theorem link_congr (h : c.rest = d.rest) :
    (link c).1.map Mark.sight = (link d).1.map Mark.sight ∧
      (link c).2.map Cursor.rest = (link d).2.map Cursor.rest := by
  unfold link
  simp only [h]
  -- Every choice looks at what is left of the text, which is the same for both.
  cases Text.dropPrefix? Grammar.arrow d.rest with
  | some after =>
    have hpiped : (c.advance Grammar.arrow.length).skipBlanks.rest
        = (d.advance Grammar.arrow.length).skipBlanks.rest := by
      rw [rest_skipBlanks, rest_skipBlanks, rest_advance, rest_advance, h]
    simp only [hpiped]
    split
    · rename_i body hbody
      cases Text.cut? ['|'] body with
      | none => exact ⟨rfl, rfl⟩
      | some sides =>
        refine ⟨edgeLabelMarks_congr _ _ _, ?_⟩
        simp only [Option.map_some, rest_advance, hpiped]
    · simp only [Option.map_some, rest_advance, h, and_self]
  | none =>
    simp only [rest_advance, h]
    split
    · cases Text.cut? Grammar.arrow (d.rest.drop 2) with
      | none => exact ⟨rfl, rfl⟩
      | some sides =>
        refine ⟨edgeLabelMarks_congr _ _ _, ?_⟩
        simp only [Option.map_some, rest_advance, h]
    · split
      · exact ⟨rfl, rfl⟩
      · exact ⟨rfl, rfl⟩

theorem node?_transfer (h : c.rest = d.rest) {id : Text} {marks : List Mark} {after : Cursor}
    (hc : node? c = some (id, marks, after)) :
    ∃ marks' after', node? d = some (id, marks', after') ∧
      marks.map Mark.sight = marks'.map Mark.sight ∧ after.rest = after'.rest := by
  have hnode := node?_congr h
  rw [hc, Option.map_some] at hnode
  rcases Option.map_eq_some_iff.1 hnode.symm with ⟨⟨id', marks', after'⟩, hd, heq⟩
  simp only [Prod.mk.injEq] at heq
  rcases heq with ⟨rfl, hmarks, hrest⟩
  exact ⟨marks', after', hd, hmarks.symm, hrest.symm⟩

theorem node?_transfer_none (h : c.rest = d.rest) (hc : node? c = none) : node? d = none := by
  have hnode := node?_congr h
  rw [hc, Option.map_none] at hnode
  exact Option.map_eq_none_iff.1 hnode.symm

theorem link_transfer (h : c.rest = d.rest) {marks : List Mark} {after : Option Cursor}
    (hc : link c = (marks, after)) :
    ∃ marks' after', link d = (marks', after') ∧
      marks.map Mark.sight = marks'.map Mark.sight ∧
      after.map Cursor.rest = after'.map Cursor.rest := by
  have hlink := link_congr h
  rw [hc] at hlink
  exact ⟨(link d).1, (link d).2, rfl, hlink⟩

/-- A chain, without the care that the definition takes to come to an end. -/
theorem chain_eq (source : Text) (c : Cursor) :
    chain source c =
      if c.skipBlanks.rest.isEmpty then []
      else
        match link c.skipBlanks with
        | (marks, none) => marks
        | (marks, some afterLink) =>
          match node? afterLink.skipBlanks with
          | none => marks
          | some (target, nodeMarks, after) =>
            marks ++ nodeMarks ++ .connects source target :: chain target after := by
  rw [chain]
  by_cases hempty : c.skipBlanks.rest.isEmpty = true
  · rw [if_pos hempty, if_pos hempty]
  · rw [if_neg hempty, if_neg hempty]
    -- The definition keeps the equations to show that less is left. They decide
    -- nothing.
    split
    · rename_i hl
      rw [hl]
    · rename_i hl
      rw [hl]
      dsimp only
      split
      · rename_i hn
        rw [hn]
      · rename_i hn
        rw [hn]

theorem chain_congr (source : Text) (h : c.rest = d.rest) :
    (chain source c).map Mark.sight = (chain source d).map Mark.sight := by
  have hskip : ∀ {c d : Cursor}, c.rest = d.rest → c.skipBlanks.rest = d.skipBlanks.rest := by
    intro c d h
    rw [rest_skipBlanks, rest_skipBlanks, h]
  -- Wherever the chain ends for one cursor, it ends for the other.
  fun_induction chain source c generalizing d with
  | case1 source c hempty => rw [chain_eq, if_pos (hskip h ▸ hempty), List.map_nil]
  | case2 source c hempty marks hl =>
    rcases link_transfer (hskip h) hl with ⟨marks', after', hl', hmarks, hafter⟩
    rw [Option.map_none, eq_comm, Option.map_eq_none_iff] at hafter
    rw [chain_eq, if_neg (hskip h ▸ hempty), hl', hafter]
    exact hmarks
  | case3 source c hempty marks afterLink hl hn =>
    rcases link_transfer (hskip h) hl with ⟨marks', after', hl', hmarks, hafter⟩
    rw [Option.map_some, eq_comm, Option.map_eq_some_iff] at hafter
    rcases hafter with ⟨afterLink', rfl, hrest⟩
    rw [chain_eq, if_neg (hskip h ▸ hempty), hl']
    simp only [node?_transfer_none (hskip hrest.symm) hn]
    exact hmarks
  | case4 source c hempty marks afterLink hl target nodeMarks after hn ih =>
    rcases link_transfer (hskip h) hl with ⟨marks', after', hl', hmarks, hafter⟩
    rw [Option.map_some, eq_comm, Option.map_eq_some_iff] at hafter
    rcases hafter with ⟨afterLink', rfl, hrest⟩
    rcases node?_transfer (hskip hrest.symm) hn with ⟨nodeMarks', after', hn', hnodes, hrest'⟩
    rw [chain_eq source d, if_neg (hskip h ▸ hempty), hl']
    simp only [hn', List.map_append, List.map_cons, hmarks, hnodes, ih hrest']

end Places

/-! ### Lines -/

/-- The marks of a statement that begins at a cursor. -/
def statementAt (c : Cursor) : List Mark :=
  let first := c.rest.takeWhile (!isBlank ·)
  if c.rest = "end".toList then [.closes c.toEnd]
  else if first = "subgraph".toList then
    [.opens ((c.advance first.length).skipBlanks.rest.takeWhile isIdChar)]
  else if Grammar.opaqueWords.any (·.toList = first) then []
  else match node? c with
    | none => []
    | some (id, marks, after) => marks ++ chain id after

/-- What is left of a line without closing blanks, the semicolons before them and
    opening blanks. -/
def statementText (raw : Text) : Text :=
  (Text.dropEndWhile (· == ';') raw.trimEnd).trimStart

theorem exists_statement_eq (offset : Nat) (raw : Text) :
    ∃ c : Cursor, c.rest = statementText raw ∧ statement offset raw = statementAt c :=
  ⟨(Cursor.mk offset (Text.dropEndWhile (· == ';') raw.trimEnd)).skipBlanks, rest_skipBlanks _, rfl⟩

theorem statementAt_congr {c d : Cursor} (h : c.rest = d.rest) :
    (statementAt c).map Mark.sight = (statementAt d).map Mark.sight := by
  unfold statementAt
  simp only [h]
  split
  · rfl
  · split
    · simp only [List.map_cons, List.map_nil, rest_skipBlanks, rest_advance, h]
    · split
      · rfl
      · -- Either both see no node, or both see the same one and go on alike.
        rcases hc : node? c with _ | ⟨id, marks, after⟩
        · rw [node?_transfer_none h hc]
        · rcases node?_transfer h hc with ⟨marks', after', hd, hmarks, hrest⟩
          rw [hd]
          simp only [List.map_append, hmarks, chain_congr id hrest]

/-- The marks of a line that starts at a byte position, once a header has been
    seen. -/
def lineMarks (offset : Nat) (raw : Text) : List Mark :=
  if Grammar.isIdle raw.trim then []
  else (Survey.typographicMark? offset raw).toList ++ statement offset raw

/-- What a line shows, wherever it stands. -/
def sights (raw : Text) : List Sight := (lineMarks 0 raw).map Mark.sight

theorem sight_typographicMark? (offset : Nat) (raw : Text) :
    (Survey.typographicMark? offset raw).map Mark.sight
      = (raw.find? isTypographic).map fun c => .fault (.typographic c) := by
  rw [List.find?_eq_head?_dropWhile_not, Survey.typographicMark?]
  cases raw.dropWhile (!isTypographic ·) with
  | nil => rfl
  | cons c rest => rfl

/-- The sights of a line do not depend on where it starts. -/
theorem sight_lineMarks (offset : Nat) (raw : Text) :
    (lineMarks offset raw).map Mark.sight = sights raw := by
  unfold sights lineMarks
  split
  · rfl
  · rcases exists_statement_eq offset raw with ⟨c, hc, hstatement⟩
    rcases exists_statement_eq 0 raw with ⟨d, hd, hstatement'⟩
    rw [hstatement, hstatement', List.map_append, List.map_append,
      statementAt_congr (hc.trans hd.symm), ← Option.toList_map, ← Option.toList_map,
      sight_typographicMark?, sight_typographicMark?]

end Lint

end Flowchart
