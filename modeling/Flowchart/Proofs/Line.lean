import Flowchart.Proofs.Printing
import Flowchart.Proofs.Reading

/-!
# Printed Lines

The lines that a diagram is printed as, as data, and how they are read back.

There are seven kinds of lines. Four are told by what they start with: a
keyword, the blanks before a member, the signs before a comment. The other three
start with a name, which is no keyword, and what follows it tells them apart. An
opening delimiter makes it a node, and a blank makes it an edge.

The parts of a line are found by the first character that they cannot hold. No
name holds a blank or a bracket, and no label of an edge an angle bracket, so
the only one of these is that of its arrow. A label of a node ends where the
line does. In it, angle brackets stand in line breaks and nowhere else.

The reader here is not that of the grammar. It reads less, since it is only good
for lines that were printed, but it keeps what it reads.

## Main definitions

* `Line`: A printed line.
* `Line.text`: The text of a line.
* `Line.IsSound`: A line whose parts can be found again.
* `Line.ofText?`: The line that a text is.

## Theorems

* `Line.ofText?_text`: Sound lines are read back.
-/

namespace Flowchart

open Identifier

/-- A printed line. -/
inductive Line where
  | header (direction : Direction)
  | node (id : Text) (shape : Shape) (label : List Text)
  | comment (remark : Text)
  | opens (name title : Text)
  | member (id : Text)
  | closes
  | edge (source target : Text) (label : Option Text)
deriving DecidableEq, Repr

namespace Line

/-- The text of a line. -/
def text : Line → Text
  | header direction => "flowchart ".toList ++ direction.keyword.toList
  | node id shape label => Node.declaration { id, shape } label
  | comment remark => "%%".toList ++ remark
  | opens name title => Block.header name title
  | member id => Block.memberLine id
  | closes => "end".toList
  | edge source target label => Edge.line { source, target, label }

/-- The parts of the line can be found again. -/
def IsSound : Line → Prop
  | node id _ label => IsName id ∧ label ≠ [] ∧ ∀ l ∈ label, '<' ∉ l ∧ '\n' ∉ l
  | opens name _ => IsName name
  | edge source _ label => IsName source ∧ ∀ t ∈ label, '>' ∉ t
  | _ => True

/-! ### Reading -/

/-- An edge, from what follows its source. -/
def edge? (source rest : Text) : Option Line :=
  match Text.dropPrefix? " --> ".toList rest with
  | some target => some (edge source target none)
  | none => do
    let rest ← Text.dropPrefix? " -- ".toList rest
    let (before, after) ← Text.cut? ['>'] rest
    let label ← Text.dropSuffix? " --".toList before
    return edge source (after.drop 1) (some label)

/-- A line that starts with a name, from the name and what follows it. -/
def named? (id rest : Text) : Option Line :=
  match Grammar.shapeAt? rest with
  | some shape => (Text.dropSuffix? ['"', shape.closer] (rest.drop 2)).map fun label =>
      node id shape (Text.segments (Text.replaceAll lineBreak ['\n'] label))
  | none => edge? id rest

/-- The line that opens a block, from what follows the keyword. -/
def block? (rest : Text) : Option Line :=
  let name := rest.takeWhile isWordChar
  match Text.dropPrefix? "[\"".toList (rest.dropWhile isWordChar) with
  | some back => (Text.dropSuffix? "\"]".toList back).map (opens name)
  | none => some (opens name [])

/-- A line that starts with neither a keyword nor a name. -/
def other? (t : Text) : Option Line :=
  ((Text.dropPrefix? "  ".toList t).map member).orElse fun _ =>
    (Text.dropPrefix? "%%".toList t).map comment

/-- The line that a text is. -/
def ofText? (t : Text) : Option Line :=
  let front := t.takeWhile isWordChar
  let rest := t.dropWhile isWordChar
  if front.isEmpty then other? t
  else if front = "flowchart".toList then (Direction.ofText? (rest.drop 1)).map header
  else if front = "subgraph".toList then block? (rest.drop 1)
  else if front = "end".toList then some closes
  else named? front rest

/-! ### Reading back -/

theorem ofText?_header (direction : Direction) :
    ofText? (header direction).text = some (header direction) := by
  cases direction <;> decide +kernel

/-- A line that starts with a name is read as such. -/
theorem ofText?_name {id rest : Text} (h : IsName id) (hrest : Grammar.Ends rest) :
    ofText? (id ++ rest) = named? id rest := by
  rcases Text.takeWhile_append_of_ends h.isWordChar hrest with ⟨htake, hdrop⟩
  have hfree : ∀ k : Text, isReserved k = true → id ≠ k := by
    rintro k hk rfl
    rw [h.free] at hk
    exact absurd hk (by decide)
  have hempty : ¬ id.isEmpty = true := by
    rw [List.isEmpty_iff]
    exact h.ne_nil
  unfold ofText?
  dsimp only
  rw [htake, hdrop, if_neg hempty, if_neg (hfree _ (by decide)), if_neg (hfree _ (by decide)),
    if_neg (hfree _ (by decide))]

/-- The lines of a label are joined by line breaks and by nothing else that looks
    like one. -/
theorem segments_join_lineBreak {label : List Text} (hne : label ≠ [])
    (h : ∀ l ∈ label, '<' ∉ l ∧ '\n' ∉ l) :
    Text.segments (Text.replaceAll lineBreak ['\n'] (Text.join lineBreak label)) = label := by
  have hbreak : lineBreak = '<' :: "br/>".toList := rfl
  rw [hbreak, Text.replaceAll_join fun l hl => (h l hl).1]
  exact Text.segments_join (fun l hl => (h l hl).2) hne

theorem ofText?_node {id : Text} {shape : Shape} {label : List Text}
    (h : (node id shape label).IsSound) :
    ofText? (node id shape label).text = some (node id shape label) := by
  rcases h with ⟨hid, hne, hlabel⟩
  have htext : (node id shape label).text
      = id ++ shape.opener :: ('"' :: Text.join lineBreak label ++ ['"', shape.closer]) :=
    List.append_assoc _ _ _
  have hdelimiter : isWordChar shape.opener = false := by
    cases shape <;> decide
  have hlast : Text.dropSuffix? ['"', shape.closer]
      (Text.join lineBreak label ++ ['"', shape.closer]) = some (Text.join lineBreak label) :=
    Text.dropSuffix?_eq_some_iff.2 rfl
  rw [htext, ofText?_name hid (Grammar.ends_cons hdelimiter _), named?,
    Grammar.shapeAt?_opener]
  dsimp only
  rw [List.drop_succ_cons, List.cons_append, List.drop_succ_cons, List.drop_zero, hlast,
    Option.map_some, segments_join_lineBreak hne hlabel]

theorem ofText?_edge {source target : Text} {label : Option Text}
    (h : (edge source target label).IsSound) :
    ofText? (edge source target label).text = some (edge source target label) := by
  rcases h with ⟨hsource, hlabel⟩
  rcases label with _ | label
  · have htext : (edge source target none).text = source ++ (" --> ".toList ++ target) :=
      List.append_assoc _ _ _
    have hends : Grammar.Ends (" --> ".toList ++ target) := Grammar.ends_cons (by decide) _
    have hdrop : Text.dropPrefix? " --> ".toList (" --> ".toList ++ target) = some target :=
      Text.dropPrefix?_eq_some_iff.2 rfl
    have hshape : Grammar.shapeAt? (" --> ".toList ++ target) = none := rfl
    rw [htext, ofText?_name hsource hends, named?, hshape]
    dsimp only
    rw [edge?, hdrop]
  · have hline : (edge source target (some label)).text
        = source ++ " -- ".toList ++ label ++ " --> ".toList ++ target := rfl
    have htext : (edge source target (some label)).text
        = source ++ (" -- ".toList ++ ((label ++ " --".toList) ++ (['>'] ++ ' ' :: target))) := by
      have harrow : " --> ".toList = " --".toList ++ ['>', ' '] := rfl
      rw [hline, harrow]
      simp only [List.append_assoc, List.cons_append, List.nil_append]
    have hends : ∀ t, Grammar.Ends (" -- ".toList ++ t) := Grammar.ends_cons (by decide)
    -- The label holds no angle bracket, so the first one is that of the arrow.
    have hangle : '>' ∉ label ++ " --".toList := by
      rw [List.mem_append, not_or]
      exact ⟨hlabel label rfl, by decide⟩
    have hcut : Text.cut? ['>'] ((label ++ " --".toList) ++ (['>'] ++ ' ' :: target))
        = some (label ++ " --".toList, ' ' :: target) := Text.cut?_append hangle _
    have hlast : Text.dropSuffix? " --".toList (label ++ " --".toList) = some label :=
      Text.dropSuffix?_eq_some_iff.2 rfl
    have hplain : ∀ t, Text.dropPrefix? " --> ".toList (" -- ".toList ++ t) = none := fun _ => rfl
    have hdrop : ∀ t, Text.dropPrefix? " -- ".toList (" -- ".toList ++ t) = some t := fun _ =>
      Text.dropPrefix?_eq_some_iff.2 rfl
    have hshape : ∀ t, Grammar.shapeAt? (" -- ".toList ++ t) = none := fun _ => rfl
    rw [htext, ofText?_name hsource (hends _), named?, hshape]
    dsimp only
    rw [edge?, hplain, hdrop]
    simp only [Option.bind_eq_bind, Option.bind_some, hcut, hlast, List.drop_succ_cons,
      List.drop_zero, Option.pure_def]

/-- The line that opens a block, with a title or without one. -/
theorem block?_header {name : Text} (h : IsName name) (title : Text) :
    block? (name ++ if title.isEmpty then [] else "[\"".toList ++ title ++ "\"]".toList)
      = some (opens name title) := by
  unfold block?
  dsimp only
  by_cases hempty : title.isEmpty = true
  · rcases Text.takeWhile_append_of_ends h.isWordChar Grammar.ends_nil with ⟨htake, hdrop⟩
    have hnone : Text.dropPrefix? "[\"".toList [] = none := rfl
    rw [if_pos hempty, htake, hdrop, hnone, List.isEmpty_iff.1 hempty]
  · have hends : Grammar.Ends ("[\"".toList ++ (title ++ "\"]".toList)) :=
      Grammar.ends_cons (by decide) _
    rcases Text.takeWhile_append_of_ends h.isWordChar hends with ⟨htake, hdrop⟩
    have hopen : Text.dropPrefix? "[\"".toList ("[\"".toList ++ (title ++ "\"]".toList))
        = some (title ++ "\"]".toList) := Text.dropPrefix?_eq_some_iff.2 rfl
    have hclose : Text.dropSuffix? "\"]".toList (title ++ "\"]".toList) = some title :=
      Text.dropSuffix?_eq_some_iff.2 rfl
    rw [if_neg hempty, List.append_assoc, htake, hdrop, hopen]
    dsimp only
    rw [hclose, Option.map_some]

theorem ofText?_opens {name title : Text} (h : (opens name title).IsSound) :
    ofText? (opens name title).text = some (opens name title) := by
  have hkeyword : ∀ t, ofText? ("subgraph ".toList ++ t) = block? t := fun _ => rfl
  have htext : (opens name title).text = "subgraph ".toList ++
      (name ++ if title.isEmpty then [] else "[\"".toList ++ title ++ "\"]".toList) :=
    List.append_assoc _ _ _
  rw [htext, hkeyword]
  exact block?_header h title

theorem ofText?_member (id : Text) : ofText? (member id).text = some (member id) := rfl

theorem ofText?_comment (remark : Text) :
    ofText? (comment remark).text = some (comment remark) := rfl

/-- Sound lines are read back. -/
theorem ofText?_text {l : Line} (h : l.IsSound) : ofText? l.text = some l := by
  cases l with
  | header direction => exact ofText?_header direction
  | node id shape label => exact ofText?_node h
  | comment remark => exact ofText?_comment remark
  | opens name title => exact ofText?_opens h
  | member id => exact ofText?_member id
  | closes => decide +kernel
  | edge source target label => exact ofText?_edge h

end Line

end Flowchart
