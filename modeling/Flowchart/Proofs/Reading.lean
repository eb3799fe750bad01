import Flowchart.Diagram.Text
import Flowchart.Proofs.Acceptance
import Flowchart.Proofs.Sight

/-!
# Printed Lines Read Back

What the linter sees on the lines that a diagram is printed as. It is a reader
of its own: it goes by other blanks than the grammar, looks for the end of a
label in another way, and takes letters of all scripts into an identifier. On
printed lines none of this makes a difference.

A declaration shows its node, and besides at most that its label is long. The
linter measures the label that will be seen, in which a line break is a blank.
No line of a label holds an angle bracket, so the line breaks between them are
the only ones it finds.

## Theorems

* `Text.cut?_append`: A pattern is found where its first character first is.
* `Text.replaceAll_join`: Separators of a join exchanged.
* `Lint.sights_declaration`, `Lint.sights_comment`, `Lint.sights_header`,
  `Lint.sights_memberLine`, `Lint.sights_end`, `Lint.sights_edge`: What printed
  lines show.
-/

namespace Flowchart

/-! ### Patterns -/

namespace Text

variable {c : Char} {pattern new : Text}

/-- A pattern is found where its first character first is. -/
theorem cut?_append {before : Text} (h : c ∉ before) (after : Text) :
    cut? (c :: pattern) (before ++ (c :: pattern ++ after)) = some (before, after) := by
  induction before with
  | nil =>
    have hhere : dropPrefix? (c :: pattern) (c :: (pattern ++ after)) = some after :=
      dropPrefix?_eq_some_iff.2 rfl
    rw [List.nil_append, List.cons_append, cut?, hhere]
  | cons d before ih =>
    rw [List.mem_cons, not_or] at h
    rw [List.cons_append, cut?, dropPrefix?, if_neg h.1, ih h.2]
    rfl

/-- Nothing is exchanged before the first character of the pattern. -/
theorem replaceFrom_append {front : Text} (h : c ∉ front) (t : Text) :
    replaceFrom (c :: pattern) new 0 (front ++ t)
      = front ++ replaceFrom (c :: pattern) new 0 t := by
  induction front with
  | nil => rfl
  | cons d front ih =>
    rw [List.mem_cons, not_or] at h
    -- The pattern cannot begin at any other character than its first.
    have hnot : ¬ (c :: pattern).isPrefixOf (d :: (front ++ t)) = true := by
      rw [List.isPrefixOf_cons_cons, beq_eq_false_iff_ne.2 h.1, Bool.false_and]
      decide
    rw [List.cons_append, replaceFrom, if_neg hnot, ih h.2, List.cons_append]

theorem replaceFrom_skip (skipped t : Text) :
    replaceFrom pattern new skipped.length (skipped ++ t) = replaceFrom pattern new 0 t := by
  induction skipped with
  | nil => rfl
  | cons d skipped ih => exact ih

theorem replaceFrom_pattern (t : Text) :
    replaceFrom (c :: pattern) new 0 (c :: pattern ++ t)
      = new ++ replaceFrom (c :: pattern) new 0 t := by
  have hhere : (c :: pattern).isPrefixOf (c :: (pattern ++ t)) = true :=
    List.isPrefixOf_iff_prefix.2 (List.prefix_append (c :: pattern) t)
  rw [List.cons_append, replaceFrom, if_pos hhere, List.length_cons, Nat.add_sub_cancel,
    replaceFrom_skip]

theorem replaceAll_of_notMem {t : Text} (h : c ∉ t) : replaceAll (c :: pattern) new t = t := by
  have hall : replaceFrom (c :: pattern) new 0 (t ++ [])
      = t ++ replaceFrom (c :: pattern) new 0 [] := replaceFrom_append h []
  rwa [List.append_nil, replaceFrom, List.append_nil] at hall

/-- The separators of a join are exchanged, and nothing else if no part has their
    first character. -/
theorem replaceAll_join {parts : List Text} (h : ∀ t ∈ parts, c ∉ t) :
    replaceAll (c :: pattern) new (join (c :: pattern) parts) = join new parts := by
  induction parts with
  | nil => rfl
  | cons t parts ih =>
    have ht := h t List.mem_cons_self
    rcases parts with _ | ⟨u, parts⟩
    · rw [join_singleton, join_singleton, replaceAll_of_notMem ht]
    · have hrest := ih fun v hv => h v (List.mem_cons_of_mem t hv)
      rw [replaceAll] at hrest ⊢
      rw [join_cons_cons, join_cons_cons, List.append_assoc, List.append_assoc,
        replaceFrom_append ht, replaceFrom_pattern, hrest]

end Text

namespace Lint

open Identifier Grammar

/-! ### Labels -/

theorem isIdChar_eq {c : Char} (h : isAsciiChar c = true) : isIdChar c = isWordChar c :=
  forall_ascii (P := fun c => isIdChar c = isWordChar c) (by decide +kernel) h

/-- What is seen of a label is its lines, set apart by blanks. -/
theorem visible_join {lines : List Text} (h : ∀ l ∈ lines, '<' ∉ l) :
    visible (Text.join lineBreak lines) = Text.join [' '] lines := by
  have hclean : '<' ∉ Text.join [' '] lines := by
    intro hmem
    rcases Text.mem_join hmem with hmem | ⟨l, hl, hmem⟩
    · exact absurd hmem (by decide)
    · exact h l hl hmem
  have hbreak : lineBreaks
      = [lineBreak, '<' :: "br />".toList, '<' :: "br>".toList] := by decide
  -- Exchanging the line breaks leaves no sign that another kind begins with.
  have hfirst : Text.replaceAll lineBreak [' '] (Text.join lineBreak lines)
      = Text.join [' '] lines := Text.replaceAll_join h
  rw [visible, hbreak, List.foldl_cons, hfirst, List.foldl_cons, Text.replaceAll_of_notMem hclean,
    List.foldl_cons, Text.replaceAll_of_notMem hclean, List.foldl_nil]

theorem not_hasTag {t : Text} (h : '<' ∉ t) : hasTag t = false := by
  fun_induction hasTag t with
  | case1 c t => exact absurd List.mem_cons_self h
  | case2 c t _ ih => exact ih fun hmem => h (List.mem_cons_of_mem c hmem)
  | case3 => rfl

/-- What is wrong with the label of a node, apart from what is never wrong with a
    printed one. -/
def lengthFinding? (id shown : Text) : Option Finding :=
  if maxLabelChars < shown.length then some (.longLabel id shown.length) else none

theorem labelFindings_join (id : Text) {shape : Shape} {lines : List Text}
    (hquote : '"' ∉ Text.join lineBreak lines) (hcloser : shape.closer ∉ Text.join lineBreak lines)
    (hangle : ∀ l ∈ lines, '<' ∉ l) :
    labelFindings id shape (Text.join lineBreak lines)
      = (lengthFinding? id (Text.join [' '] lines)).toList := by
  have htag : hasTag (Text.join [' '] lines) = false := by
    refine not_hasTag fun hmem => ?_
    rcases Text.mem_join hmem with hmem | ⟨l, hl, hmem⟩
    · exact absurd hmem (by decide)
    · exact hangle l hl hmem
  -- Of the four complaints about a label only the last is left.
  rw [← List.contains_iff_mem, Bool.not_eq_true] at hquote hcloser
  rw [labelFindings, hquote, hcloser, visible_join hangle, htag, lengthFinding?]
  by_cases hlong : maxLabelChars < (Text.join [' '] lines).length
  · rw [if_pos hlong, if_pos hlong]
    rfl
  · rw [if_neg hlong, if_neg hlong]
    rfl

theorem labelInside?_quoted (shape : Shape) {inner : Text} (h : '"' ∉ inner) (rest : Text) :
    labelInside? shape ('"' :: inner ++ '"' :: shape.closer :: rest) = some (1, inner, 2) := by
  have hcut : Text.cut? ['"', shape.closer] (inner ++ '"' :: shape.closer :: rest)
      = some (inner, rest) := Text.cut?_append h rest
  rw [List.cons_append, labelInside?, hcut]
  rfl

/-! ### Nodes -/

theorem idFinding?_name {id : Text} (h : IsId id) : idFinding? id = none := by
  -- A name begins as the grammar wants, so with no digit, and is spelled in ASCII.
  have hdigit : (id.head?.map Char.isDigit).getD false = false := by
    rcases (isLegal_iff.1 h.legal).1 with ⟨c, hc, hstart⟩
    have hnot : isStart c = true → c.isDigit = false :=
      forall_ascii (P := fun c => isStart c = true → c.isDigit = false) (by decide +kernel)
        (isAsciiChar_of_isWordChar (isWordChar_of_isStart hstart))
    rw [hc, Option.map_some, Option.getD_some, hnot hstart]
  have hascii : id.isAscii = true :=
    List.all_eq_true.2 fun c hc => isAsciiChar_of_isWordChar (h.isWordChar c hc)
  rw [idFinding?, h.free, hdigit, hascii]
  rfl

/-- The text is empty or starts with an ASCII character that goes on no
    identifier. -/
def EndsAscii (rest : Text) : Prop :=
  ∀ c, rest.head? = some c → isAsciiChar c = true ∧ isWordChar c = false

theorem EndsAscii.ends {rest : Text} (h : EndsAscii rest) : Ends rest := fun c hc => (h c hc).2

theorem endsAscii_nil : EndsAscii [] := by
  intro c hc
  exact absurd hc (by simp only [List.head?_nil, reduceCtorEq, not_false_eq_true])

theorem endsAscii_cons {c : Char} (hc : isAsciiChar c = true ∧ isWordChar c = false)
    (rest : Text) : EndsAscii (c :: rest) := by
  intro d hd
  rw [List.head?_cons, Option.some.injEq] at hd
  exact hd ▸ hc

theorem takeWhile_isIdChar {id rest : Text} (h : IsName id) (hrest : EndsAscii rest) :
    (id ++ rest).takeWhile isIdChar = id := by
  refine (Text.takeWhile_append_of_ends (fun c hc => ?_) fun c hc => ?_).1
  · have hword := h.isWordChar c hc
    rw [isIdChar_eq (isAsciiChar_of_isWordChar hword), hword]
  · rw [isIdChar_eq (hrest c hc).1, (hrest c hc).2]

/-- A node without a label is referred to. -/
theorem node?_name {c : Cursor} {id rest : Text} (hc : c.rest = id ++ rest) (h : IsName id)
    (hrest : EndsAscii rest) (hshape : shapeAt? rest = none) :
    ∃ span after, node? c = some (id, [.refersTo id span], after) ∧ after.rest = rest := by
  have hafter : (c.advance id.length).rest = rest := by rw [rest_advance, hc, List.drop_left]
  have hempty : id.isEmpty = false := by rw [List.isEmpty_eq_false_iff]; exact h.ne_nil
  refine ⟨c.spanOf id, c.advance id.length, ?_, hafter⟩
  rw [node?]
  simp only [hc, takeWhile_isIdChar h hrest, hempty, Bool.false_eq_true, if_false, hafter, hshape,
    idFinding?_name h.isId]
  rfl

/-- A label in quotes is read up to its closing delimiter. -/
theorem label_quoted {c : Cursor} (id : Text) {shape : Shape} {inner rest : Text}
    (hc : c.rest = shape.opener :: '"' :: (inner ++ '"' :: shape.closer :: rest))
    (hquote : '"' ∉ inner) :
    ∃ marks after, label id shape c = (marks, after) ∧
      marks.map Mark.sight = (labelFindings id shape inner).map .fault ∧ after.rest = rest := by
  have hinside : (c.advance 1).rest = '"' :: inner ++ '"' :: shape.closer :: rest := by
    rw [rest_advance, hc, List.drop_one, List.tail_cons, List.cons_append]
  refine ⟨_, _, by rw [label, hinside, labelInside?_quoted shape hquote], ?_, ?_⟩
  · rw [List.map_map]
    rfl
  · rw [rest_advance, rest_advance, hinside, List.cons_append, List.drop_one, List.tail_cons,
      List.drop_length_add_append]
    rfl

/-- A node with a label is declared, and only the label may be wrong. -/
theorem node?_label {c : Cursor} {id inner rest : Text} {shape : Shape}
    (hc : c.rest = id ++ shape.opener :: '"' :: (inner ++ '"' :: shape.closer :: rest))
    (h : IsName id) (hquote : '"' ∉ inner) :
    ∃ marks after, node? c = some (id, marks, after) ∧
      marks.map Mark.sight = (labelFindings id shape inner).map .fault ++ [.declares id] ∧
      after.rest = rest := by
  have hrest : EndsAscii (shape.opener :: '"' :: (inner ++ '"' :: shape.closer :: rest)) :=
    endsAscii_cons (by cases shape <;> decide) _
  have hafter : (c.advance id.length).rest
      = shape.opener :: '"' :: (inner ++ '"' :: shape.closer :: rest) := by
    rw [rest_advance, hc, List.drop_left]
  have hempty : id.isEmpty = false := by rw [List.isEmpty_eq_false_iff]; exact h.ne_nil
  rcases label_quoted id hafter hquote with ⟨marks, after, hlabel, hmarks, hdone⟩
  refine ⟨marks ++ [.declares id (c.spanOf id)], after, ?_, ?_, hdone⟩
  · rw [node?]
    simp only [hc, takeWhile_isIdChar h hrest, hempty, Bool.false_eq_true, if_false, hafter,
      shapeAt?_opener, idFinding?_name h.isId, hlabel]
    rfl
  · rw [List.map_append, hmarks]
    rfl

/-! ### Links -/

theorem edgeLabelMarks_eq_nil {raw : Text} (h : ∀ c ∈ raw, isPrintable c = true ∧ c ≠ '"')
    (c : Cursor) : edgeLabelMarks raw c = [] := by
  have htrim : ∀ d ∈ raw.trim, isPrintable d = true ∧ d ≠ '"' := fun d hd =>
    h d ((List.dropWhile_suffix _).mem ((Text.dropEndWhile_isPrefix _ _).mem hd))
  have hquote : raw.trim.contains '"' = false := by
    rw [List.contains_eq_mem, decide_eq_false_iff_not]
    exact fun hmem => (htrim _ hmem).2 rfl
  have hascii : raw.trim.isAscii = true :=
    List.all_eq_true.2 fun d hd => isAsciiChar_of_isPrintable (htrim d hd).1
  rw [edgeLabelMarks, hquote, hascii]
  rfl

theorem link_of_nil {c : Cursor} (h : c.rest = []) : link c = ([], none) := by
  rw [link, h]
  rfl

/-- An arrow without text on it. -/
theorem link_arrow {c : Cursor} {target : Text} (hc : c.rest = arrow ++ ' ' :: target)
    (h : IsName target) : ∃ after, link c = ([], some after) ∧ after.rest = ' ' :: target := by
  have hdrop : Text.dropPrefix? arrow c.rest = some (' ' :: target) :=
    Text.dropPrefix?_eq_some_iff.2 hc
  have hafter : (c.advance arrow.length).rest = ' ' :: target := by
    rw [rest_advance, hc, List.drop_left]
  refine ⟨c.advance arrow.length, ?_, hafter⟩
  rw [link, hdrop]
  dsimp only
  split
  · rename_i body hpiped
    -- What follows the blank is a name, and no name starts with a bar.
    rw [rest_skipBlanks, hafter, List.dropWhile_cons_of_pos (by decide)] at hpiped
    have hmem : '|' ∈ target :=
      (List.dropWhile_suffix _).mem (hpiped ▸ List.mem_cons_self)
    exact absurd (h.isWordChar _ hmem) (by decide)
  · rfl

/-- An arrow with a clean label before it. -/
theorem link_text {c : Cursor} {label target : Text}
    (hc : c.rest = "-- ".toList ++ label ++ " --> ".toList ++ target)
    (h : Label.IsEdgeClean label) :
    ∃ after, link c = ([], some after) ∧ after.rest = ' ' :: target := by
  have hsplit : c.rest
      = '-' :: '-' :: ((' ' :: (label ++ [' '])) ++ (arrow ++ ' ' :: target)) := by
    rw [hc]
    simp [arrow]
  have hdrop : Text.dropPrefix? arrow c.rest = none := by
    rw [hsplit]
    rfl
  have hdashes : "-- ".toList.isPrefixOf c.rest = true := by
    rw [hsplit]
    rfl
  have hstart : (c.advance 2).rest = (' ' :: (label ++ [' '])) ++ (arrow ++ ' ' :: target) := by
    rw [rest_advance, hsplit]
    rfl
  -- A clean label has no two dashes in a row, so the first arrow is the printed one.
  have hcut : Text.cut? arrow (c.advance 2).rest
      = some (' ' :: (label ++ [' ']), ' ' :: target) := by
    have hlast : (' ' :: (label ++ [' '])).getLast? ≠ some '-' := by
      rw [← List.cons_append, List.getLast?_concat]
      decide
    rw [hstart]
    refine cut?_arrow (fun hin => ?_) hlast
    rcases List.infix_cons_iff.1 hin with hfront | hrest
    · exact absurd (List.cons_prefix_cons.1 hfront).1 (by decide)
    · exact not_isInfix_dashes h hrest
  have hmarks : edgeLabelMarks (' ' :: (label ++ [' '])) (c.advance 2) = [] := by
    refine edgeLabelMarks_eq_nil (fun d hd => ?_) _
    rw [List.mem_cons, List.mem_append, List.mem_singleton] at hd
    rcases hd with rfl | hd | rfl
    · decide
    · have hquote := LabelRules.not_isQuote_of_allows (r := .strict) rfl (h.allowed d hd)
      refine ⟨h.isPrintable d hd, ?_⟩
      rintro rfl
      exact absurd hquote (by decide)
    · decide
  refine ⟨(c.advance 2).advance ((' ' :: (label ++ [' '])).length + arrow.length), ?_, ?_⟩
  · rw [link, hdrop]
    simp only [hdashes, if_true, hcut, hmarks]
  · rw [rest_advance, hstart, List.drop_length_add_append]
    rfl

/-- What follows the first node of a printed edge. -/
theorem chain_link {c afterLink : Cursor} (source : Text) {target : Text} (h : IsName target)
    (hlink : link c.skipBlanks = ([], some afterLink)) (hafter : afterLink.rest = ' ' :: target) :
    (chain source c).map Mark.sight = [.refersTo target, .connects source target] := by
  -- There is a link, so the line is not over yet.
  have hne : ¬ c.skipBlanks.rest.isEmpty = true := by
    intro hempty
    rw [List.isEmpty_iff] at hempty
    rw [link_of_nil hempty] at hlink
    exact absurd (Prod.mk.inj hlink).2 (by simp only [reduceCtorEq, not_false_eq_true])
  have htarget : afterLink.skipBlanks.rest = target ++ [] := by
    rw [rest_skipBlanks, hafter, List.dropWhile_cons_of_pos (by decide), List.append_nil]
    exact Text.dropWhile_eq_self fun d hd =>
      not_isBlank_of_isWordChar (h.isWordChar d (List.mem_of_mem_head? hd))
  rcases node?_name htarget h endsAscii_nil rfl with ⟨span, after, hnode, hdone⟩
  have hend : chain target after = [] := by
    rw [chain_eq, rest_skipBlanks, hdone]
    rfl
  rw [chain_eq, if_neg hne, hlink]
  simp only [hnode, hend]
  rfl

/-! ### Lines -/

theorem statementText_indented {indent l : Text} (hindent : ∀ c ∈ indent, c = ' ')
    (h : IsFirm l) : statementText (indent ++ l) = l := by
  have hblank : ∀ c ∈ indent, isBlank c = true := fun c hc => hindent c hc ▸ Text.isBlank_space
  have hsemicolon : Text.dropEndWhile (· == ';') (indent ++ l) = indent ++ l := by
    refine Text.dropEndWhile_eq_self fun c hc => ?_
    rw [List.getLast?_append_of_ne_nil _ h.ne_nil] at hc
    exact beq_eq_false_iff_ne.2 (h.last c hc).2
  rw [statementText, trimEnd_indented indent h, hsemicolon, trimStart_indented hblank h]

/-- A firm line shows what its statement shows. -/
theorem sights_firm (indent : Text) {l : Text} (hindent : ∀ c ∈ indent, c = ' ')
    (h : IsFirm l) :
    ∃ c : Cursor, c.rest = l ∧ sights (indent ++ l) = (statementAt c).map Mark.sight := by
  have hblank : ∀ c ∈ indent, isBlank c = true := fun c hc => hindent c hc ▸ Text.isBlank_space
  -- Typographic characters are not printable.
  have hplain : (indent ++ l).find? isTypographic = none := by
    rw [List.find?_eq_none]
    intro c hc htypographic
    have hprint : isPrintable c = true := by
      rcases List.mem_append.1 hc with hc | hc
      · rw [hindent c hc]
        decide
      · exact h.printable c hc
    have hnot : isTypographic c = false :=
      forall_ascii (P := fun c => isTypographic c = false) (by decide +kernel)
        (isAsciiChar_of_isPrintable hprint)
    rw [hnot] at htypographic
    exact absurd htypographic (by decide)
  rcases exists_statement_eq 0 (indent ++ l) with ⟨c, hc, hstatement⟩
  refine ⟨c, hc.trans (statementText_indented hindent h), ?_⟩
  have htypographic := sight_typographicMark? 0 (indent ++ l)
  rw [hplain, Option.map_none, Option.map_eq_none_iff] at htypographic
  rw [sights, lineMarks, trim_indented hblank h, not_isIdle_of_isFirm h, htypographic, hstatement]
  rfl

/-- A comment shows nothing. -/
theorem sights_comment {l : Text} (h : "%%".toList <+: l) : sights l = [] := by
  have hidle : isIdle l.trim = true := by
    have htrim : "%%".toList <+: l.trim := by
      rcases h with ⟨rest, rfl⟩
      have hstart : Text.trimStart ("%%".toList ++ rest) = "%%".toList ++ rest := rfl
      rw [Text.trim, hstart]
      refine Text.isPrefix_dropEndWhile (List.prefix_append _ _) fun c hc => ?_
      have hc' : '%' = c := Option.some.inj hc
      rw [← hc']
      decide
    rw [isIdle, List.isPrefixOf_iff_prefix.2 htrim, Bool.or_true]
  rw [sights, lineMarks, if_pos hidle, List.map_nil]

/-- A statement that begins with a name shows what the chain of nodes shows. -/
theorem statementAt_node {c after : Cursor} {id rest : Text} {marks : List Mark}
    (hc : c.rest = id ++ rest) (h : IsId id) (hrest : Ends rest)
    (hnode : node? c = some (id, marks, after)) : statementAt c = marks ++ chain id after := by
  have hblank : ∀ c, isWordChar c = true → (!isBlank c) = true := by
    intro c hword
    rw [not_isBlank_of_isWordChar hword]
    rfl
  have hword : ∀ {k : Text}, isReserved k = true → k.all isWordChar = true →
      (id ++ rest).takeWhile (!isBlank ·) ≠ k :=
    fun hk hall => takeWhile_ne_of_isReserved hblank h hrest hk hall
  -- All words that begin statements of other kinds are reserved, and no name is.
  have hend : id ++ rest ≠ "end".toList := by
    intro heq
    refine hword (k := "end".toList) (by decide) (by decide) ?_
    rw [heq]
    rfl
  have hsubgraph := hword (k := "subgraph".toList) (by decide) (by decide)
  have hopaque : opaqueWords.any (·.toList = (id ++ rest).takeWhile (!isBlank ·)) = false := by
    rw [List.any_eq_false]
    intro k hk heq
    rw [decide_eq_true_eq] at heq
    have hkeyword : ∀ k ∈ opaqueWords, isReserved k.toList = true ∧
        k.toList.all isWordChar = true := by decide
    exact hword (hkeyword k hk).1 (hkeyword k hk).2 heq.symm
  rw [statementAt]
  simp only [hc, hend, hsubgraph, hopaque, hnode, if_false, Bool.false_eq_true]

/-! ### Statements -/

/-- The line that declares a node. -/
theorem sights_declaration {n : Node} {lines : List Text} (hfirm : IsFirm (n.declaration lines))
    (h : IsName n.id) (hquote : '"' ∉ Text.join lineBreak lines)
    (hcloser : n.shape.closer ∉ Text.join lineBreak lines) (hangle : ∀ l ∈ lines, '<' ∉ l) :
    sights (n.declaration lines)
      = (lengthFinding? n.id (Text.join [' '] lines)).toList.map .fault ++ [.declares n.id] := by
  have hsplit : n.declaration lines = n.id ++ n.shape.opener :: '"' ::
      (Text.join lineBreak lines ++ '"' :: n.shape.closer :: []) := by
    rw [Node.declaration, List.append_assoc]
    rfl
  rcases sights_firm [] (List.forall_mem_nil _) hfirm with ⟨c, hc, hsights⟩
  rw [hsplit] at hc
  rcases node?_label hc h hquote with ⟨marks, after, hnode, hmarks, hdone⟩
  have hends : EndsAscii (n.shape.opener :: '"' ::
      (Text.join lineBreak lines ++ '"' :: n.shape.closer :: [])) :=
    endsAscii_cons (by cases n.shape <;> decide) _
  -- Nothing stands behind the label, so there is no chain.
  have hchain : chain n.id after = [] := by
    rw [chain_eq, rest_skipBlanks, hdone]
    rfl
  rw [List.nil_append] at hsights
  rw [hsights, statementAt_node hc h.isId hends.ends hnode, hchain, List.append_nil, hmarks,
    labelFindings_join n.id hquote hcloser hangle]

/-- A line that names a member of a block. -/
theorem sights_memberLine {id : Text} (h : IsName id) :
    sights (Block.memberLine id) = [.refersTo id] := by
  rcases sights_firm (List.replicate 2 ' ') (fun _ => List.eq_of_mem_replicate)
    (isFirm_name h) with ⟨c, hc, hsights⟩
  have hrest : c.rest = id ++ [] := by rw [hc, List.append_nil]
  rcases node?_name hrest h endsAscii_nil rfl with ⟨span, after, hnode, hdone⟩
  have hchain : chain id after = [] := by
    rw [chain_eq, rest_skipBlanks, hdone]
    rfl
  have hline : Block.memberLine id = List.replicate 2 ' ' ++ id := rfl
  rw [hline, hsights, statementAt_node hrest h.isId endsAscii_nil.ends hnode, hchain]
  rfl

/-- The line of an edge. -/
theorem sights_edge {e : Edge} (hfirm : IsFirm e.line) (hs : IsName e.source)
    (ht : IsName e.target) (hlabel : ∀ t, e.label = some t → Label.IsEdgeClean t) :
    sights e.line
      = [.refersTo e.source, .refersTo e.target, .connects e.source e.target] := by
  rcases sights_firm [] (List.forall_mem_nil _) hfirm with ⟨c, hc, hsights⟩
  -- Whatever the line has after its first node, a link and the second node are read from it.
  have hlink : ∃ back, e.line = e.source ++ ' ' :: back ∧ ∀ d : Cursor, d.rest = ' ' :: back →
      ∃ after, link d.skipBlanks = ([], some after) ∧ after.rest = ' ' :: e.target := by
    rcases hl : e.label with _ | label
    · refine ⟨arrow ++ ' ' :: e.target, ?_, fun d hd => link_arrow ?_ ht⟩
      · rw [Edge.line, hl, List.append_assoc]
        rfl
      · rw [rest_skipBlanks, hd]
        rfl
    · refine ⟨"-- ".toList ++ label ++ " --> ".toList ++ e.target, ?_, fun d hd =>
        link_text ?_ (hlabel label hl)⟩
      · rw [Edge.line, hl]
        simp
      · rw [rest_skipBlanks, hd]
        rfl
  rcases hlink with ⟨back, hline, hread⟩
  rw [hline] at hc
  have hends : EndsAscii (' ' :: back) := endsAscii_cons (by decide) _
  rcases node?_name hc hs hends rfl with ⟨span, after, hnode, hdone⟩
  rcases hread after hdone with ⟨afterLink, hlink, hafter⟩
  rw [List.nil_append] at hsights
  rw [hsights, statementAt_node hc hs.isId hends.ends hnode, List.map_append,
    chain_link e.source ht hlink hafter]
  rfl

/-- The line that opens a block. -/
theorem sights_header {name title : Text} (hfirm : IsFirm (Block.header name title))
    (h : IsName name) : sights (Block.header name title) = [.opens name] := by
  -- The name is followed by the bracket of a title or by nothing.
  have hback : ∃ back, Block.header name title = "subgraph ".toList ++ (name ++ back) ∧
      EndsAscii back := by
    unfold Block.header
    by_cases htitle : title.isEmpty = true
    · exact ⟨[], by rw [if_pos htitle, List.append_nil, List.append_nil], endsAscii_nil⟩
    · refine ⟨'[' :: ('"' :: title ++ "\"]".toList), ?_, endsAscii_cons (by decide) _⟩
      rw [if_neg htitle]
      simp
  rcases hback with ⟨back, hline, hends⟩
  rcases sights_firm [] (List.forall_mem_nil _) hfirm with ⟨c, hc, hsights⟩
  rw [hline] at hc
  have hend : c.rest ≠ "end".toList := by
    intro heq
    rw [hc] at heq
    have hhead : 's' = 'e' := (List.cons.inj heq).1
    exact absurd hhead (by decide)
  have hword : c.rest.takeWhile (!isBlank ·) = "subgraph".toList := by
    rw [hc]
    rfl
  have hname : (c.advance "subgraph".toList.length).skipBlanks.rest = name ++ back := by
    have hdrop : ("subgraph ".toList ++ (name ++ back)).drop "subgraph".toList.length
        = ' ' :: (name ++ back) := rfl
    rw [rest_skipBlanks, rest_advance, hc, hdrop, List.dropWhile_cons_of_pos (by decide)]
    refine Text.dropWhile_eq_self fun d hd => ?_
    rw [List.head?_append_of_ne_nil _ h.ne_nil] at hd
    exact not_isBlank_of_isWordChar (h.isWordChar d (List.mem_of_mem_head? hd))
  rw [List.nil_append] at hsights
  rw [hsights, statementAt]
  simp only [hend, if_false, hword, if_true, hname, takeWhile_isIdChar h hends]
  rfl

theorem sights_end : sights "end".toList = [.closes] := by
  decide +kernel

end Lint

end Flowchart
