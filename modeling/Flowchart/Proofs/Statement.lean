import Flowchart.Grammar.Statement
import Flowchart.Proofs.EdgeLabel
import Flowchart.Proofs.Identifier

/-!
# Accepted Statements

The lines that a diagram is printed as, read back one at a time: a node with or
without a label, a link with or without text on it, and the line that opens a
block.

A reader of the grammar takes as much as it can, so each of these facts asks
what comes next. After an identifier no character of a word may follow. A label
must not hold its own closing delimiter, and the text on a link must not hold
two dashes, or the reader would stop there.

Keywords are no trouble. A line that starts with a name starts with no keyword,
since the first word of the line is that name or holds something that no keyword
does.

## Main definitions

* `Grammar.Ends`: What can follow an identifier.

## Theorems

* `Grammar.nodeRef_name`, `Grammar.nodeRef_label`: Nodes are read back.
* `Grammar.link_arrow`, `Grammar.link_text`: Links are read back.
* `Grammar.statement_node`: A line that starts with a name is a chain of nodes.
* `Grammar.statement_edge`, `Grammar.statement_labelledEdge`: Edges are
  accepted.
* `Grammar.blockHeader_name`, `Grammar.blockHeader_title`: Lines that open a
  block are accepted.
-/

namespace Flowchart

namespace Grammar

open Identifier

/-- Nothing that would go on an identifier: the text is empty or starts with
    some other character. -/
def Ends (rest : Text) : Prop := ∀ c, rest.head? = some c → isWordChar c = false

theorem ends_nil : Ends [] := by
  intro c hc
  exact absurd hc (by simp only [List.head?_nil, reduceCtorEq, not_false_eq_true])

theorem ends_cons {c : Char} (hc : isWordChar c = false) (rest : Text) : Ends (c :: rest) := by
  intro d hd
  rw [List.head?_cons, Option.some.injEq] at hd
  rw [← hd]
  exact hc

/-! ### Identifiers -/

/-- A name is read up to where it ends. -/
theorem identifier?_name {id rest : Text} (h : IsId id) (hrest : Ends rest) :
    identifier? (id ++ rest) = some (id, rest) := by
  rcases (isLegal_iff.1 h.legal).1 with ⟨c, hc, hstart⟩
  have hword := h.isWordChar
  rcases id with _ | ⟨d, id⟩
  · exact absurd rfl h.ne_nil
  · rw [List.head?_cons, Option.some.injEq] at hc
    have hrun : ∀ e ∈ id, isWordChar e = true := fun e he => hword e (List.mem_cons_of_mem d he)
    rcases Text.takeWhile_append_of_ends hrun hrest with ⟨htake, hdrop⟩
    rw [List.cons_append, identifier?, hc, if_pos hstart, htake, hdrop]

theorem name_name {id rest : Text} (h : IsId id) (hrest : Ends rest) (token : String) :
    name token (id ++ rest) = .ok (id, rest) := by
  rw [name, identifier?_name h hrest]
  simp only [h.free, Bool.false_eq_true, if_false]

/-! ### Labels -/

/-- A label in quotes, read up to the closing delimiter that it does not
    hold. -/
theorem label_quoted (shape : Shape) {inner : Text} (hquote : '"' ∉ inner)
    (hcloser : shape.closer ∉ inner) (rest : Text) :
    label shape ('"' :: inner ++ '"' :: shape.closer :: rest) = .ok rest := by
  have hne : '"' ≠ shape.closer := by cases shape <;> decide
  -- The reader takes all up to the first closing delimiter, quotes included.
  have hrun : ∀ c ∈ '"' :: inner ++ ['"'], (c != shape.closer) = true := by
    intro c hc
    rw [bne_iff_ne]
    rcases List.mem_append.1 hc with hc | hc
    · rcases List.mem_cons.1 hc with rfl | hc
      · exact hne
      · exact fun heq => hcloser (heq ▸ hc)
    · exact List.mem_singleton.1 hc ▸ hne
  have hstop : ∀ c, (shape.closer :: rest).head? = some c → (c != shape.closer) = false := by
    intro c hc
    rw [List.head?_cons, Option.some.injEq] at hc
    rw [hc, bne_self_eq_false]
  have hsplit : '"' :: inner ++ '"' :: shape.closer :: rest
      = ('"' :: inner ++ ['"']) ++ shape.closer :: rest := by
    rw [List.append_assoc, List.singleton_append]
  have hbody : labelBody? shape ('"' :: inner ++ '"' :: shape.closer :: rest)
      = some ('"' :: inner ++ ['"'], rest) := by
    rcases Text.takeWhile_append_of_ends hrun hstop with ⟨htake, hdrop⟩
    rw [hsplit, labelBody?, hdrop]
    simp only [htake]
  have hlabel : isLabel ('"' :: inner ++ ['"']) = true := by
    have hend : Text.dropSuffix? ['"'] (inner ++ ['"']) = some inner :=
      Text.dropSuffix?_eq_some_iff.2 rfl
    rw [List.cons_append, isLabel, hend]
    simpa using hquote
  rw [label, hbody]
  simp only [hlabel, if_true]

/-! ### Nodes -/

/-- A node without a label. -/
theorem nodeRef_name {id rest : Text} (h : IsName id) (hrest : Ends rest)
    (hshape : shapeAt? rest = none) : nodeRef (id ++ rest) = .ok (none, rest) := by
  rw [nodeRef, name_name h.isId hrest]
  simp only [bind, Except.bind, hshape]
  rfl

theorem shapeAt?_opener (shape : Shape) (rest : Text) :
    shapeAt? (shape.opener :: rest) = some shape := by
  cases shape <;> rfl

theorem ends_opener (shape : Shape) (rest : Text) : Ends (shape.opener :: rest) :=
  ends_cons (by cases shape <;> decide) rest

/-- A node with something that opens a label is what the label is. -/
theorem nodeRef_opener {id : Text} (h : IsId id) (shape : Shape) (inside : Text) :
    nodeRef (id ++ shape.opener :: inside)
      = (label shape inside).map fun rest => (some shape, rest) := by
  rw [nodeRef, name_name h (ends_opener shape inside)]
  simp only [bind, Except.bind, shapeAt?_opener, List.tail_cons]
  cases label shape inside <;> rfl

/-- A node with a label in quotes. -/
theorem nodeRef_label {id inner : Text} {shape : Shape} (h : IsName id) (hquote : '"' ∉ inner)
    (hcloser : shape.closer ∉ inner) (rest : Text) :
    nodeRef (id ++ shape.opener :: '"' :: inner ++ '"' :: shape.closer :: rest)
      = .ok (some shape, rest) := by
  rw [List.append_assoc, List.cons_append, nodeRef_opener h.isId,
    label_quoted shape hquote hcloser]
  rfl

/-! ### Links -/

/-- An arrow without text on it. -/
theorem link_arrow {rest : Text} (h : (rest.dropWhile isLinkBlank).head? ≠ some '|') :
    link (arrow ++ rest) = .ok (none, rest) := by
  have hdrop : Text.dropPrefix? arrow (arrow ++ rest) = some rest :=
    Text.dropPrefix?_eq_some_iff.2 rfl
  unfold link
  rw [hdrop]
  dsimp only
  split
  · rename_i piped heq
    rw [heq] at h
    exact absurd rfl h
  · rfl

/-- An arrow is found where it first can be, after a text without two dashes in
    a row and without a dash at its end. -/
theorem cut?_arrow {before after : Text} (hdashes : ¬ ['-', '-'] <:+: before)
    (hlast : before.getLast? ≠ some '-') :
    Text.cut? arrow (before ++ (arrow ++ after)) = some (before, after) := by
  induction before with
  | nil =>
    have hprefix : Text.dropPrefix? arrow (arrow ++ after) = some after :=
      Text.dropPrefix?_eq_some_iff.2 rfl
    rw [arrow, List.cons_append] at hprefix
    rw [List.nil_append, arrow, List.cons_append, Text.cut?, hprefix]
  | cons c before ih =>
    -- An arrow right here would put two dashes in a row, or one at the end.
    have hnone : Text.dropPrefix? arrow (c :: (before ++ (arrow ++ after))) = none := by
      by_contra hsome
      rcases Option.ne_none_iff_exists'.1 hsome with ⟨rest, hrest⟩
      have heq := Text.dropPrefix?_eq_some_iff.1 hrest
      simp only [arrow, List.cons_append, List.cons.injEq] at heq
      rcases before with _ | ⟨d, before⟩
      · exact hlast (by rw [heq.1]; rfl)
      · rw [List.cons_append, List.cons.injEq] at heq
        exact hdashes ⟨[], before, by rw [heq.1, heq.2.1]; rfl⟩
    have hrest : Text.cut? arrow (before ++ (arrow ++ after)) = some (before, after) := by
      refine ih (fun hin => hdashes (List.infix_cons hin)) fun hl => ?_
      rcases before with _ | ⟨d, before⟩
      · exact absurd hl (by simp only [List.getLast?_nil, reduceCtorEq, not_false_eq_true])
      · exact hlast (by rw [List.getLast?_cons_cons, hl])
    rw [List.cons_append, Text.cut?, hnone, hrest]
    rfl

theorem not_isInfix_dashes {label : Text} (h : Label.IsEdgeClean label) :
    ¬ ['-', '-'] <:+: label ++ [' '] := by
  intro hin
  have hspace : ' ' ∉ ['-', '-'] := by decide
  rcases Text.isInfix_of_append_cons hspace hin with hin | hin
  · exact h.singleDashes hin
  · exact absurd (List.infix_nil.1 hin) (List.cons_ne_nil _ _)

/-- An arrow with text before it. -/
theorem link_text {label : Text} (h : Label.IsEdgeClean label) (hne : label ≠ []) (rest : Text) :
    link ("-- ".toList ++ label ++ " --> ".toList ++ rest)
      = .ok (some (label ++ [' ']), ' ' :: rest) := by
  have hsplit : "-- ".toList ++ label ++ " --> ".toList ++ rest
      = '-' :: '-' :: ' ' :: ((label ++ [' ']) ++ (arrow ++ ' ' :: rest)) := by
    simp [arrow]
  have hnone : Text.dropPrefix? arrow
      ('-' :: '-' :: ' ' :: ((label ++ [' ']) ++ (arrow ++ ' ' :: rest))) = none := rfl
  have hdashes := not_isInfix_dashes h
  have hlast : (label ++ [' ']).getLast? ≠ some '-' := by
    rw [List.getLast?_concat]
    decide
  -- The label does not start with a blank, so only the space before it is passed over.
  have hblank : (' ' :: ((label ++ [' ']) ++ (arrow ++ ' ' :: rest))).dropWhile isLinkBlank
      = (label ++ [' ']) ++ (arrow ++ ' ' :: rest) := by
    rw [List.dropWhile_cons_of_pos (by decide), Text.dropWhile_eq_self]
    intro c hc
    have hhead : label.head? = some c := by
      rw [List.append_assoc, List.head?_append_of_ne_nil _ hne] at hc
      exact hc
    have hb : isBlank c = false := h.spaced.head c hhead
    rw [isLinkBlank, Bool.or_eq_false_iff, beq_eq_false_iff_ne, beq_eq_false_iff_ne]
    refine ⟨?_, ?_⟩
    · rintro rfl
      exact absurd hb (by decide)
    · rintro rfl
      exact absurd hb (by decide)
  rw [hsplit, link, hnone]
  simp only [hblank, cut?_arrow hdashes hlast, (by decide : isLinkBlank ' ' = true), if_true]
  rcases label with _ | ⟨c, label⟩
  · exact absurd rfl hne
  · rfl

/-- A clean label is text that can stand on a link. -/
theorem edgeText_label {label : Text} (h : Label.IsEdgeClean label) (hne : label ≠ []) :
    edgeText (label ++ [' ']) = .ok () := by
  have hquote : (label ++ [' ']).contains '"' = false := by
    rw [List.contains_eq_mem, decide_eq_false_iff_not, List.mem_append]
    rintro (hmem | hmem)
    · have hq := LabelRules.not_isQuote_of_allows (r := .strict) rfl (h.allowed _ hmem)
      exact absurd hq (by decide)
    · exact absurd (List.mem_singleton.1 hmem) (by decide)
  have hbar : (label ++ [' ']).contains '|' = false := by
    rw [List.contains_eq_mem, decide_eq_false_iff_not, List.mem_append]
    rintro (hmem | hmem)
    · exact h.noBar hmem
    · exact absurd (List.mem_singleton.1 hmem) (by decide)
  have hblank : Text.isBlankText (label ++ [' ']) = false := by
    rcases label with _ | ⟨c, label⟩
    · exact absurd rfl hne
    · rw [Text.isBlankText, List.cons_append, List.all_cons, h.spaced.head c rfl, Bool.false_and]
  rw [edgeText, hquote, hbar, hblank]
  rfl

/-! ### Chains -/

theorem chain_nil (closed : Option Shape) : chain closed [] = .ok () := by
  rw [chain]
  rfl

/-- One link and one node of a chain. -/
theorem chain_link {closed closed' : Option Shape} {t after rest : Text} {text : Option Text}
    (hlink : link t.trimStart = .ok (text, after))
    (htext : ∀ l, text = some l → edgeText l = .ok ())
    (hnode : nodeRef after.trimStart = .ok (closed', rest)) :
    chain closed t = chain closed' rest := by
  have hne : ¬ t.trimStart.isEmpty = true := by
    intro hempty
    rw [List.isEmpty_iff] at hempty
    rw [hempty] at hlink
    exact absurd hlink (by simp [link, Text.dropPrefix?, arrow])
  have hok : (text.map edgeText).getD (.ok ()) = .ok () := by
    cases text with
    | none => rfl
    | some l => exact htext l rfl
  rw [chain, if_neg hne]
  -- The conditions decide every choice that the chain has.
  split
  · rename_i place heq
    rw [hlink] at heq
    exact absurd heq (by simp only [reduceCtorEq, not_false_eq_true])
  · rename_i text' after' heq
    rw [hlink, Except.ok.injEq, Prod.mk.injEq] at heq
    rcases heq with ⟨rfl, rfl⟩
    rw [hok]
    dsimp only
    split
    · rename_i e heq
      rw [hnode] at heq
      exact absurd heq (by simp only [reduceCtorEq, not_false_eq_true])
    · rename_i closed'' rest' heq
      rw [hnode, Except.ok.injEq, Prod.mk.injEq] at heq
      rw [heq.1, heq.2]

/-! ### Statements -/

/-- A line that starts with a name starts with no reserved word, whatever sets
    words apart. -/
theorem takeWhile_ne_of_isReserved {p : Char → Bool} (hp : ∀ c, isWordChar c = true → p c = true)
    {id rest : Text} (h : IsId id) (hrest : Ends rest) {k : Text} (hk : isReserved k = true)
    (hword : k.all isWordChar = true) : (id ++ rest).takeWhile p ≠ k := by
  intro heq
  rw [List.takeWhile_append_of_pos fun c hc => hp c (h.isWordChar c hc)] at heq
  -- Whatever stands after the name in the word is no character of a keyword.
  rcases hmore : rest.takeWhile p with _ | ⟨c, more⟩
  · rw [hmore, List.append_nil] at heq
    rw [← heq, h.free] at hk
    exact absurd hk (by decide)
  · have hhead : rest.head? = some c := by
      rcases List.takeWhile_prefix p (l := rest) with ⟨u, hu⟩
      rw [← hu, hmore]
      rfl
    have hmem : c ∈ k := by
      rw [← heq, hmore]
      exact List.mem_append_right _ List.mem_cons_self
    have hc := List.all_eq_true.1 hword c hmem
    rw [hrest c hhead] at hc
    exact absurd hc (by decide)

theorem word_ne_of_isReserved {id rest : Text} (h : IsId id) (hrest : Ends rest) {k : Text}
    (hk : isReserved k = true) (hword : k.all isWordChar = true) : word (id ++ rest) ≠ k := by
  refine takeWhile_ne_of_isReserved (fun c hc => ?_) h hrest hk hword
  rw [not_isAsciiBlank_of_isWordChar hc]
  rfl

/-- A line that starts with a name is read as a chain of nodes. -/
theorem statement_node {id rest after : Text} {closed : Option Shape} (h : IsId id)
    (hrest : Ends rest) (hnode : nodeRef (id ++ rest) = .ok (closed, after))
    (hchain : chain closed after = .ok ()) : statement (id ++ rest) = .ok .none := by
  -- The three other kinds of lines are told by their first word.
  have hend : id ++ rest ≠ "end".toList := by
    intro heq
    refine word_ne_of_isReserved h hrest (k := "end".toList) (by decide) (by decide) ?_
    rw [heq]
    rfl
  have hsubgraph : word (id ++ rest) ≠ "subgraph".toList :=
    word_ne_of_isReserved h hrest (by decide) (by decide)
  have hopaque : opaqueWords.any (·.toList = word (id ++ rest)) = false := by
    rw [List.any_eq_false]
    intro k hk heq
    rw [decide_eq_true_eq] at heq
    have hkeyword : ∀ k ∈ opaqueWords, isReserved k.toList = true ∧
        k.toList.all isWordChar = true := by decide
    exact word_ne_of_isReserved h hrest (hkeyword k hk).1 (hkeyword k hk).2 heq.symm
  rw [statement]
  simp only [hend, hsubgraph, hopaque, hnode, hchain, if_false, Bool.false_eq_true, bind,
    Except.bind]
  rfl

/-- A name alone. -/
theorem statement_name {id : Text} (h : IsName id) : statement id = .ok .none := by
  have hnode : nodeRef (id ++ []) = .ok (none, []) := nodeRef_name h ends_nil rfl
  have hstatement := statement_node h.isId ends_nil hnode (chain_nil none)
  rwa [List.append_nil] at hstatement

/-- A name with a label in quotes. -/
theorem statement_label {id inner : Text} {shape : Shape} (h : IsName id) (hquote : '"' ∉ inner)
    (hcloser : shape.closer ∉ inner) :
    statement (id ++ shape.opener :: '"' :: inner ++ ['"', shape.closer]) = .ok .none := by
  have hnode := nodeRef_label h hquote hcloser []
  rw [List.append_assoc] at hnode ⊢
  exact statement_node h.isId (ends_opener shape _) hnode (chain_nil _)

/-- What is left of a line after a blank and a name is that name. -/
theorem nodeRef_trimStart {target : Text} (h : IsName target) :
    nodeRef (Text.trimStart (' ' :: target)) = .ok (none, []) := by
  have htrim : Text.trimStart (' ' :: target) = target := by
    rw [Text.trimStart, List.dropWhile_cons_of_pos (by decide),
      Text.dropWhile_eq_self fun c hc => ?_]
    exact not_isBlank_of_isWordChar (h.isWordChar c (List.mem_of_mem_head? hc))
  have hnode : nodeRef (target ++ []) = .ok (none, []) := nodeRef_name h ends_nil rfl
  rw [htrim]
  rwa [List.append_nil] at hnode

/-- Two names with an arrow between them. -/
theorem statement_edge {source target : Text} (hs : IsName source) (ht : IsName target) :
    statement (source ++ " --> ".toList ++ target) = .ok .none := by
  have hnode : nodeRef (source ++ (" --> ".toList ++ target))
      = .ok (none, " --> ".toList ++ target) :=
    nodeRef_name hs (ends_cons (by decide) _) rfl
  have hlink : link (Text.trimStart (" --> ".toList ++ target)) = .ok (none, ' ' :: target) := by
    -- No bar follows the arrow, so there is no text on it.
    have hhead : ((' ' :: target).dropWhile isLinkBlank).head? ≠ some '|' := by
      rw [List.dropWhile_cons_of_pos (by decide)]
      intro hbar
      have hmem : '|' ∈ target := (List.dropWhile_suffix _).mem (List.mem_of_mem_head? hbar)
      exact absurd (ht.isWordChar _ hmem) (by decide)
    exact link_arrow hhead
  have hchain : chain none (" --> ".toList ++ target) = .ok () := by
    rw [chain_link hlink (fun l hl => absurd hl (by simp)) (nodeRef_trimStart ht)]
    exact chain_nil none
  rw [List.append_assoc]
  exact statement_node hs.isId (ends_cons (by decide) _) hnode hchain

/-- Two names with an arrow between them and text on it. -/
theorem statement_labelledEdge {source label target : Text} (hs : IsName source)
    (h : Label.IsEdgeClean label) (hne : label ≠ []) (ht : IsName target) :
    statement (source ++ " -- ".toList ++ label ++ " --> ".toList ++ target) = .ok .none := by
  have hsplit : source ++ " -- ".toList ++ label ++ " --> ".toList ++ target
      = source ++ (' ' :: ("-- ".toList ++ label ++ " --> ".toList ++ target)) := by
    simp
  have hnode : nodeRef (source ++ (' ' :: ("-- ".toList ++ label ++ " --> ".toList ++ target)))
      = .ok (none, ' ' :: ("-- ".toList ++ label ++ " --> ".toList ++ target)) :=
    nodeRef_name hs (ends_cons (by decide) _) rfl
  have hlink : link (Text.trimStart (' ' :: ("-- ".toList ++ label ++ " --> ".toList ++ target)))
      = .ok (some (label ++ [' ']), ' ' :: target) := link_text h hne target
  -- The text on the link takes a blank along, since the arrow has one before it.
  have hchain : chain none (' ' :: ("-- ".toList ++ label ++ " --> ".toList ++ target))
      = .ok () := by
    have htext : ∀ l, some (label ++ [' ']) = some l → edgeText l = .ok () := fun l hl =>
      Option.some.inj hl ▸ edgeText_label h hne
    rw [chain_link hlink htext (nodeRef_trimStart ht)]
    exact chain_nil none
  rw [hsplit]
  exact statement_node hs.isId (ends_cons (by decide) _) hnode hchain

/-! ### Blocks -/

/-- A line that opens a block without a title. -/
theorem blockHeader_name {name : Text} (h : IsName name) : blockHeader name = .ok () := by
  have hid : identifier? (name ++ []) = some (name, []) := identifier?_name h.isId ends_nil
  rw [List.append_nil] at hid
  rw [blockHeader, hid]
  simp only [h.free]
  rfl

/-- A line that opens a block with a title. -/
theorem blockHeader_title {name title : Text} (h : IsName name) (hquote : '"' ∉ title)
    (hcloser : ']' ∉ title) :
    blockHeader (name ++ "[\"".toList ++ title ++ "\"]".toList) = .ok () := by
  have hsplit : name ++ "[\"".toList ++ title ++ "\"]".toList
      = name ++ '[' :: ('"' :: title ++ ['"', ']']) := by
    simp
  have hid := identifier?_name h.isId (ends_cons (by decide : isWordChar '[' = false)
    ('"' :: title ++ ['"', ']']))
  have hlabel : label .rect ('"' :: title ++ ['"', ']']) = .ok [] :=
    label_quoted .rect hquote hcloser []
  rw [hsplit, blockHeader, hid]
  simp only [h.free, Bool.false_eq_true, if_false, bind, Except.bind, hlabel]

/-- A line that opens a block starts with a keyword, a blank and a name. -/
theorem statement_block {rest : Text} (hhead : ∀ c, rest.head? = some c → isBlank c = false)
    (h : blockHeader rest = .ok ()) : statement ("subgraph ".toList ++ rest) = .ok .opens := by
  have hword : word ("subgraph ".toList ++ rest) = "subgraph".toList := rfl
  have hrest : Text.trimStart (("subgraph ".toList ++ rest).drop "subgraph".toList.length)
      = rest := by
    have hdrop : ("subgraph ".toList ++ rest).drop "subgraph".toList.length = ' ' :: rest := rfl
    rw [hdrop, Text.trimStart, List.dropWhile_cons_of_pos (by decide), Text.dropWhile_eq_self hhead]
  have hend : "subgraph ".toList ++ rest ≠ "end".toList := by
    intro heq
    have hhead : 's' = 'e' := (List.cons.inj heq).1
    exact absurd hhead (by decide)
  rw [statement]
  simp only [hend, if_false, hword, if_true, hrest, h]
  rfl

end Grammar

end Flowchart
