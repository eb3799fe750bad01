import Flowchart.Proofs.Alarm
import Flowchart.Proofs.Inversion
import Flowchart.Proofs.Reading

/-!
# Two Readers of a Node

What the linter sees of a node, against what the grammar makes of it.

The two go by different characters. On plain texts, which have no characters but
ASCII and blanks, an identifier ends for both of them at the same place.

They also look for the end of a label in different ways. The grammar takes the
first closing delimiter, and the linter takes the first one right after a quote if
the label begins with a quote. In a label that the grammar accepts this is the same
one. Where the grammar reads no node, the linter raises an alarm, with two
exceptions: it passes over what does not look like a node at all, and it has no
complaint about brackets in a label without quotes.

## Main definitions

* `Lint.IsPlain`: A text of ASCII characters and blanks.
* `Lint.NoNode`: What is wrong with a node without the linter seeing it.

## Theorems

* `Lint.label_of_ok`, `Lint.label_of_notMem`, `Lint.label_of_quote`: Labels.
* `Lint.node?_of_ok`: A node that the grammar reads raises no alarm.
* `Lint.node?_of_error`: A node that the grammar does not read.
-/

namespace Flowchart

namespace Lint

open Identifier Grammar

/-! ### Plain texts -/

/-- Every character is ASCII or a blank. -/
def IsPlain (t : Text) : Prop := ∀ c ∈ t, isAsciiChar c = true ∨ isBlank c = true

theorem IsPlain.of_isSuffix {s t : Text} (h : IsPlain t) (hs : s <:+ t) : IsPlain s :=
  fun c hc => h c (hs.mem hc)

theorem IsPlain.trimStart {t : Text} (h : IsPlain t) : IsPlain t.trimStart :=
  h.of_isSuffix (List.dropWhile_suffix _)

/-- No blank of any script goes on an identifier. -/
theorem not_isIdChar_of_isBlank {c : Char} (h : isBlank c = true) : isIdChar c = false := by
  have hall : ∀ n ∈ [9, 10, 11, 12, 13, 32, 0x85, 0xA0, 0x1680, 0x2000, 0x2001, 0x2002, 0x2003,
      0x2004, 0x2005, 0x2006, 0x2007, 0x2008, 0x2009, 0x200A, 0x2028, 0x2029, 0x202F, 0x205F,
      0x3000], isIdChar (Char.ofNat n) = false := by decide +kernel
  rw [← Char.ofNat_toNat c]
  refine hall c.toNat ?_
  simp only [isBlank, Bool.or_eq_true, Bool.and_eq_true, decide_eq_true_eq, beq_iff_eq] at h
  simp only [List.mem_cons, List.not_mem_nil, or_false]
  omega

theorem isIdChar_eq_of_isPlain {c : Char} (h : isAsciiChar c = true ∨ isBlank c = true) :
    isIdChar c = isWordChar c := by
  rcases h with hascii | hblank
  · exact isIdChar_eq hascii
  · rw [not_isIdChar_of_isBlank hblank, eq_comm, Bool.eq_false_iff]
    intro hword
    rw [not_isBlank_of_isWordChar hword] at hblank
    exact absurd hblank (by decide)

/-- Characters of words are taken into an identifier, and it ends where they do. -/
theorem takeWhile_isIdChar_of_isPlain {id rest : Text} (hid : ∀ c ∈ id, isWordChar c = true)
    (hends : Ends rest) (h : IsPlain (id ++ rest)) : (id ++ rest).takeWhile isIdChar = id := by
  refine (Text.takeWhile_append_of_ends (fun c hc => ?_) fun c hc => ?_).1
  · rw [isIdChar_eq_of_isPlain (h c (List.mem_append_left _ hc))]
    exact hid c hc
  · rw [isIdChar_eq_of_isPlain (h c (List.mem_append_right _ (List.mem_of_mem_head? hc)))]
    exact hends c hc

/-! ### Labels -/

/-- There are four complaints about a label. -/
theorem mem_labelFindings_iff {id : Text} {shape : Shape} {inner : Text} {f : Finding} :
    f ∈ labelFindings id shape inner ↔
      (shape.closer ∈ inner ∧ f = .closerInLabel id shape) ∨
        ('"' ∈ inner ∧ f = .quoteInLabel id) ∨
        (hasTag (visible inner) = true ∧ f = .htmlInLabel id) ∨
        (maxLabelChars < (visible inner).length ∧ f = .longLabel id (visible inner).length) := by
  simp only [labelFindings, List.mem_append, List.mem_ite_nil_right, List.contains_iff_mem,
    List.mem_singleton, or_assoc]

/-- What is found in a label that holds neither its closing delimiter nor a quote is
    no fault of syntax. -/
theorem not_alarms_labelFindings (id : Text) {shape : Shape} {inner : Text}
    (hcloser : shape.closer ∉ inner) (hquote : '"' ∉ inner) :
    ¬ Alarms ((labelFindings id shape inner).map .fault) := by
  rintro ⟨f, hf, hcode⟩
  rcases List.mem_map.1 hf with ⟨g, hg, hfg⟩
  rw [← Sight.fault.inj hfg] at hcode
  rcases mem_labelFindings_iff.1 hg with ⟨hmem, -⟩ | ⟨hmem, -⟩ | ⟨-, rfl⟩ | ⟨-, rfl⟩
  · exact hcloser hmem
  · exact hquote hmem
  · exact absurd hcode (by decide : IssueCode.htmlInLabel ∉ IssueCode.syntactic)
  · exact absurd hcode (by decide : IssueCode.tooLongLabel ∉ IssueCode.syntactic)

theorem alarms_labelFindings (id : Text) {shape : Shape} {inner : Text}
    (h : shape.closer ∈ inner ∨ '"' ∈ inner) :
    Alarms ((labelFindings id shape inner).map .fault) := by
  rcases h with hcloser | hquote
  · exact alarms_of_mem (List.mem_map_of_mem (mem_labelFindings_iff.2 (Or.inl ⟨hcloser, rfl⟩)))
      (by decide : IssueCode.closerInLabel ∈ IssueCode.syntactic)
  · exact alarms_of_mem
      (List.mem_map_of_mem (mem_labelFindings_iff.2 (Or.inr (Or.inl ⟨hquote, rfl⟩))))
      (by decide : IssueCode.quoteInLabel ∈ IssueCode.syntactic)

/-- A label without quotes is read up to its first closing delimiter. -/
theorem label_bare {c : Cursor} (id : Text) {shape : Shape} {body rest : Text}
    (hc : c.rest = shape.opener :: (body ++ shape.closer :: rest)) (hcloser : shape.closer ∉ body)
    (hhead : body.head? ≠ some '"') :
    ∃ marks after, label id shape c = (marks, after) ∧
      marks.map Mark.sight = (labelFindings id shape body).map .fault ∧ after.rest = rest := by
  have hinside : (c.advance 1).rest = body ++ shape.closer :: rest := by
    rw [rest_advance, hc, List.drop_one, List.tail_cons]
  -- A quote at the front would make it a label in quotes, which ends elsewhere.
  have hread : labelInside? shape (body ++ shape.closer :: rest) = some (0, body, 1) := by
    have hcut : Text.cut? [shape.closer] (body ++ shape.closer :: rest) = some (body, rest) :=
      Text.cut?_append hcloser rest
    unfold labelInside?
    split
    · rename_i quoted heq
      rcases body with _ | ⟨d, body⟩
      · have hne : shape.closer ≠ '"' := by cases shape <;> decide
        exact absurd (List.cons.inj heq).1 hne
      · exact absurd (congrArg some (List.cons.inj heq).1) hhead
    · rw [hcut]
      rfl
  refine ⟨_, _, by rw [label, hinside, hread], ?_, ?_⟩
  · rw [List.map_map]
    rfl
  · rw [rest_advance, rest_advance, hinside, List.drop_zero, List.drop_length_add_append]
    rfl

/-- A label that the grammar reads raises no alarm, and both go on behind it. -/
theorem label_of_ok {c : Cursor} (id : Text) {shape : Shape} {inside rest : Text}
    (hc : c.rest = shape.opener :: inside) (h : Grammar.label shape inside = .ok rest) :
    ∃ marks after, label id shape c = (marks, after) ∧ ¬ Alarms (marks.map Mark.sight) ∧
      after.rest = rest := by
  rcases label_eq_ok_iff.1 h with ⟨body, rfl, hcloser, hlabel⟩
  -- The two ways to be a label are the two ways in which the linter reads one.
  rcases isLabel_iff.1 hlabel with ⟨inner, rfl, hquote⟩ | hbare
  · have hc' : c.rest = shape.opener :: '"' :: (inner ++ '"' :: shape.closer :: rest) := by
      rw [hc, List.append_assoc]
      rfl
    have hinner : shape.closer ∉ inner := fun hmem =>
      hcloser (List.mem_append_left _ (List.mem_cons_of_mem _ hmem))
    rcases label_quoted id hc' hquote with ⟨marks, after, hread, hmarks, hafter⟩
    exact ⟨marks, after, hread, hmarks ▸ not_alarms_labelFindings id hinner hquote, hafter⟩
  · have hquote : '"' ∉ body := fun hmem => (hbare _ hmem).1 rfl
    have hhead : body.head? ≠ some '"' := fun hhead => hquote (List.mem_of_mem_head? hhead)
    rcases label_bare id hc hcloser hhead with ⟨marks, after, hread, hmarks, hafter⟩
    exact ⟨marks, after, hread, hmarks ▸ not_alarms_labelFindings id hcloser hquote, hafter⟩

theorem label_of_notMem {c : Cursor} (id : Text) {shape : Shape} {inside : Text}
    (hc : c.rest = shape.opener :: inside) (h : shape.closer ∉ inside) :
    Alarms ((label id shape c).1.map Mark.sight) := by
  have hinside : (c.advance 1).rest = inside := by
    rw [rest_advance, hc, List.drop_one, List.tail_cons]
  -- What would be found ends in the closing delimiter.
  have hcut : ∀ {pattern t : Text}, shape.closer ∈ pattern → shape.closer ∉ t →
      Text.cut? pattern t = none := by
    intro pattern t hpattern ht
    rcases hfound : Text.cut? pattern t with _ | ⟨before, after⟩
    · rfl
    · rw [Text.eq_of_cut? hfound] at ht
      exact absurd (List.mem_append_left _ (List.mem_append_right _ hpattern)) ht
  have hread : labelInside? shape inside = none := by
    unfold labelInside?
    split
    · rename_i quoted
      rw [hcut (List.mem_cons_of_mem _ (List.mem_singleton_self _)) fun hmem =>
        h (List.mem_cons_of_mem _ hmem)]
      rfl
    · rw [hcut (List.mem_singleton_self _) h]
      rfl
  rw [label, hinside, hread]
  exact alarms_of_mem List.mem_cons_self (by decide : IssueCode.closerInLabel ∈ IssueCode.syntactic)

/-- What the linter takes from the quotes of a wrong label holds another quote or the
    closing delimiter. Otherwise the body would be a label. -/
theorem mem_of_not_isLabel {shape : Shape} {quoted inner rest after : Text}
    (hcloser : shape.closer ∉ quoted)
    (hcut : Text.cut? ['"', shape.closer] (quoted ++ shape.closer :: rest) = some (inner, after))
    (hlabel : isLabel ('"' :: quoted) = false) : shape.closer ∈ inner ∨ '"' ∈ inner := by
  by_contra hnone
  rw [not_or] at hnone
  have hfront : shape.closer ∉ inner ++ ['"'] := by
    rw [List.mem_append, List.mem_singleton, not_or]
    exact ⟨hnone.1, by cases shape <;> decide⟩
  have hsplit : quoted ++ shape.closer :: rest = (inner ++ ['"']) ++ shape.closer :: after := by
    rw [Text.eq_of_cut? hcut]
    simp only [List.append_assoc, List.cons_append, List.nil_append]
  -- The first closing delimiter is at one place.
  have heq := congrArg (Option.map Prod.fst ∘ labelBody? shape) hsplit
  simp only [Function.comp_apply, labelBody?_append hcloser, labelBody?_append hfront,
    Option.map_some, Option.some.injEq] at heq
  have htrue : isLabel ('"' :: quoted) = true :=
    isLabel_iff.2 (Or.inl ⟨inner, by rw [heq, List.cons_append], hnone.2⟩)
  rw [htrue] at hlabel
  exact absurd hlabel (by decide)

/-- A label that is wrong for its quotes raises an alarm. -/
theorem label_of_quote {c : Cursor} (id : Text) {shape : Shape} {body rest : Text}
    (hc : c.rest = shape.opener :: (body ++ shape.closer :: rest)) (hcloser : shape.closer ∉ body)
    (hlabel : isLabel body = false) (hquote : '"' ∈ body) :
    Alarms ((label id shape c).1.map Mark.sight) := by
  by_cases hhead : body.head? = some '"'
  · rcases List.head?_eq_some_iff.1 hhead with ⟨quoted, rfl⟩
    have hinside : (c.advance 1).rest = '"' :: (quoted ++ shape.closer :: rest) := by
      rw [rest_advance, hc, List.drop_one, List.tail_cons, List.cons_append]
    rcases hcut : Text.cut? ['"', shape.closer] (quoted ++ shape.closer :: rest)
      with _ | ⟨inner, after⟩
    · -- The linter looks for a quote right before the closing delimiter and finds none.
      have hread : labelInside? shape ('"' :: (quoted ++ shape.closer :: rest)) = none := by
        rw [labelInside?, hcut]
        rfl
      rw [label, hinside, hread]
      exact alarms_of_mem List.mem_cons_self
        (by decide : IssueCode.closerInLabel ∈ IssueCode.syntactic)
    · have hread : labelInside? shape ('"' :: (quoted ++ shape.closer :: rest))
          = some (1, inner, 2) := by
        rw [labelInside?, hcut]
        rfl
      -- It finds one, but then a quote or a closing delimiter is inside, since the grammar
      -- would have read a label otherwise.
      have hquoted : shape.closer ∉ quoted := fun hmem => hcloser (List.mem_cons_of_mem _ hmem)
      rw [label, hinside, hread]
      dsimp only
      rw [List.map_map]
      exact alarms_labelFindings id (mem_of_not_isLabel hquoted hcut hlabel)
  · rcases label_bare id hc hcloser hhead with ⟨marks, after, hread, hmarks, -⟩
    rw [hread, hmarks]
    exact alarms_labelFindings id (Or.inr hquote)

/-! ### Nodes -/

/-- Nothing at the front of the text goes on an identifier, or a label without
    quotes holds a bracket. The linter sees nothing wrong in either. -/
inductive NoNode : Text → Prop where
  | absent {t : Text} (h : Ends t) : NoNode t
  | bracket {id body rest : Text} {shape : Shape} {c : Char} (hid : IsId id)
      (hcloser : shape.closer ∉ body) (hquote : '"' ∉ body) (hc : c ∈ body)
      (hbracket : isBareBracket c = true) :
      NoNode (id ++ shape.opener :: (body ++ shape.closer :: rest))

/-- Whatever is wrong with an identifier is a fault of syntax. -/
theorem code_mem_of_idFinding? {id : Text} {f : Finding} (h : idFinding? id = some f) :
    f.code ∈ IssueCode.syntactic := by
  unfold idFinding? at h
  split at h
  · rw [← Option.some.inj h]
    exact (by decide : IssueCode.reservedKeywordId ∈ IssueCode.syntactic)
  · split at h
    · rw [← Option.some.inj h]
      exact (by decide : IssueCode.digitLeadingId ∈ IssueCode.syntactic)
    · split at h
      · rw [← Option.some.inj h]
        exact (by decide : IssueCode.nonAsciiId ∈ IssueCode.syntactic)
      · cases h

/-- A node at a cursor: what is wrong with its id, and then a reference or a label
    with a declaration. -/
theorem node?_eq {c : Cursor} {id rest : Text} (hc : c.rest = id ++ rest)
    (hid : c.rest.takeWhile isIdChar = id) (hne : id ≠ []) :
    ∃ marks after, node? c = some (id, marks, after) ∧
      ((shapeAt? rest = none ∧ after.rest = rest ∧
          marks.map Mark.sight = (idFinding? id).toList.map .fault ++ [.refersTo id]) ∨
        ∃ shape, shapeAt? rest = some shape ∧ ∃ d : Cursor, d.rest = rest ∧
          after = (label id shape d).2 ∧
          marks.map Mark.sight = (idFinding? id).toList.map .fault
            ++ (label id shape d).1.map Mark.sight ++ [.declares id]) := by
  have hempty : id.isEmpty = false := by rwa [List.isEmpty_eq_false_iff]
  have hafter : (c.advance id.length).rest = rest := by rw [rest_advance, hc, List.drop_left]
  unfold node?
  simp only [hid, hempty, Bool.false_eq_true, if_false, hafter]
  -- Without an opening delimiter the node is only referred to.
  cases hshape : shapeAt? rest with
  | none =>
    refine ⟨_, _, rfl, Or.inl ⟨rfl, hafter, ?_⟩⟩
    rw [List.map_append, List.map_map]
    rfl
  | some shape =>
    refine ⟨_, _, rfl, Or.inr ⟨shape, rfl, c.advance id.length, hafter, rfl, ?_⟩⟩
    rw [List.map_append, List.map_append, List.map_map]
    rfl

/-- An identifier that something is wrong with raises an alarm. -/
theorem node?_of_idFinding? {c : Cursor} {id : Text} {f : Finding}
    (hid : c.rest.takeWhile isIdChar = id) (hne : id ≠ []) (hf : idFinding? id = some f) :
    ∃ id marks after, node? c = some (id, marks, after) ∧ Alarms (marks.map Mark.sight) := by
  have hc : c.rest = id ++ c.rest.dropWhile isIdChar := by
    rw [← hid, List.takeWhile_append_dropWhile]
  have halarm : Alarms ((idFinding? id).toList.map .fault) := by
    rw [hf]
    exact alarms_of_mem List.mem_cons_self (code_mem_of_idFinding? hf)
  rcases node?_eq hc hid hne with ⟨marks, after, hnode, ⟨-, -, hmarks⟩ | ⟨shape, -, d, -, -, hmarks⟩⟩
  · refine ⟨id, marks, after, hnode, ?_⟩
    rw [hmarks, alarms_append]
    exact Or.inl halarm
  · refine ⟨id, marks, after, hnode, ?_⟩
    rw [hmarks, alarms_append, alarms_append]
    exact Or.inl (Or.inl halarm)

/-- A digit at the front is a fault of the identifier. -/
theorem node?_of_isDigit {c : Cursor} {d : Char} {rest : Text} (hc : c.rest = d :: rest)
    (hd : d.isDigit = true) :
    ∃ id marks after, node? c = some (id, marks, after) ∧ Alarms (marks.map Mark.sight) := by
  have hword : isWordChar d = true := by
    rw [isWordChar, Char.isAlphanum, hd, Bool.or_true, Bool.true_or]
  have htake : c.rest.takeWhile isIdChar = d :: rest.takeWhile isIdChar := by
    rw [hc, List.takeWhile_cons_of_pos]
    rw [isIdChar_eq (isAsciiChar_of_isWordChar hword)]
    exact hword
  -- Whether or not it is a keyword, there is something to find.
  have hfinding : ∃ f, idFinding? (d :: rest.takeWhile isIdChar) = some f := by
    unfold idFinding?
    split
    · exact ⟨_, rfl⟩
    · rw [List.head?_cons, Option.map_some, Option.getD_some, if_pos hd]
      exact ⟨_, rfl⟩
  rcases hfinding with ⟨f, hf⟩
  exact node?_of_idFinding? htake (List.cons_ne_nil _ _) hf

/-- An identifier before a label shows what the label shows, and a declaration. -/
theorem node?_opener {c : Cursor} {id inside : Text} {shape : Shape} (hplain : IsPlain c.rest)
    (hid : IsId id) (hc : c.rest = id ++ shape.opener :: inside) :
    ∃ marks after, node? c = some (id, marks, after) ∧
      ∃ d : Cursor, d.rest = shape.opener :: inside ∧ after = (label id shape d).2 ∧
        marks.map Mark.sight = (label id shape d).1.map Mark.sight ++ [.declares id] := by
  have htake := takeWhile_isIdChar_of_isPlain hid.isWordChar (ends_opener shape inside)
    (hc ▸ hplain)
  have hshape := shapeAt?_opener shape inside
  rcases node?_eq hc (hc ▸ htake) hid.ne_nil with
    ⟨marks, after, hnode, ⟨hnone, -, -⟩ | ⟨shape', hsome, d, hd, hafter, hmarks⟩⟩
  · cases hshape.symm.trans hnone
  · rw [hshape, Option.some.injEq] at hsome
    -- The identifier is a proper one, so there is nothing to find in it.
    subst hsome
    rw [idFinding?_name hid] at hmarks
    exact ⟨marks, after, hnode, d, hd, hafter, hmarks⟩

/-- A node that the grammar reads raises no alarm, and both go on behind it. -/
theorem node?_of_ok {c : Cursor} {rest : Text} {closed : Option Shape} (hplain : IsPlain c.rest)
    (h : nodeRef c.rest = .ok (closed, rest)) :
    ∃ id more marks after, c.rest = id ++ more ∧ IsId id ∧ Ends more ∧
      node? c = some (id, marks, after) ∧ ¬ Alarms (marks.map Mark.sight) ∧ after.rest = rest := by
  rcases nodeRef_eq_ok_iff.1 h with ⟨id, hid, ⟨-, hc, hends, hshape⟩ | ⟨shape, body, -, hc, hbody⟩⟩
  · have htake := takeWhile_isIdChar_of_isPlain hid.isWordChar hends (hc ▸ hplain)
    rcases node?_eq hc (hc ▸ htake) hid.ne_nil with
      ⟨marks, after, hnode, ⟨-, hafter, hmarks⟩ | ⟨shape, hsome, -⟩⟩
    · refine ⟨id, rest, marks, after, hc, hid, hends, hnode, ?_, hafter⟩
      rw [hmarks, idFinding?_name hid]
      exact not_alarms_of_fault?_eq_none rfl
    · cases hshape.symm.trans hsome
  · -- Both stop at the delimiter and go on with the label.
    have hends := ends_opener shape (body ++ shape.closer :: rest)
    rcases node?_opener hplain hid hc with ⟨marks, after, hnode, d, hd, hafter, hmarks⟩
    rcases label_of_ok id hd (label_eq_ok_iff.2 ⟨body, rfl, hbody⟩) with
      ⟨labelMarks, after', hlabel, hno, hrest⟩
    rw [hlabel] at hmarks hafter
    refine ⟨id, _, marks, after, hc, hid, hends, hnode, ?_, by rw [hafter, hrest]⟩
    rw [hmarks, alarms_append, or_iff_left (not_alarms_of_fault?_eq_none rfl)]
    exact hno

/-- A label without quotes is wrong for a bracket. -/
theorem exists_isBareBracket {body : Text} (h : isLabel body = false) (hquote : '"' ∉ body) :
    ∃ b ∈ body, isBareBracket b = true := by
  by_contra hnone
  have hbare : ∀ b ∈ body, b ≠ '"' ∧ isBareBracket b = false := fun b hb =>
    ⟨fun heq => hquote (heq ▸ hb), Bool.eq_false_iff.2 fun hbare => hnone ⟨b, hb, hbare⟩⟩
  rw [isLabel_iff.2 (Or.inr hbare)] at h
  exact absurd h (by decide)

/-- Where the grammar reads no node, the linter raises an alarm or sees nothing
    wrong. -/
theorem node?_of_error {c : Cursor} {e : Cause} (hplain : IsPlain c.rest)
    (h : nodeRef c.rest = .error e) :
    NoNode c.rest ∨
      ∃ id marks after, node? c = some (id, marks, after) ∧ Alarms (marks.map Mark.sight) := by
  rcases nodeRef_eq_error h with hstart | ⟨id, rest, hc, hlegal, hreserved, hends⟩ |
    ⟨id, shape, inside, e', hid, hc, hlabel⟩
  · by_cases hends : Ends c.rest
    · exact Or.inl (.absent hends)
    · -- What goes on an identifier without starting one is a digit.
      simp only [Ends, not_forall, Bool.not_eq_false] at hends
      rcases hends with ⟨d, hd, hword⟩
      rcases List.head?_eq_some_iff.1 hd with ⟨rest, hrest⟩
      have hno := hstart d hd
      rw [isStart, Bool.or_eq_false_iff] at hno
      rw [isWordChar, Char.isAlphanum, hno.1, hno.2, Bool.false_or, Bool.or_false] at hword
      exact Or.inr (node?_of_isDigit hrest hword)
  · have htake := takeWhile_isIdChar_of_isPlain (isLegal_iff.1 hlegal).2 hends (hc ▸ hplain)
    have hne : id ≠ [] := by
      rintro rfl
      exact absurd hlegal (by decide)
    have hf : idFinding? id = some (.reservedId id) := by rw [idFinding?, if_pos hreserved]
    exact Or.inr (node?_of_idFinding? (hc ▸ htake) hne hf)
  · rcases node?_opener hplain hid hc with ⟨marks, after, hnode, d, hd, -, hmarks⟩
    have halarm : Alarms ((label id shape d).1.map Mark.sight) → ∃ id marks after,
        node? c = some (id, marks, after) ∧ Alarms (marks.map Mark.sight) := by
      intro halarm
      refine ⟨id, marks, after, hnode, ?_⟩
      rw [hmarks, alarms_append]
      exact Or.inl halarm
    rcases label_eq_error hlabel with hnone | ⟨body, rest, rfl, hcloser, hbody⟩
    · exact Or.inr (halarm (label_of_notMem id hd hnone))
    · by_cases hquote : '"' ∈ body
      · exact Or.inr (halarm (label_of_quote id hd hcloser hbody hquote))
      · rcases exists_isBareBracket hbody hquote with ⟨b, hb, hbare⟩
        rw [hc]
        exact Or.inl (.bracket hid hcloser hquote hb hbare)

end Lint

end Flowchart
