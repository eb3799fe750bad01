import Flowchart.Proofs.Acceptance

/-!
# What a Reading Says

The readers of the grammar taken backwards: what a text looks like if a reader
took something from its front, and what it looks like if the reader did not. Each
reader has a lemma for either outcome, so that nothing that follows looks at its
definition.

A label ends at the first closing delimiter of its shape, and where a node ends
follows from its shape alone. A link begins in one of two ways. After an arrow
there may be text between bars, and a bar that no other one follows is no part of
the link. After two dashes and a blank there must be text and an arrow.

## Theorems

* `Text.cut?_append_left`, `Text.cut?_append_of_disjoint`: A pattern is found where
  it was, whatever is put around the text that has none of its characters.
* `Grammar.label_eq_ok_iff`, `Grammar.label_eq_error`: What a label looks like.
* `Grammar.nodeRef_eq_ok_iff`, `Grammar.nodeRef_eq_error`: What a node looks like.
* `Grammar.link_cases`, `Grammar.link_eq_ok`: What a link looks like.
-/

namespace Flowchart

namespace Text

/-! ### Patterns among other characters -/

/-- A pattern is not found across a beginning that its first character is not
    in. -/
theorem cut?_append_left {c : Char} {pattern front : Text} (h : c ∉ front) (t : Text) :
    cut? (c :: pattern) (front ++ t)
      = (cut? (c :: pattern) t).map fun x => (front ++ x.1, x.2) := by
  induction front with
  | nil => exact Option.map_id'.symm
  | cons d front ih =>
    rw [List.mem_cons, not_or] at h
    rw [List.cons_append, cut?, dropPrefix?, if_neg h.1, ih h.2, Option.map_map]
    rfl

/-- No character of the pattern can be found in what is put behind a text, so the
    pattern is found where it was. -/
theorem dropPrefix?_append_of_disjoint {beginning gap : Text} (h : ∀ c ∈ beginning, c ∉ gap)
    (t : Text) :
    dropPrefix? beginning (t ++ gap) = (dropPrefix? beginning t).map (· ++ gap) := by
  induction beginning generalizing t with
  | nil => rfl
  | cons p ps ih =>
    have hps : ∀ c ∈ ps, c ∉ gap := fun c hc => h c (List.mem_cons_of_mem p hc)
    rcases t with _ | ⟨c, t⟩
    · -- The text has run out, and the pattern cannot go on in the gap.
      rcases gap with _ | ⟨d, gap⟩
      · rfl
      · have hd : p ≠ d := fun heq => h p List.mem_cons_self (heq ▸ List.mem_cons_self)
        rw [List.nil_append, dropPrefix?, if_neg hd]
        rfl
    · rw [List.cons_append, dropPrefix?, dropPrefix?]
      split
      · exact ih hps t
      · rfl

theorem cut?_append_of_disjoint {pattern gap : Text} (h : ∀ c ∈ pattern, c ∉ gap)
    (hne : pattern ≠ []) (t : Text) :
    cut? pattern (t ++ gap) = (cut? pattern t).map fun x => (x.1, x.2 ++ gap) := by
  induction t with
  | nil =>
    rcases pattern with _ | ⟨p, ps⟩
    · exact absurd rfl hne
    · have hp : p ∉ gap := h p List.mem_cons_self
      have hgap : cut? (p :: ps) (gap ++ []) = (cut? (p :: ps) []).map _ :=
        cut?_append_left hp []
      rw [List.append_nil] at hgap
      rw [List.nil_append, hgap]
      rfl
  | cons c t ih =>
    -- Whether the pattern is found here does not depend on the gap.
    have hhere := dropPrefix?_append_of_disjoint h (c :: t)
    rw [List.cons_append] at hhere ⊢
    rw [cut?, cut?, hhere]
    cases dropPrefix? pattern (c :: t) with
    | some rest => rfl
    | none =>
      dsimp only [Option.map_none]
      rw [ih, Option.map_map, Option.map_map]
      rfl

/-- A text with something behind it is trimmed at the front as before, unless
    nothing of it is left. -/
theorem trimStart_append {t : Text} (h : t.trimStart ≠ []) (more : Text) :
    trimStart (t ++ more) = t.trimStart ++ more := by
  rw [trimStart, List.dropWhile_append, if_neg]
  · rfl
  · rw [List.isEmpty_iff]
    exact h

theorem trimStart_eq_nil_iff {t : Text} : t.trimStart = [] ↔ ∀ c ∈ t, isBlank c = true :=
  List.dropWhile_eq_nil_iff

/-- What begins a text that something was put behind begins the text itself, if its
    last character is not from behind. -/
theorem exists_of_append_eq {front rest t gap : Text} (h : front ++ rest = t ++ gap)
    (hlast : ∀ c, front.getLast? = some c → c ∉ gap) :
    ∃ rest', t = front ++ rest' ∧ rest = rest' ++ gap := by
  rcases List.append_eq_append_iff.1 h with ⟨more, ht, hrest⟩ | ⟨more, hfront, hgap⟩
  · exact ⟨more, ht, hrest⟩
  · rcases List.eq_nil_or_concat' more with rfl | ⟨more, c, rfl⟩
    · rw [List.append_nil] at hfront
      exact ⟨[], by rw [hfront, List.append_nil], hgap.symm⟩
    · -- The beginning would reach into what stands behind.
      refine absurd ?_ (hlast c ?_)
      · rw [hgap]
        exact List.mem_append_left _ (List.mem_append_right _ (List.mem_singleton_self c))
      · rw [hfront, ← List.append_assoc, List.getLast?_concat]

end Text

namespace Grammar

open Identifier

/-! ### Nodes -/

/-- An identifier is legal, and it is read to its end. -/
theorem identifier?_eq_some {t id rest : Text} (h : identifier? t = some (id, rest)) :
    t = id ++ rest ∧ isLegal id = true ∧ Ends rest := by
  unfold identifier? at h
  split at h
  · rename_i c r
    split at h
    · rename_i hstart
      rw [Option.some.injEq, Prod.mk.injEq] at h
      rcases h with ⟨rfl, rfl⟩
      -- It goes on as long as there are characters for it, so it ends where there are
      -- none.
      refine ⟨?_, ?_, fun d hd => Text.of_head?_dropWhile hd⟩
      · rw [List.cons_append, List.takeWhile_append_dropWhile]
      · rw [isLegal, Bool.and_eq_true, List.all_eq_true]
        exact ⟨hstart, fun d hd => List.mem_takeWhile_imp hd⟩
    · exact absurd h (by simp only [reduceCtorEq, not_false_eq_true])
  · exact absurd h (by simp only [reduceCtorEq, not_false_eq_true])

/-- Where there is no identifier, nothing starts one. -/
theorem identifier?_eq_none {t : Text} (h : identifier? t = none) :
    ∀ c, t.head? = some c → isStart c = false := by
  intro c hc
  rcases t with _ | ⟨d, t⟩
  · exact absurd hc (by simp only [List.head?_nil, reduceCtorEq, not_false_eq_true])
  · rw [List.head?_cons, Option.some.injEq] at hc
    rw [← hc, ← Bool.not_eq_true]
    intro hstart
    rw [identifier?, if_pos hstart] at h
    exact absurd h (by simp only [reduceCtorEq, not_false_eq_true])

theorem name_eq_ok {token : String} {t id rest : Text} (h : name token t = .ok (id, rest)) :
    t = id ++ rest ∧ IsId id ∧ Ends rest := by
  unfold name at h
  split at h
  · exact absurd h (by simp only [reduceCtorEq, not_false_eq_true])
  · rename_i id' rest' hidentifier
    split at h
    · exact absurd h (by simp only [reduceCtorEq, not_false_eq_true])
    · rename_i hfree
      rw [Except.ok.injEq, Prod.mk.injEq] at h
      rcases h with ⟨rfl, rfl⟩
      rcases identifier?_eq_some hidentifier with ⟨ht, hlegal, hends⟩
      exact ⟨ht, ⟨hlegal, Bool.eq_false_iff.2 hfree⟩, hends⟩

/-- There is no name where nothing starts one, or where a keyword stands. -/
theorem name_eq_error {token : String} {t : Text} {e : Cause} (h : name token t = .error e) :
    (∀ c, t.head? = some c → isStart c = false) ∨
      ∃ id rest, t = id ++ rest ∧ isLegal id = true ∧ isReserved id = true ∧ Ends rest := by
  -- There is no identifier, or the identifier is a keyword.
  unfold name at h
  split at h
  · rename_i hidentifier
    exact Or.inl (identifier?_eq_none hidentifier)
  · rename_i id rest hidentifier
    split at h
    · rename_i hreserved
      rcases identifier?_eq_some hidentifier with ⟨ht, hlegal, hends⟩
      exact Or.inr ⟨id, rest, ht, hlegal, hreserved, hends⟩
    · exact absurd h (by simp only [reduceCtorEq, not_false_eq_true])

theorem shapeAt?_eq_some {t : Text} {shape : Shape} (h : shapeAt? t = some shape) :
    ∃ rest, t = shape.opener :: rest := by
  unfold shapeAt? at h
  split at h
  · rename_i c rest
    have hopener := List.find?_some h
    rw [decide_eq_true_eq] at hopener
    exact ⟨rest, by rw [hopener]⟩
  · exact absurd h (by simp only [reduceCtorEq, not_false_eq_true])

/-- A body is what stands before the first closing delimiter. -/
theorem labelBody?_append {shape : Shape} {body : Text} (h : shape.closer ∉ body) (rest : Text) :
    labelBody? shape (body ++ shape.closer :: rest) = some (body, rest) := by
  have hrun : ∀ c ∈ body, (c != shape.closer) = true := fun c hc =>
    bne_iff_ne.2 fun heq => h (heq ▸ hc)
  -- The closing delimiter is where the run of other characters stops.
  have hstop : ∀ c, (shape.closer :: rest).head? = some c → (c != shape.closer) = false := by
    rintro c ⟨⟩
    exact bne_self_eq_false _
  rcases Text.takeWhile_append_of_ends hrun hstop with ⟨htake, hdrop⟩
  rw [labelBody?, hdrop]
  dsimp only
  rw [htake]

/-- A text has a closing delimiter, with what stands before the first one, or it
    has none. -/
theorem exists_closer (shape : Shape) (t : Text) :
    shape.closer ∉ t ∨ ∃ body rest, t = body ++ shape.closer :: rest ∧ shape.closer ∉ body := by
  by_cases hcloser : shape.closer ∈ t
  · rcases List.eq_append_cons_of_mem hcloser with ⟨body, rest, ht, hbody⟩
    exact Or.inr ⟨body, rest, ht, hbody⟩
  · exact Or.inl hcloser

theorem labelBody?_eq_none {shape : Shape} {t : Text} (h : shape.closer ∉ t) :
    labelBody? shape t = none := by
  have hall : t.dropWhile (· != shape.closer) = [] :=
    List.dropWhile_eq_nil_iff.2 fun c hc => bne_iff_ne.2 fun heq => h (heq ▸ hc)
  rw [labelBody?, hall]

/-- A label has a body up to the first closing delimiter, and the body is one. -/
theorem label_eq_ok_iff {shape : Shape} {t rest : Text} :
    label shape t = .ok rest ↔
      ∃ body, t = body ++ shape.closer :: rest ∧ shape.closer ∉ body ∧ isLabel body = true := by
  constructor
  · intro h
    -- Nothing closes the label, or the body ends at the first character that does.
    rcases exists_closer shape t with hnone | ⟨body, rest', rfl, hbody⟩
    · rw [label, labelBody?_eq_none hnone] at h
      exact absurd h (by simp only [reduceCtorEq, not_false_eq_true])
    · rw [label, labelBody?_append hbody] at h
      dsimp only at h
      split at h
      · rename_i hlabel
        rw [Except.ok.inj h]
        exact ⟨body, rfl, hbody, hlabel⟩
      · exact absurd h (by simp only [reduceCtorEq, not_false_eq_true])
  · rintro ⟨body, rfl, hbody, hlabel⟩
    rw [label, labelBody?_append hbody]
    exact if_pos hlabel

theorem label_eq_error {shape : Shape} {t : Text} {e : Cause} (h : label shape t = .error e) :
    shape.closer ∉ t ∨
      ∃ body rest, t = body ++ shape.closer :: rest ∧ shape.closer ∉ body ∧ isLabel body = false := by
  refine (exists_closer shape t).imp_right ?_
  rintro ⟨body, rest, ht, hbody⟩
  refine ⟨body, rest, ht, hbody, Bool.eq_false_iff.2 fun hlabel => ?_⟩
  rw [label_eq_ok_iff.2 ⟨body, ht, hbody, hlabel⟩] at h
  exact absurd h (by simp only [reduceCtorEq, not_false_eq_true])

/-- The body of a label is in quotes and holds no others, or it has neither quotes
    nor brackets. -/
theorem isLabel_iff {body : Text} :
    isLabel body = true ↔
      (∃ inner, body = '"' :: inner ++ ['"'] ∧ '"' ∉ inner) ∨
        ∀ c ∈ body, c ≠ '"' ∧ isBareBracket c = false := by
  have hbare : ∀ t : Text, (!t.any fun c => c == '"' || isBareBracket c) = true ↔
      ∀ c ∈ t, c ≠ '"' ∧ isBareBracket c = false := by
    intro t
    rw [Bool.not_eq_true', List.any_eq_false]
    refine forall₂_congr fun c _ => ?_
    rw [Bool.not_eq_true, Bool.or_eq_false_iff, beq_eq_false_iff_ne]
  unfold isLabel
  split
  · -- A body that opens with a quote is no bare one.
    rename_i quoted
    have hquote : ¬ ∀ c ∈ '"' :: quoted, c ≠ '"' ∧ isBareBracket c = false :=
      fun h => (h '"' List.mem_cons_self).1 rfl
    rw [or_iff_left hquote]
    rcases hsuffix : Text.dropSuffix? ['"'] quoted with _ | inner
    · dsimp only
      refine iff_of_false (by decide) ?_
      rintro ⟨inner, heq, -⟩
      rw [List.cons_append] at heq
      rw [Text.dropSuffix?_eq_some_iff.2 (List.cons.inj heq).2] at hsuffix
      exact absurd hsuffix (by simp only [reduceCtorEq, not_false_eq_true])
    · rw [Text.dropSuffix?_eq_some_iff] at hsuffix
      dsimp only
      rw [Bool.not_eq_true', ← Bool.not_eq_true, List.contains_iff_mem]
      constructor
      · intro hinner
        exact ⟨inner, by rw [hsuffix, List.cons_append], hinner⟩
      · rintro ⟨inner', heq, hinner⟩
        rw [hsuffix, List.cons_append, List.cons.injEq] at heq
        rw [List.append_cancel_right heq.2]
        exact hinner
  · rename_i hhead
    rw [hbare]
    refine ⟨Or.inr, ?_⟩
    rintro (⟨inner, heq, -⟩ | hall)
    · exact absurd heq (hhead _)
    · exact hall

/-- A node is an identifier, with a label or with nothing that opens one. -/
theorem nodeRef_eq_ok_iff {t rest : Text} {closed : Option Shape} :
    nodeRef t = .ok (closed, rest) ↔
      ∃ id, IsId id ∧
        ((closed = none ∧ t = id ++ rest ∧ Ends rest ∧ shapeAt? rest = none) ∨
          ∃ shape body, closed = some shape ∧
            t = id ++ shape.opener :: (body ++ shape.closer :: rest) ∧
            shape.closer ∉ body ∧ isLabel body = true) := by
  constructor
  · intro h
    unfold nodeRef at h
    rcases hname : name "NODE_STRING" t with e | ⟨id, more⟩
    · rw [hname] at h
      exact absurd h (by simp only [bind, Except.bind, reduceCtorEq, not_false_eq_true])
    · rcases name_eq_ok hname with ⟨rfl, hid, hends⟩
      refine ⟨id, hid, ?_⟩
      rw [hname] at h
      simp only [bind, Except.bind, pure, Except.pure] at h
      -- What comes behind the name decides whether there is a label.
      split at h
      · rename_i hshape
        rw [Except.ok.injEq, Prod.mk.injEq] at h
        rcases h with ⟨rfl, rfl⟩
        exact Or.inl ⟨rfl, rfl, hends, hshape⟩
      · rename_i shape hshape
        rcases shapeAt?_eq_some hshape with ⟨inside, rfl⟩
        rcases hlabel : label shape inside with e | after
        · rw [List.tail_cons, hlabel] at h
          exact absurd h (by simp only [reduceCtorEq, not_false_eq_true])
        · rw [List.tail_cons, hlabel] at h
          dsimp only at h
          rw [Except.ok.injEq, Prod.mk.injEq] at h
          rcases h with ⟨rfl, rfl⟩
          rcases label_eq_ok_iff.1 hlabel with ⟨body, rfl, hbody, hisLabel⟩
          exact Or.inr ⟨shape, body, rfl, rfl, hbody, hisLabel⟩
  · rintro ⟨id, hid, ⟨rfl, rfl, hends, hshape⟩ | ⟨shape, body, rfl, rfl, hbody, hisLabel⟩⟩
    · rw [nodeRef, name_name hid hends]
      simp only [bind, Except.bind, hshape]
      rfl
    · rw [nodeRef_opener hid, label_eq_ok_iff.2 ⟨body, rfl, hbody, hisLabel⟩]
      rfl

/-- There is no node where there is no name, or where a label goes wrong. -/
theorem nodeRef_eq_error {t : Text} {e : Cause} (h : nodeRef t = .error e) :
    (∀ c, t.head? = some c → isStart c = false) ∨
      (∃ id rest, t = id ++ rest ∧ isLegal id = true ∧ isReserved id = true ∧ Ends rest) ∨
      ∃ id shape inside e', IsId id ∧ t = id ++ shape.opener :: inside ∧
        label shape inside = .error e' := by
  unfold nodeRef at h
  rcases hname : name "NODE_STRING" t with e' | ⟨id, more⟩
  · exact (name_eq_error hname).imp_right Or.inl
  · rcases name_eq_ok hname with ⟨rfl, hid, -⟩
    rw [hname] at h
    simp only [bind, Except.bind, pure, Except.pure] at h
    -- A name alone is a node, so it is the label that went wrong.
    split at h
    · exact absurd h (by simp only [reduceCtorEq, not_false_eq_true])
    · rename_i shape hshape
      rcases shapeAt?_eq_some hshape with ⟨inside, rfl⟩
      rcases hlabel : label shape inside with e' | after
      · exact Or.inr (Or.inr ⟨id, shape, inside, e', hid, rfl, hlabel⟩)
      · rw [List.tail_cons, hlabel] at h
        exact absurd h (by simp only [reduceCtorEq, not_false_eq_true])

/-- A node begins with an identifier. -/
theorem exists_id_of_nodeRef {t rest : Text} {closed : Option Shape}
    (h : nodeRef t = .ok (closed, rest)) : ∃ id more, t = id ++ more ∧ IsId id ∧ Ends more := by
  rcases nodeRef_eq_ok_iff.1 h with ⟨id, hid, ⟨-, ht, hends, -⟩ | ⟨shape, body, -, ht, -, -⟩⟩
  · exact ⟨id, rest, ht, hid, hends⟩
  · exact ⟨id, _, ht, hid, ends_opener shape _⟩

/-- What follows a node is what the text ends with. -/
theorem nodeRef_isSuffix {t rest : Text} {closed : Option Shape}
    (h : nodeRef t = .ok (closed, rest)) : rest <:+ t := by
  rcases nodeRef_eq_ok_iff.1 h with ⟨id, -, ⟨-, rfl, -, -⟩ | ⟨shape, body, -, rfl, -, -⟩⟩
  · exact List.suffix_append id rest
  · exact ((List.suffix_cons _ rest).trans (List.suffix_append body _)).trans
      ((List.suffix_cons _ _).trans (List.suffix_append id _))

/-- No node ends in a semicolon. -/
theorem nodeRef_getLast?_ne {t : Text} {closed : Option Shape}
    (h : nodeRef t = .ok (closed, [])) : t.getLast? ≠ some ';' := by
  rcases nodeRef_eq_ok_iff.1 h with ⟨id, hid, ⟨-, rfl, -, -⟩ | ⟨shape, body, -, rfl, -, -⟩⟩
  · intro hlast
    rw [List.append_nil] at hlast
    exact absurd (hid.isWordChar _ (List.mem_of_getLast? hlast)) (by decide)
  · -- With a label the last character is the one that closes it.
    have hsplit : id ++ shape.opener :: (body ++ [shape.closer])
        = (id ++ shape.opener :: body) ++ [shape.closer] := by
      rw [List.append_assoc, List.cons_append]
    rw [hsplit, List.getLast?_concat]
    cases shape <;> decide

/-! ### Links -/

theorem isBlank_of_isLinkBlank {c : Char} (h : isLinkBlank c = true) : isBlank c = true := by
  rw [isLinkBlank, Bool.or_eq_true, beq_iff_eq, beq_iff_eq] at h
  rcases h with rfl | rfl <;> decide

/-- What follows an arrow is text between bars, a bar that no other one follows, or
    no bar. -/
theorem exists_bar (rest : Text) :
    (rest.dropWhile isLinkBlank).head? ≠ some '|' ∨
      (∃ gap x, (∀ c ∈ gap, isLinkBlank c = true) ∧ '|' ∉ x ∧ rest = gap ++ '|' :: x) ∨
      ∃ gap x after, (∀ c ∈ gap, isLinkBlank c = true) ∧ '|' ∉ x ∧
        rest = gap ++ '|' :: (x ++ '|' :: after) := by
  have hsplit : rest.takeWhile isLinkBlank ++ rest.dropWhile isLinkBlank = rest :=
    List.takeWhile_append_dropWhile
  have hgap : ∀ c ∈ rest.takeWhile isLinkBlank, isLinkBlank c = true := fun c hc =>
    List.mem_takeWhile_imp hc
  by_cases hbar : (rest.dropWhile isLinkBlank).head? = some '|'
  · refine Or.inr ?_
    rcases List.head?_eq_some_iff.1 hbar with ⟨body, hbody⟩
    rw [hbody] at hsplit
    -- The bar is there, and it is closed if there is another one.
    by_cases hclosed : '|' ∈ body
    · rcases List.eq_append_cons_of_mem hclosed with ⟨x, after, rfl, hx⟩
      exact Or.inr ⟨_, x, after, hgap, hx, hsplit.symm⟩
    · exact Or.inl ⟨_, body, hgap, hclosed, hsplit.symm⟩
  · exact Or.inl hbar

/-- The blanks before a character of another kind. -/
theorem dropWhile_gap {p : Char → Bool} {gap : Text} (hgap : ∀ c ∈ gap, p c = true) {c : Char}
    (hc : p c = false) (t : Text) : (gap ++ c :: t).dropWhile p = c :: t := by
  rw [List.dropWhile_append_of_pos hgap, List.dropWhile_cons_of_neg (Bool.not_eq_true _ ▸ hc)]

/-- An arrow with text between bars. -/
theorem link_piped {gap x : Text} (hgap : ∀ c ∈ gap, isLinkBlank c = true) (hx : '|' ∉ x)
    (after : Text) :
    link (arrow ++ (gap ++ '|' :: (x ++ '|' :: after))) = .ok (some x, after) := by
  have hrun : ∀ c ∈ x, (c != '|') = true := fun c hc => bne_iff_ne.2 fun heq => hx (heq ▸ hc)
  have hstop : ∀ c, ('|' :: after).head? = some c → (c != '|') = false := by
    rintro c ⟨⟩
    decide
  rcases Text.takeWhile_append_of_ends hrun hstop with ⟨htake, hdrop⟩
  have hbegins : Text.dropPrefix? arrow (arrow ++ (gap ++ '|' :: (x ++ '|' :: after)))
      = some (gap ++ '|' :: (x ++ '|' :: after)) := Text.dropPrefix?_eq_some_iff.2 rfl
  have hbar : isLinkBlank '|' = false := by decide
  unfold link
  simp only [hbegins, dropWhile_gap hgap hbar, hdrop, htake]

/-- An arrow with a bar that no other one follows. -/
theorem link_bar {gap x : Text} (hgap : ∀ c ∈ gap, isLinkBlank c = true) (hx : '|' ∉ x) :
    link (arrow ++ (gap ++ '|' :: x)) = .ok (none, gap ++ '|' :: x) := by
  have hnone : x.dropWhile (· != '|') = [] :=
    List.dropWhile_eq_nil_iff.2 fun c hc => bne_iff_ne.2 fun heq => hx (heq ▸ hc)
  have hbegins : Text.dropPrefix? arrow (arrow ++ (gap ++ '|' :: x)) = some (gap ++ '|' :: x) :=
    Text.dropPrefix?_eq_some_iff.2 rfl
  have hbar : isLinkBlank '|' = false := by decide
  unfold link
  simp only [hbegins, dropWhile_gap hgap hbar, hnone]

/-- Every arrow is a link. -/
theorem exists_link_arrow (rest : Text) : ∃ x, link (arrow ++ rest) = .ok x := by
  rcases exists_bar rest with hhead | ⟨gap', x, hgap', hx, rfl⟩ | ⟨gap', x, after, hgap', hx, rfl⟩
  · exact ⟨_, link_arrow hhead⟩
  · exact ⟨_, link_bar hgap' hx⟩
  · exact ⟨_, link_piped hgap' hx after⟩

/-- Two dashes and a blank, with text up to an arrow. -/
theorem link_dashes {c : Char} (hc : isLinkBlank c = true) (rest : Text) :
    link ('-' :: '-' :: c :: rest) =
      match Text.cut? arrow (rest.dropWhile isLinkBlank) with
      | some (d :: x, after) => .ok (some (d :: x), after)
      | _ => .error (rest.dropWhile isLinkBlank) := by
  have hne : '>' ≠ c := by
    rintro rfl
    exact absurd hc (by decide)
  -- Two dashes and a blank are no arrow, so it is looked for further on.
  have hbegins : Text.dropPrefix? arrow ('-' :: '-' :: c :: rest) = none := by
    rw [arrow, Text.dropPrefix?, if_pos rfl, Text.dropPrefix?, if_pos rfl, Text.dropPrefix?,
      if_neg hne]
  have hdrop : (c :: rest).dropWhile isLinkBlank = rest.dropWhile isLinkBlank :=
    List.dropWhile_cons_of_pos hc
  rcases hcut : Text.cut? arrow (rest.dropWhile isLinkBlank) with _ | ⟨_ | ⟨d, x⟩, after⟩ <;>
    simp only [link, hbegins, hc, if_true, hdrop, hcut]

/-- A text begins with an arrow, with two dashes and a blank, or with no link. -/
theorem link_cases (t : Text) :
    (∃ rest, t = arrow ++ rest) ∨
      (∃ c rest, isLinkBlank c = true ∧ t = '-' :: '-' :: c :: rest) ∨
      ∃ place, link t = .error place := by
  rcases hbegins : Text.dropPrefix? arrow t with _ | rest
  · refine Or.inr ?_
    -- Without an arrow there have to be two dashes and a blank, or there is no link.
    by_cases hdashes : ∃ c rest, isLinkBlank c = true ∧ t = '-' :: '-' :: c :: rest
    · exact Or.inl hdashes
    · refine Or.inr ?_
      unfold link
      rw [hbegins]
      dsimp only
      split
      · rename_i rest
        split
        · rename_i c rest
          rw [if_neg fun hc => hdashes ⟨c, rest, hc, rfl⟩]
          exact ⟨_, rfl⟩
        · exact ⟨_, rfl⟩
      · exact ⟨_, rfl⟩
  · exact Or.inl ⟨rest, Text.dropPrefix?_eq_some_iff.1 hbegins⟩

/-- A link is an arrow with text between bars, an arrow alone, or two dashes, a
    blank, text and an arrow. -/
theorem link_eq_ok {t after : Text} {text : Option Text} (h : link t = .ok (text, after)) :
    (∃ gap x, (∀ c ∈ gap, isLinkBlank c = true) ∧ '|' ∉ x ∧ text = some x ∧
        t = arrow ++ (gap ++ '|' :: (x ++ '|' :: after))) ∨
      (text = none ∧ t = arrow ++ after) ∨
      ∃ c rest x, isLinkBlank c = true ∧ text = some x ∧ x ≠ [] ∧ t = '-' :: '-' :: c :: rest ∧
        Text.cut? arrow (rest.dropWhile isLinkBlank) = some (x, after) := by
  rcases link_cases t with ⟨rest, rfl⟩ | ⟨c, rest, hc, rfl⟩ | ⟨place, hplace⟩
  · rcases exists_bar rest with hhead | ⟨gap, x, hgap, hx, rfl⟩ | ⟨gap, x, after', hgap, hx, rfl⟩
    · rw [link_arrow hhead, Except.ok.injEq, Prod.mk.injEq] at h
      exact Or.inr (Or.inl ⟨h.1.symm, h.2 ▸ rfl⟩)
    · -- A bar that no other one follows is left for what comes behind the link.
      rw [link_bar hgap hx, Except.ok.injEq, Prod.mk.injEq] at h
      exact Or.inr (Or.inl ⟨h.1.symm, h.2 ▸ rfl⟩)
    · rw [link_piped hgap hx, Except.ok.injEq, Prod.mk.injEq] at h
      exact Or.inl ⟨gap, x, hgap, hx, h.1.symm, h.2 ▸ rfl⟩
  · rw [link_dashes hc] at h
    split at h
    · rename_i d x after' hcut
      rw [Except.ok.injEq, Prod.mk.injEq] at h
      rcases h with ⟨rfl, rfl⟩
      exact Or.inr (Or.inr ⟨c, rest, d :: x, hc, rfl, List.cons_ne_nil d x, rfl, hcut⟩)
    · exact absurd h (by simp only [reduceCtorEq, not_false_eq_true])
  · rw [hplace] at h
    exact absurd h (by simp only [reduceCtorEq, not_false_eq_true])

/-- What follows a link is what the text ends with. -/
theorem link_isSuffix {t after : Text} {text : Option Text} (h : link t = .ok (text, after)) :
    after <:+ t := by
  rcases link_eq_ok h with ⟨gap, x, -, -, -, rfl⟩ | ⟨-, rfl⟩ | ⟨c, rest, x, -, -, -, rfl, hcut⟩
  · exact ((((List.suffix_cons _ after).trans (List.suffix_append x _)).trans
      (List.suffix_cons _ _)).trans (List.suffix_append gap _)).trans (List.suffix_append arrow _)
  · exact List.suffix_append arrow after
  · -- The text is cut behind the blanks, which is further on.
    have hdrop : after <:+ rest.dropWhile isLinkBlank := by
      rw [Text.eq_of_cut? hcut]
      exact List.suffix_append _ after
    exact (hdrop.trans (List.dropWhile_suffix _)).trans
      ((List.suffix_cons _ _).trans ((List.suffix_cons _ _).trans (List.suffix_cons _ _)))

end Grammar

end Flowchart
