import Flowchart.Proofs.Linking

/-!
# Lines That Both Read

What the linter sees of a line that the grammar accepts. Both tell the kind of a
statement by its first word. The grammar ends the word at ASCII blanks and the
linter at blanks of any script, which is the same place once the grammar has found
a word that it knows.

A line that is accepted raises no alarm, unless it is misread in one of two ways.
The linter takes off the blanks at the end before the semicolons and not after, so
an `end` with a blank before its semicolon is taken for a node. And a tab after the
dashes of a link is taken for the beginning of an unknown arrow.

Where no alarm is raised, the linter has opened and closed the same blocks. Both
facts pass from lines to texts by induction on the lines that have been read.

## Main definitions

* `Lint.MisreadLine`: An accepted line that raises an alarm.

## Theorems

* `Lint.takeWhile_statementText`: Both find the same first word.
* `Lint.alarms_statement_iff`: Accepted chains.
* `Lint.sights_of_read`: Accepted lines.
* `Lint.sights_of_foldlM`: Many accepted lines.
-/

namespace Flowchart

namespace Grammar

open Identifier

/-! ### First words -/

theorem isBlank_of_isAsciiBlank {c : Char} (h : isAsciiBlank c = true) : isBlank c = true := by
  simp only [isAsciiBlank, Bool.or_eq_true, beq_iff_eq] at h
  rcases h with (((rfl | rfl) | rfl) | rfl) | rfl <;> decide

/-- A word is followed by a blank or by nothing. -/
theorem exists_word_append (t : Text) :
    ∃ more, t = word t ++ more ∧ ∀ c, more.head? = some c → isAsciiBlank c = true := by
  refine ⟨t.dropWhile (!isAsciiBlank ·), List.takeWhile_append_dropWhile.symm, fun c hc => ?_⟩
  have hnot := Text.of_head?_dropWhile hc
  rwa [Bool.not_eq_false'] at hnot

/-- A trimmed line is what the grammar reads, or that with blanks and a semicolon
    behind it. -/
theorem trim_eq_body_append (raw : Text) :
    raw.trim = body raw ∨
      ∃ gap, (∀ c ∈ gap, isBlank c = true) ∧ raw.trim = body raw ++ gap ++ [';'] := by
  rw [body]
  rcases hsuffix : Text.dropSuffix? [';'] raw.trim with _ | front
  · rw [Option.getD_none, Text.trimEnd_trim]
    exact Or.inl rfl
  · rcases Text.exists_dropEndWhile_append isBlank front with ⟨gap, hgap, hfront⟩
    rw [Text.dropSuffix?_eq_some_iff] at hsuffix
    refine Or.inr ⟨gap, hgap, ?_⟩
    rw [Option.getD_some, Text.trimEnd, ← hfront]
    exact hsuffix

/-- No node begins with a reserved word, wherever words end. -/
theorem takeWhile_ne_of_nodeRef {t rest k : Text} {closed : Option Shape}
    (h : nodeRef t = .ok (closed, rest)) (hk : isReserved k = true)
    (hword : k.all isWordChar = true) : t.takeWhile (!isBlank ·) ≠ k := by
  rcases exists_id_of_nodeRef h with ⟨id, more, rfl, hid, hends⟩
  refine takeWhile_ne_of_isReserved (fun c hc => ?_) hid hends hk hword
  rw [not_isBlank_of_isWordChar hc]
  rfl

end Grammar

namespace Lint

open Identifier Grammar

/-- A word, followed by a blank or by nothing. -/
theorem takeWhile_word {k more : Text} (hk : k.all isWordChar = true)
    (hmore : ∀ c, more.head? = some c → isBlank c = true) :
    (k ++ more).takeWhile (!isBlank ·) = k := by
  refine (Text.takeWhile_append_of_ends (fun c hc => ?_) fun c hc => ?_).1
  · rw [not_isBlank_of_isWordChar (List.all_eq_true.1 hk c hc)]
    rfl
  · rw [hmore c hc]
    rfl

/-- A word that the grammar finds ends for the linter at the same place, also if
    blanks are put behind the text. -/
theorem takeWhile_append_of_word {t k gap : Text} (h : word t = k) (hk : k.all isWordChar = true)
    (hgap : ∀ c ∈ gap, isBlank c = true) : (t ++ gap).takeWhile (!isBlank ·) = k := by
  rcases exists_word_append t with ⟨more, ht, hmore⟩
  rw [ht, h, List.append_assoc]
  refine takeWhile_word hk fun c hc => ?_
  rcases more with _ | ⟨b, more⟩
  · exact hgap c (List.mem_of_mem_head? hc)
  · exact isBlank_of_isAsciiBlank (hmore c hc)

/-- A word that the grammar finds at the front of a line is found by the linter. -/
theorem takeWhile_statementText {raw k : Text} (h : word (body raw) = k)
    (hk : k.all isWordChar = true) : (statementText raw).takeWhile (!isBlank ·) = k := by
  rcases exists_word_append (body raw) with ⟨more, hbody, hmore⟩
  rw [h] at hbody
  by_cases hsemicolons : HasSemicolons raw
  · -- A semicolon is no character of the word, so a blank follows it.
    rcases more with _ | ⟨b, more⟩
    · have hlast := (body_of_hasSemicolons hsemicolons).1
      rw [hbody, List.append_nil] at hlast
      exact absurd (List.all_eq_true.1 hk ';' (List.mem_of_getLast? hlast)) (by decide)
    · have hb : isAsciiBlank b = true := hmore b rfl
      have hsemicolon : (b == ';') = false := by
        rw [beq_eq_false_iff_ne]
        rintro rfl
        exact absurd hb (by decide)
      have hbegins : k ++ [b] <+: raw.trim :=
        List.IsPrefix.trans ⟨more, by rw [hbody, List.append_assoc]; rfl⟩ (body_isPrefix raw)
      have hread : k ++ [b] <+: statementText raw := by
        rw [statementText_eq]
        refine Text.isPrefix_dropEndWhile hbegins fun c hc => ?_
        rw [List.getLast?_concat, Option.some.injEq] at hc
        exact hc ▸ hsemicolon
      rcases hread with ⟨rest, hread⟩
      rw [← hread, List.append_assoc]
      refine takeWhile_word hk fun c hc => ?_
      rw [List.singleton_append, List.head?_cons, Option.some.injEq] at hc
      exact hc ▸ isBlank_of_isAsciiBlank hb
  · rcases statementText_eq_append hsemicolons with ⟨gap, hgap, heq⟩
    rw [heq]
    exact takeWhile_append_of_word h hk hgap

/-- What is read of a plain line is plain. -/
theorem isPlain_statementText {raw : Text} (h : ∀ c ∈ body raw, isAsciiChar c = true) :
    IsPlain (statementText raw) := by
  intro c hc
  by_cases hsemicolons : HasSemicolons raw
  · exact Or.inl (h c ((body_of_hasSemicolons hsemicolons).2.mem hc))
  · rcases statementText_eq_append hsemicolons with ⟨gap, hgap, heq⟩
    rw [heq, List.mem_append] at hc
    exact hc.imp (h c) (hgap c)

/-! ### Statements -/

theorem statementSights_nil : statementSights [] = [] := rfl

theorem statementSights_end : statementSights "end".toList = [.closes] := rfl

section Statements

variable {t : Text}

theorem ne_end_of_takeWhile {k : String} (hk : k ∈ statementWords)
    (h : t.takeWhile (!isBlank ·) = k.toList) : t ≠ "end".toList := by
  rintro rfl
  have hall : ∀ k ∈ statementWords, "end".toList.takeWhile (!isBlank ·) ≠ k.toList := by decide
  exact hall k hk h

/-- A block is opened wherever the grammar opens one. -/
theorem statementSights_subgraph (h : t.takeWhile (!isBlank ·) = "subgraph".toList) :
    ∃ name, statementSights t = [.opens name] := by
  have hend := ne_end_of_takeWhile List.mem_cons_self h
  unfold statementSights statementAt
  dsimp only
  rw [if_neg hend, if_pos h]
  exact ⟨_, rfl⟩

/-- What the grammar does not look into shows nothing. -/
theorem statementSights_of_mem_opaqueWords {k : String} (hk : k ∈ opaqueWords)
    (h : t.takeWhile (!isBlank ·) = k.toList) : statementSights t = [] := by
  have hend := ne_end_of_takeWhile (List.mem_cons_of_mem _ hk) h
  have hsubgraph : t.takeWhile (!isBlank ·) ≠ "subgraph".toList := by
    have hall : ∀ k ∈ opaqueWords, k.toList ≠ "subgraph".toList := by decide
    rw [h]
    exact hall k hk
  have hopaque : opaqueWords.any (·.toList = t.takeWhile (!isBlank ·)) = true :=
    List.any_eq_true.2 ⟨k, hk, decide_eq_true h.symm⟩
  unfold statementSights statementAt
  dsimp only
  rw [if_neg hend, if_neg hsubgraph, if_pos hopaque]
  rfl

/-- Every other statement shows what a node and a chain show, if there is a node. -/
theorem statementSights_of_node? {id : Text} {marks : List Mark} {after : Cursor}
    (hend : t ≠ "end".toList)
    (hfirst : ∀ k ∈ statementWords, t.takeWhile (!isBlank ·) ≠ k.toList)
    (hnode : node? ⟨0, t⟩ = some (id, marks, after)) :
    statementSights t = marks.map Mark.sight ++ (chain id after).map Mark.sight := by
  have hsubgraph := hfirst "subgraph" List.mem_cons_self
  have hopaque : ¬ opaqueWords.any (·.toList = t.takeWhile (!isBlank ·)) = true := by
    rw [List.any_eq_true]
    rintro ⟨k, hk, heq⟩
    exact hfirst k (List.mem_cons_of_mem _ hk) (of_decide_eq_true heq).symm
  unfold statementSights statementAt
  dsimp only
  rw [if_neg hend, if_neg hsubgraph, if_neg hopaque, hnode, List.map_append]

/-- A node with a chain raises an alarm just for a tab, and opens and closes
    nothing. -/
theorem alarms_statement_iff {rest : Text} {closed : Option Shape} (hplain : IsPlain t)
    (hnode : nodeRef t = .ok (closed, rest)) (hchain : IsChain rest) :
    (Alarms (statementSights t) ↔ HasTab rest) ∧ IsFlat (statementSights t) := by
  have hfirst : ∀ k ∈ statementWords, t.takeWhile (!isBlank ·) ≠ k.toList := fun k hk =>
    takeWhile_ne_of_nodeRef hnode (isReserved_of_mem_statementWords hk).1
      (isReserved_of_mem_statementWords hk).2
  have hend : t ≠ "end".toList := by
    rintro rfl
    exact takeWhile_ne_of_nodeRef hnode (k := "end".toList) (by decide) (by decide) rfl
  rcases node?_of_ok (c := ⟨0, t⟩) hplain hnode with
    ⟨id, -, marks, after, -, -, -, hread, hno, hafter⟩
  have hrest : IsPlain rest := hplain.of_isSuffix (nodeRef_isSuffix hnode)
  rw [statementSights_of_node? hend hfirst hread, alarms_append, or_iff_right hno]
  exact ⟨alarms_chain_iff id hchain hrest hafter, (isFlat_node? hread).append (isFlat_chain id after)⟩

/-- An `end` with blanks behind it is taken for a node. -/
theorem alarms_end_append {gap : Text} (hgap : ∀ c ∈ gap, isBlank c = true) (hne : gap ≠ []) :
    Alarms (statementSights ("end".toList ++ gap)) := by
  have hends : Ends gap := fun c hc => by
    by_contra hword
    rw [Bool.not_eq_false] at hword
    exact notMem_gap hgap (not_isBlank_of_isWordChar hword) (List.mem_of_mem_head? hc)
  have hplain : IsPlain ("end".toList ++ gap) := by
    have hascii : ∀ c ∈ "end".toList, isAsciiChar c = true := List.all_eq_true.1 (by decide)
    exact fun c hc => (List.mem_append.1 hc).imp (hascii c) (hgap c)
  have htake := takeWhile_isIdChar_of_isPlain (List.all_eq_true.1 (by decide)) hends hplain
  -- The linter sees an identifier here, and the identifier is a keyword.
  have hreserved : idFinding? "end".toList = some (.reservedId "end".toList) := by decide
  have hword : ("end".toList ++ gap).takeWhile (!isBlank ·) = "end".toList :=
    takeWhile_word (by decide) fun c hc => hgap c (List.mem_of_mem_head? hc)
  have hfirst : ∀ k ∈ statementWords, ("end".toList ++ gap).takeWhile (!isBlank ·) ≠ k.toList := by
    rw [hword]
    decide
  have hend : "end".toList ++ gap ≠ "end".toList := fun heq => hne (List.append_right_eq_self.1 heq)
  rcases node?_of_idFinding? (c := ⟨0, "end".toList ++ gap⟩) htake (by decide) hreserved with
    ⟨id, marks, after, hread, halarms⟩
  rw [statementSights_of_node? hend hfirst hread, alarms_append]
  exact Or.inl halarms

end Statements

/-! ### Lines -/

/-- A line that the grammar accepts and that raises an alarm: an `end` with blanks
    before its semicolon, or a chain with a tab after the dashes of a link. -/
inductive MisreadLine (raw : Text) : Prop where
  | closing {gap : Text} (hgap : ∀ c ∈ gap, isBlank c = true) (hne : gap ≠ [])
      (h : raw.trim = "end".toList ++ gap ++ [';'])
  | tab {rest : Text} {closed : Option Shape}
      (hnode : nodeRef (statementText raw) = .ok (closed, rest)) (h : HasTab rest)

section Lines

variable {raw : Text}

theorem statementText_of_closing {gap : Text} (hgap : ∀ c ∈ gap, isBlank c = true)
    (h : raw.trim = "end".toList ++ gap ++ [';']) : statementText raw = "end".toList ++ gap := by
  rw [statementText_eq, h, Text.dropEndWhile_concat, if_pos (by decide)]
  refine Text.dropEndWhile_eq_self fun c hc => ?_
  rw [beq_eq_false_iff_ne]
  rintro rfl
  rcases List.mem_append.1 (List.mem_of_getLast? hc) with hmem | hmem
  · exact absurd hmem (by decide)
  · exact absurd (hgap ';' hmem) (by decide)

/-- A line that is misread begins with a character of a word. -/
theorem MisreadLine.head (h : MisreadLine raw) :
    ∃ c, raw.trim.head? = some c ∧ isWordChar c = true := by
  cases h with
  | closing hgap hne h =>
    rw [h]
    exact ⟨'e', rfl, by decide⟩
  | tab hnode h =>
    rcases exists_id_of_nodeRef hnode with ⟨id, more, hread, hid, -⟩
    rcases hid' : id with _ | ⟨c, id'⟩
    · exact absurd hid' hid.ne_nil
    · have hbegins : statementText raw <+: raw.trim := by
        rw [statementText_eq]
        exact Text.dropEndWhile_isPrefix _ _
      -- The statement stands at the beginning of the line, and a node at its own.
      rcases hbegins with ⟨back, hback⟩
      rw [← hback, hread, hid']
      exact ⟨c, rfl, hid.isWordChar c (hid' ▸ List.mem_cons_self)⟩

/-- A line that begins with a reserved word is not misread, unless the word is the
    end of a block. -/
theorem not_misreadLine {k : Text} (h : (statementText raw).takeWhile (!isBlank ·) = k)
    (hk : isReserved k = true) (hword : k.all isWordChar = true) (hend : k ≠ "end".toList) :
    ¬ MisreadLine raw := by
  intro hmisread
  cases hmisread with
  | closing hgap hne hclosing =>
    rw [statementText_of_closing hgap hclosing,
      takeWhile_word (by decide) fun c hc => hgap c (List.mem_of_mem_head? hc)] at h
    exact hend h.symm
  | tab hnode htab => exact takeWhile_ne_of_nodeRef hnode hk hword h

/-- A line that says nothing to the grammar shows nothing to the linter but a
    typographic character. -/
theorem sights_of_isIdle_body (h : isIdle (body raw) = true) :
    ¬ Alarms (sights raw) ∧ IsFlat (sights raw) ∧ ¬ MisreadLine raw := by
  -- A line that says nothing is empty or begins with a percent sign or a semicolon,
  -- and no misread line begins so.
  have hother : ∀ c, raw.trim.head? = some c → isWordChar c = false := by
    intro c hc
    rcases (isIdle_body_iff raw).1 h with hidle | hsemicolon
    · rw [isIdle, Bool.or_eq_true, List.isEmpty_iff, List.isPrefixOf_iff_prefix] at hidle
      rcases hidle with hnil | ⟨rest, hrest⟩
      · rw [hnil] at hc
        cases hc
      · rw [← hrest] at hc
        exact Option.some.inj hc ▸ (by decide : isWordChar '%' = false)
    · rw [hsemicolon] at hc
      exact Option.some.inj hc ▸ (by decide : isWordChar ';' = false)
  have hmisread : ¬ MisreadLine raw := by
    intro hmisread
    rcases hmisread.head with ⟨c, hc, hword⟩
    rw [hother c hc] at hword
    exact absurd hword (by decide)
  rcases (isIdle_body_iff raw).1 h with hidle | hsemicolon
  · rw [sights_of_isIdle hidle]
    exact ⟨not_alarms_nil, isFlat_nil, hmisread⟩
  · have hread : statementText raw = [] := by
      rw [statementText_eq, hsemicolon]
      rfl
    have hbusy : ¬ isIdle raw.trim = true := by
      rw [hsemicolon]
      decide
    rw [sights_eq, if_neg hbusy, hread, statementSights_nil, List.append_nil]
    exact ⟨not_alarms_headerSights raw, isFlat_headerSights raw, hmisread⟩

/-- The line that closes a block is seen to close one, or it is misread. -/
theorem statementSights_of_body_eq_end (h : body raw = "end".toList) :
    (statementSights (statementText raw) = [.closes] ∧ ¬ MisreadLine raw) ∨
      (Alarms (statementSights (statementText raw)) ∧ MisreadLine raw) := by
  have hclean : statementText raw = "end".toList →
      statementSights (statementText raw) = [.closes] ∧ ¬ MisreadLine raw := by
    intro hread
    refine ⟨by rw [hread, statementSights_end], fun hmisread => ?_⟩
    cases hmisread with
    | closing hgap hne hclosing =>
      rw [statementText_of_closing hgap hclosing] at hread
      exact hne (List.append_right_eq_self.1 hread)
    | tab hnode htab =>
      rw [hread] at hnode
      exact takeWhile_ne_of_nodeRef hnode (k := "end".toList) (by decide) (by decide) rfl
  rcases trim_eq_body_append raw with htrim | ⟨gap, hgap, htrim⟩
  · refine Or.inl (hclean ?_)
    rw [statementText_eq, htrim, h]
    rfl
  · rw [h] at htrim
    have hread := statementText_of_closing hgap htrim
    -- The grammar drops the blanks before a semicolon, the linter only the semicolon.
    by_cases hne : gap = []
    · refine Or.inl (hclean ?_)
      rw [hread, hne, List.append_nil]
    · rw [hread]
      exact Or.inr ⟨alarms_end_append hgap hne, .closing hgap hne htrim⟩

/-- A node with a chain is misread for a tab, and opens and closes nothing. -/
theorem statementSights_of_isChain {rest : Text} {closed : Option Shape}
    (hascii : ∀ c ∈ body raw, isAsciiChar c = true) (hnode : nodeRef (body raw) = .ok (closed, rest))
    (hchain : IsChain rest) :
    (Alarms (statementSights (statementText raw)) ↔ MisreadLine raw) ∧
      IsFlat (statementSights (statementText raw)) := by
  -- A chain does not end in a semicolon, so what is read of the line is all of it.
  have hsemicolons : ¬ HasSemicolons raw := fun hsemicolons =>
    getLast?_ne_of_nodeRef hnode hchain.getLast?_ne (body_of_hasSemicolons hsemicolons).1
  rcases statementText_eq_append hsemicolons with ⟨gap, hgap, hread⟩
  have hnode' : nodeRef (statementText raw) = .ok (closed, rest ++ gap) := by
    rw [hread]
    exact (nodeRef_append_iff hgap).2 ⟨rest, hnode, rfl⟩
  have hchain' : IsChain (rest ++ gap) := (isChain_append_iff hgap).2 hchain
  rcases alarms_statement_iff (isPlain_statementText hascii) hnode' hchain' with ⟨halarms, hflat⟩
  refine ⟨halarms.trans ⟨.tab hnode', fun hmisread => ?_⟩, hflat⟩
  cases hmisread with
  | closing hgap' hne hclosing =>
    refine absurd ?_ (takeWhile_ne_of_nodeRef hnode' (k := "end".toList) (by decide) (by decide))
    rw [statementText_of_closing hgap' hclosing]
    exact takeWhile_word (by decide) fun c hc => hgap' c (List.mem_of_mem_head? hc)
  | tab hnode'' htab =>
    rw [hnode', Except.ok.injEq, Prod.mk.injEq] at hnode''
    exact hnode''.2 ▸ htab

/-- A line that says something is refused for a character, or it is in ASCII and
    read as a statement. -/
theorem read_of_busy {p : Progress} (hseen : p.headerSeen = true)
    (hbusy : isIdle (body raw) = false) :
    (∃ c, p.read raw = .error (.foreignChar c)) ∨
      (∀ c ∈ body raw, isAsciiChar c = true) ∧
        p.read raw = (Grammar.statement (body raw) >>= fun e => e.apply p.depth).map
          fun depth => { p with depth } := by
  cases hforeign : (body raw).find? (!isAsciiChar ·) with
  | some c =>
    refine Or.inl ⟨c, ?_⟩
    simp only [Progress.read, hbusy, hseen, hforeign, Bool.not_true, Bool.false_eq_true, if_false]
  | none =>
    have hascii : ∀ c ∈ body raw, isAsciiChar c = true := by
      intro c hc
      have hnot := List.find?_eq_none.1 hforeign c hc
      rwa [Bool.not_eq_true, Bool.not_eq_false'] at hnot
    exact Or.inr ⟨hascii, read_statement hbusy hascii hseen⟩

/-- A line that is read says nothing, or it is a statement in ASCII that can be
    applied. -/
theorem read_eq_ok {p q : Progress} (hseen : p.headerSeen = true) (h : p.read raw = .ok q) :
    (isIdle (body raw) = true ∧ q = p) ∨
      (isIdle (body raw) = false ∧ (∀ c ∈ body raw, isAsciiChar c = true) ∧
        ∃ e depth, Grammar.statement (body raw) = .ok e ∧ e.apply p.depth = .ok depth ∧
          q = { p with depth }) := by
  by_cases hidle : isIdle (body raw) = true
  · rw [Progress.read, if_pos hidle] at h
    exact Or.inl ⟨hidle, (Except.ok.inj h).symm⟩
  · have hbusy := Bool.eq_false_iff.2 hidle
    -- A line that says something is looked at for foreign characters first.
    rcases read_of_busy hseen hbusy with ⟨c, hread⟩ | ⟨hascii, hread⟩
    · cases hread.symm.trans h
    · rw [hread] at h
      rcases hstatement : Grammar.statement (body raw) with cause | e
      · rw [hstatement] at h
        cases h
      · rw [hstatement] at h
        rcases hdepth : e.apply p.depth with cause | depth
        · simp only [bind, Except.bind, hdepth] at h
          cases h
        · simp only [bind, Except.bind, hdepth] at h
          exact Or.inr ⟨hbusy, hascii, e, depth, rfl, hdepth, (Except.ok.inj h).symm⟩

/-- An accepted line raises an alarm just if it is misread. If it raises none, the
    linter has the same blocks open. -/
theorem sights_of_read {p q : Progress} (hseen : p.headerSeen = true) (h : p.read raw = .ok q) :
    (Alarms (sights raw) ↔ MisreadLine raw) ∧
      (¬ Alarms (sights raw) → ∀ stray,
        (sights raw).foldl Sight.nest (p.depth, stray) = (q.depth, stray)) := by
  rcases read_eq_ok hseen h with ⟨hidle, rfl⟩ | ⟨hbusy, hascii, e, depth, hstatement, hdepth, rfl⟩
  · rcases sights_of_isIdle_body hidle with ⟨hno, hflat, hmisread⟩
    exact ⟨iff_of_false hno hmisread, fun _ stray => hflat _⟩
  · have htrim : ¬ isIdle raw.trim = true := fun htrim => by
      rw [(isIdle_body_iff raw).2 (Or.inl htrim)] at hbusy
      exact absurd hbusy (by decide)
    rw [sights_eq, if_neg htrim, alarms_append, or_iff_right (not_alarms_headerSights raw)]
    -- Only the statement itself is left to look at.
    have hnest : ∀ {stray : Nat} {ss : List Sight}, ss.foldl Sight.nest (p.depth, stray)
        = (depth, stray) → (Survey.headerSights raw ++ ss).foldl Sight.nest (p.depth, stray)
          = (depth, stray) := by
      intro stray ss hss
      rw [List.foldl_append, isFlat_headerSights raw, hss]
    rcases statement_eq_ok hstatement with ⟨hend, rfl⟩ | ⟨hword, rfl⟩ | ⟨k, hk, hword, rfl⟩ |
      ⟨closed, rest, hnode, hchain, rfl⟩
    · -- The end of a block, which the linter sees unless it is misread.
      rcases statementSights_of_body_eq_end hend with ⟨hsights, hmisread⟩ | ⟨halarms, hmisread⟩
      · rw [hsights]
        refine ⟨iff_of_false (not_alarms_of_fault?_eq_none rfl) hmisread, fun _ stray => hnest ?_⟩
        rcases hopened : p.depth with _ | opened
        · rw [hopened] at hdepth
          cases hdepth
        · rw [hopened] at hdepth
          rw [← Except.ok.inj hdepth]
          rfl
      · exact ⟨iff_of_true halarms hmisread, fun hno => absurd halarms hno⟩
    · -- The beginning of a block.
      have hread := takeWhile_statementText hword (by decide)
      rcases statementSights_subgraph hread with ⟨name, hsights⟩
      rw [hsights]
      refine ⟨iff_of_false (not_alarms_of_fault?_eq_none rfl) ?_, fun _ stray => hnest ?_⟩
      · exact not_misreadLine hread (by decide) (by decide) (by decide)
      · rw [← Except.ok.inj hdepth]
        rfl
    · -- A statement that neither of them looks into.
      have hreserved := isReserved_of_mem_statementWords (List.mem_cons_of_mem _ hk)
      have hread := takeWhile_statementText hword hreserved.2
      have hne : k.toList ≠ "end".toList := by
        have hall : ∀ k ∈ opaqueWords, k.toList ≠ "end".toList := by decide
        exact hall k hk
      rw [statementSights_of_mem_opaqueWords hk hread]
      refine ⟨iff_of_false not_alarms_nil ?_, fun _ stray => hnest ?_⟩
      · exact not_misreadLine hread hreserved.1 hreserved.2 hne
      · rw [← Except.ok.inj hdepth]
        rfl
    · -- A node with a chain.
      rcases statementSights_of_isChain hascii hnode hchain with ⟨halarms, hflat⟩
      refine ⟨halarms, fun _ stray => hnest ?_⟩
      rw [hflat, ← Except.ok.inj hdepth]

end Lines

/-! ### Many lines -/

/-- A line that is counted was read. -/
theorem read_of_line {p q : Progress} {raw : Text} (h : p.line raw = .ok q) :
    ∃ q', p.read raw = .ok q' ∧ q = { q' with lines := p.lines + 1 } := by
  unfold Progress.line at h
  dsimp only at h
  split at h
  · rename_i q' hread
    exact ⟨q', hread, (Except.ok.inj h).symm⟩
  · cases h

theorem headerSeen_of_read {p q : Progress} {raw : Text} (hseen : p.headerSeen = true)
    (h : p.read raw = .ok q) : q.headerSeen = true := by
  rcases read_eq_ok hseen h with ⟨-, rfl⟩ | ⟨-, -, e, depth, -, -, rfl⟩
  · exact hseen
  · exact hseen

/-- What holds of accepted lines holds of as many as there are. -/
theorem sights_of_foldlM {p q : Progress} {ls : List Text} (hseen : p.headerSeen = true)
    (h : ls.foldlM Progress.line p = .ok q) :
    q.headerSeen = true ∧ (∀ l ∈ ls, Alarms (sights l) ↔ MisreadLine l) ∧
      (¬ Alarms (ls.flatMap sights) → ∀ stray,
        (ls.flatMap sights).foldl Sight.nest (p.depth, stray) = (q.depth, stray)) := by
  -- The number of open blocks is what one line hands to the next.
  induction ls generalizing p with
  | nil =>
    rw [List.foldlM_nil] at h
    rw [← Except.ok.inj h]
    exact ⟨hseen, List.forall_mem_nil _, fun _ _ => rfl⟩
  | cons l ls ih =>
    rw [List.foldlM_cons] at h
    rcases hline : p.line l with e | p'
    · rw [hline] at h
      cases h
    · rw [hline] at h
      rcases read_of_line hline with ⟨p'', hread, rfl⟩
      have hseen' := headerSeen_of_read hseen hread
      rcases ih (p := { p'' with lines := p.lines + 1 }) hseen' h with ⟨hseen', hmisread, hnest⟩
      rcases sights_of_read hseen hread with ⟨halarms, hfirst⟩
      refine ⟨hseen', List.forall_mem_cons.2 ⟨halarms, hmisread⟩, fun hno stray => ?_⟩
      rw [List.flatMap_cons, alarms_append, not_or] at hno
      rw [List.flatMap_cons, List.foldl_append, hfirst hno.1]
      exact hnest hno.2 stray

end Lint

end Flowchart
