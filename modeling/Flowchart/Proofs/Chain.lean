import Flowchart.Proofs.Inversion

/-!
# Accepted Chains

A chain that is accepted is best seen as a proposition of its own, since whether
it is accepted depends only on the text. Two things follow by induction on it. No
chain ends in a semicolon, and blanks at the end of a chain change nothing.

Blanks at the end are no part of a node or of a link, as both end in some other
character. So each of them is read from a text with closing blanks just when it is
read from the text without them, and what is left differs by those blanks.

## Main definitions

* `Grammar.IsChain`: What may follow a node.
* `Grammar.statementWords`: The words that begin statements other than chains.

## Theorems

* `Grammar.chain_eq_ok_iff`: The chains that are accepted.
* `Grammar.IsChain.getLast?_ne`: No chain ends in a semicolon.
* `Grammar.nodeRef_append_iff`, `Grammar.link_append_of_ok`,
  `Grammar.link_append_of_error`: Closing blanks are left behind nodes and links.
* `Grammar.isChain_append_iff`: Closing blanks mean nothing.
* `Grammar.statement_eq_ok`, `Grammar.statement_eq_error`: What a statement looks
  like.
-/

namespace Flowchart

namespace Grammar

open Identifier

/-! ### Chains -/

/-- What may follow a node: blanks, or a link with a node that such a text
    follows. -/
inductive IsChain : Text → Prop where
  | done {t : Text} (hblank : t.trimStart = []) : IsChain t
  | link {t after rest : Text} {text : Option Text} {closed : Option Shape}
      (hlink : link t.trimStart = .ok (text, after))
      (htext : ∀ x, text = some x → edgeText x = .ok ())
      (hnode : nodeRef after.trimStart = .ok (closed, rest)) (hrest : IsChain rest) : IsChain t

theorem link_nil : link [] = .error [] := rfl

theorem nodeRef_nil : ∃ e, nodeRef [] = .error e := ⟨_, rfl⟩

/-- The texts that are accepted after a node. -/
theorem chain_eq_ok_iff {closed : Option Shape} {t : Text} :
    chain closed t = .ok () ↔ IsChain t := by
  constructor
  · intro h
    -- Only two of the cases are accepted: the end of the text, and a whole link.
    fun_induction chain closed t with
    | case1 closed t hempty => exact .done (List.isEmpty_iff.1 hempty)
    | case2 closed t hempty place hlink => cases h
    | case3 closed t hempty text after e hlink htext => cases h
    | case4 closed t hempty text after hlink htext e hnode => cases h
    | case5 closed t hempty text after hlink htext closed' rest hnode ih =>
      refine .link hlink (fun x hx => ?_) hnode (ih h)
      rw [hx] at htext
      exact htext
  · intro h
    induction h generalizing closed with
    | done hblank => rw [chain, if_pos (List.isEmpty_iff.2 hblank)]
    | link hlink htext hnode _ ih => exact (chain_link hlink htext hnode).trans ih

theorem getLast?_of_isSuffix {s t : Text} (h : s <:+ t) (hne : s ≠ []) :
    t.getLast? = s.getLast? := by
  rcases h with ⟨front, rfl⟩
  exact List.getLast?_append_of_ne_nil front hne

/-- A node and what follows it do not end in a semicolon, if what follows does
    not. -/
theorem getLast?_ne_of_nodeRef {t rest : Text} {closed : Option Shape}
    (hnode : nodeRef t = .ok (closed, rest)) (hrest : rest.getLast? ≠ some ';') :
    t.getLast? ≠ some ';' := by
  by_cases hnil : rest = []
  · subst hnil
    exact nodeRef_getLast?_ne hnode
  · rwa [getLast?_of_isSuffix (nodeRef_isSuffix hnode) hnil]

/-- No chain ends in a semicolon. -/
theorem IsChain.getLast?_ne {t : Text} (h : IsChain t) : t.getLast? ≠ some ';' := by
  induction h with
  | done hblank =>
    intro hlast
    have hsemicolon := Text.trimStart_eq_nil_iff.1 hblank _ (List.mem_of_getLast? hlast)
    exact absurd hsemicolon (by decide)
  | @link t after rest text closed hlink _ hnode _ ih =>
    have hsuffix : after.trimStart <:+ t :=
      ((List.dropWhile_suffix _).trans (link_isSuffix hlink)).trans (List.dropWhile_suffix _)
    -- There is a node behind the link, so the text does not end with it.
    have hne : after.trimStart ≠ [] := by
      intro hnil
      rcases nodeRef_nil with ⟨e, he⟩
      rw [hnil, he] at hnode
      cases hnode
    rw [getLast?_of_isSuffix hsuffix hne]
    exact getLast?_ne_of_nodeRef hnode ih

/-! ### Closing blanks -/

section Gap

variable {gap : Text} (hgap : ∀ c ∈ gap, isBlank c = true)

include hgap

theorem notMem_gap {c : Char} (hc : isBlank c = false) : c ∉ gap := by
  intro hmem
  rw [hgap c hmem] at hc
  exact absurd hc (by decide)

theorem arrow_disjoint_gap : ∀ c ∈ arrow, c ∉ gap := by
  intro c hc
  have hblank : ¬ isBlank c = true := List.any_eq_false.1 (by decide) c hc
  exact notMem_gap hgap (Bool.eq_false_iff.2 hblank)

theorem ends_append_iff {rest : Text} : Ends (rest ++ gap) ↔ Ends rest := by
  rcases rest with _ | ⟨c, rest⟩
  · refine iff_of_true (fun c hc => ?_) ends_nil
    by_contra hword
    rw [Bool.not_eq_false] at hword
    exact notMem_gap hgap (not_isBlank_of_isWordChar hword) (List.mem_of_mem_head? hc)
  · exact Iff.rfl

theorem shapeAt?_append (rest : Text) : shapeAt? (rest ++ gap) = shapeAt? rest := by
  rcases rest with _ | ⟨c, rest⟩
  · -- No delimiter is a blank.
    rcases hshape : shapeAt? gap with _ | shape
    · exact hshape
    · rcases shapeAt?_eq_some hshape with ⟨more, hmore⟩
      have hopener : isBlank shape.opener = false := by cases shape <;> decide
      exact absurd (hmore ▸ List.mem_cons_self) (notMem_gap hgap hopener)
  · rfl

/-- A node is read whether or not there are blanks at the end. -/
theorem nodeRef_append_iff {t rest : Text} {closed : Option Shape} :
    nodeRef (t ++ gap) = .ok (closed, rest) ↔
      ∃ rest', nodeRef t = .ok (closed, rest') ∧ rest = rest' ++ gap := by
  simp only [nodeRef_eq_ok_iff]
  constructor
  · rintro ⟨id, hid, ⟨hclosed, ht, hends, hshape⟩ | ⟨shape, body, hclosed, ht, hbody, hlabel⟩⟩
    · -- The last character of the node is no blank, so what was put at the end stands
      -- behind all of it.
      have hlast : ∀ c, id.getLast? = some c → c ∉ gap := fun c hc =>
        notMem_gap hgap (not_isBlank_of_isWordChar (hid.isWordChar c (List.mem_of_getLast? hc)))
      rcases Text.exists_of_append_eq ht.symm hlast with ⟨rest', ht', rfl⟩
      rw [ends_append_iff hgap] at hends
      rw [shapeAt?_append hgap] at hshape
      exact ⟨rest', ⟨id, hid, Or.inl ⟨hclosed, ht', hends, hshape⟩⟩, rfl⟩
    · have hsplit : id ++ shape.opener :: (body ++ shape.closer :: rest)
          = (id ++ shape.opener :: (body ++ [shape.closer])) ++ rest := by
        simp only [List.append_assoc, List.cons_append, List.nil_append]
      have hlast : ∀ c, (id ++ shape.opener :: (body ++ [shape.closer])).getLast? = some c →
          c ∉ gap := by
        intro c hc
        rw [← List.cons_append, ← List.append_assoc, List.getLast?_concat, Option.some.injEq] at hc
        exact hc ▸ notMem_gap hgap (by cases shape <;> decide)
      rcases Text.exists_of_append_eq (hsplit.symm.trans ht.symm) hlast with ⟨rest', ht', rfl⟩
      refine ⟨rest', ⟨id, hid, Or.inr ⟨shape, body, hclosed, ?_, hbody, hlabel⟩⟩, rfl⟩
      rw [ht']
      simp only [List.append_assoc, List.cons_append, List.nil_append]
  · rintro ⟨rest', ⟨id, hid, hcases⟩, rfl⟩
    refine ⟨id, hid, hcases.imp ?_ ?_⟩
    · rintro ⟨hclosed, rfl, hends, hshape⟩
      exact ⟨hclosed, List.append_assoc _ _ _, (ends_append_iff hgap).2 hends,
        (shapeAt?_append hgap rest').trans hshape⟩
    · rintro ⟨shape, body, hclosed, rfl, hbody, hlabel⟩
      refine ⟨shape, body, hclosed, ?_, hbody, hlabel⟩
      simp only [List.append_assoc, List.cons_append]

/-- After two dashes, the same arrow is found. -/
theorem cut?_arrow_append (rest : Text) :
    Text.cut? arrow ((rest ++ gap).dropWhile isLinkBlank)
      = (Text.cut? arrow (rest.dropWhile isLinkBlank)).map fun x => (x.1, x.2 ++ gap) := by
  rw [List.dropWhile_append]
  by_cases hnil : (rest.dropWhile isLinkBlank).isEmpty = true
  · -- Only blanks come before the end of the text, and they run on into the gap.
    have hall : ∀ c ∈ arrow, c ∉ gap.dropWhile isLinkBlank := fun c hc hmem =>
      arrow_disjoint_gap hgap c hc ((List.dropWhile_suffix _).mem hmem)
    have hcut := Text.cut?_append_of_disjoint hall (List.cons_ne_nil _ _) []
    rw [if_pos hnil, List.isEmpty_iff.1 hnil]
    rw [List.nil_append] at hcut
    rw [hcut]
    rfl
  · rw [if_neg hnil]
    exact Text.cut?_append_of_disjoint (arrow_disjoint_gap hgap) (List.cons_ne_nil _ _) _

/-- Blanks at the end stay behind a link. -/
theorem link_append_of_ok {t after : Text} {text : Option Text} (h : link t = .ok (text, after)) :
    link (t ++ gap) = .ok (text, after ++ gap) := by
  -- A bar would change how a link is read, and there is none among the blanks.
  have hbar : '|' ∉ gap := notMem_gap hgap (by decide)
  rcases link_cases t with ⟨rest, rfl⟩ | ⟨c, rest, hc, rfl⟩ | ⟨place, hplace⟩
  · rw [List.append_assoc]
    rcases exists_bar rest with hhead | ⟨gap', x, hgap', hx, rfl⟩ | ⟨gap', x, after', hgap', hx, rfl⟩
    · rw [link_arrow hhead, Except.ok.injEq, Prod.mk.injEq] at h
      rcases h with ⟨rfl, rfl⟩
      refine link_arrow fun hhead' => ?_
      rw [List.dropWhile_append] at hhead'
      split at hhead'
      · exact hbar ((List.dropWhile_suffix _).mem (List.mem_of_mem_head? hhead'))
      · rename_i hne
        rw [List.head?_append_of_ne_nil _ fun hnil => hne (List.isEmpty_iff.2 hnil)] at hhead'
        exact hhead hhead'
    · rw [link_bar hgap' hx, Except.ok.injEq, Prod.mk.injEq] at h
      rcases h with ⟨rfl, rfl⟩
      have hx' : '|' ∉ x ++ gap := fun hmem => (List.mem_append.1 hmem).elim hx hbar
      rw [List.append_assoc, List.cons_append]
      exact link_bar hgap' hx'
    · rw [link_piped hgap' hx, Except.ok.injEq, Prod.mk.injEq] at h
      rcases h with ⟨rfl, rfl⟩
      rw [List.append_assoc, List.cons_append, List.append_assoc, List.cons_append]
      exact link_piped hgap' hx _
  · rw [link_dashes hc] at h
    rw [List.cons_append, List.cons_append, List.cons_append, link_dashes hc,
      cut?_arrow_append hgap]
    rcases hcut : Text.cut? arrow (rest.dropWhile isLinkBlank) with _ | ⟨_ | ⟨d, x⟩, after'⟩
    · rw [hcut] at h
      cases h
    · rw [hcut] at h
      cases h
    · rw [hcut] at h
      dsimp only at h
      rw [Except.ok.injEq, Prod.mk.injEq] at h
      rcases h with ⟨rfl, rfl⟩
      rfl
  · rw [hplace] at h
    cases h

/-- Blanks at the end make no link. -/
theorem link_append_of_error {t place : Text} (h : link t = .error place) :
    ∃ place', link (t ++ gap) = .error place' := by
  -- Where dashes and a blank are, the blank is one of the text or one of those behind it.
  have hdashes : ∀ {c : Char} {rest : Text}, isLinkBlank c = true →
      (t ++ gap = '-' :: '-' :: c :: rest) → ∃ place', link (t ++ gap) = .error place' := by
    intro c rest hc heq
    have hlast : ∀ d, ['-', '-'].getLast? = some d → d ∉ gap := by
      rintro d ⟨⟩
      exact notMem_gap hgap (by decide)
    have heq' : ['-', '-'] ++ c :: rest = t ++ gap := heq.symm
    rcases Text.exists_of_append_eq heq' hlast with ⟨_ | ⟨d, rest'⟩, rfl, hrest⟩
    · have hdash : '-' ∉ rest.dropWhile isLinkBlank := by
        intro hmem
        rw [List.nil_append] at hrest
        have hrestmem : '-' ∈ c :: rest :=
          List.mem_cons_of_mem c ((List.dropWhile_suffix _).mem hmem)
        exact notMem_gap hgap (by decide : isBlank '-' = false) (hrest ▸ hrestmem)
      have hcut : Text.cut? arrow (rest.dropWhile isLinkBlank ++ []) =
          (Text.cut? arrow []).map _ := Text.cut?_append_left hdash []
      have hnone : Text.cut? arrow (rest.dropWhile isLinkBlank) = none := by
        rwa [List.append_nil] at hcut
      rw [heq, link_dashes hc, hnone]
      exact ⟨_, rfl⟩
    · rw [List.cons_append, List.cons.injEq] at hrest
      rcases hrest with ⟨rfl, rfl⟩
      rw [List.cons_append, List.cons_append, List.nil_append, link_dashes hc] at h
      rw [heq, link_dashes hc, cut?_arrow_append hgap]
      rcases hcut : Text.cut? arrow (rest'.dropWhile isLinkBlank) with _ | ⟨_ | ⟨e, x⟩, after⟩
      · exact ⟨_, rfl⟩
      · exact ⟨_, rfl⟩
      · rw [hcut] at h
        cases h
  rcases link_cases (t ++ gap) with ⟨rest, heq⟩ | ⟨c, rest, hc, heq⟩ | hplace
  · have hlast : ∀ d, arrow.getLast? = some d → d ∉ gap := by
      rintro d ⟨⟩
      exact notMem_gap hgap (by decide)
    rcases Text.exists_of_append_eq heq.symm hlast with ⟨rest', rfl, -⟩
    rcases exists_link_arrow rest' with ⟨x, hx⟩
    rw [hx] at h
    cases h
  · exact hdashes hc heq
  · exact hplace

/-- Closing blanks mean nothing. -/
theorem isChain_append_iff {t : Text} : IsChain (t ++ gap) ↔ IsChain t := by
  have hnil : Text.trimStart gap = [] := Text.trimStart_eq_nil_iff.2 hgap
  have htrim : ∀ t : Text, Text.trimStart (t ++ gap) = [] ∨
      Text.trimStart (t ++ gap) = t.trimStart ++ gap := by
    intro t
    by_cases hblank : t.trimStart = []
    · refine Or.inl (Text.trimStart_eq_nil_iff.2 fun c hc => ?_)
      exact (List.mem_append.1 hc).elim (Text.trimStart_eq_nil_iff.1 hblank c) (hgap c)
    · exact Or.inr (Text.trimStart_append hblank gap)
  have hlinkNe : ∀ {t after : Text} {text : Option Text}, link t = .ok (text, after) → t ≠ [] := by
    rintro t after text h rfl
    cases link_nil.symm.trans h
  have hnodeNe : ∀ {t rest : Text} {closed : Option Shape}, nodeRef t = .ok (closed, rest) →
      t ≠ [] := by
    rintro t rest closed h rfl
    rcases nodeRef_nil with ⟨e, he⟩
    cases he.symm.trans h
  constructor
  · -- Blanks are no link and no node, so each of these is found before them.
    intro h
    generalize hu : t ++ gap = u at h
    induction h generalizing t with
    | @done u hblank =>
      subst hu
      refine .done (Text.trimStart_eq_nil_iff.2 fun c hc => ?_)
      exact Text.trimStart_eq_nil_iff.1 hblank c (List.mem_append_left _ hc)
    | @link u after rest text closed hlink htext hnode _ ih =>
      subst hu
      have hstart := (htrim t).resolve_left (hlinkNe hlink)
      rw [hstart] at hlink
      rcases hlink' : link t.trimStart with place | ⟨text', after'⟩
      · rcases link_append_of_error hgap hlink' with ⟨place', hplace⟩
        cases hplace.symm.trans hlink
      · rw [link_append_of_ok hgap hlink', Except.ok.injEq, Prod.mk.injEq] at hlink
        rcases hlink with ⟨rfl, rfl⟩
        rw [(htrim after').resolve_left (hnodeNe hnode), nodeRef_append_iff hgap] at hnode
        rcases hnode with ⟨rest', hnode, rfl⟩
        exact .link hlink' htext hnode (ih rfl)
  · intro h
    induction h with
    | @done t hblank =>
      refine .done (Text.trimStart_eq_nil_iff.2 fun c hc => ?_)
      exact (List.mem_append.1 hc).elim (Text.trimStart_eq_nil_iff.1 hblank c) (hgap c)
    | @link t after rest text closed hlink htext hnode _ ih =>
      have hlink' : link (t ++ gap).trimStart = .ok (text, after ++ gap) := by
        rw [Text.trimStart_append (hlinkNe hlink)]
        exact link_append_of_ok hgap hlink
      have hnode' : nodeRef (after ++ gap).trimStart = .ok (closed, rest ++ gap) := by
        rw [Text.trimStart_append (hnodeNe hnode)]
        exact (nodeRef_append_iff hgap).2 ⟨rest, hnode, rfl⟩
      exact .link hlink' htext hnode' ih

end Gap

/-! ### Statements -/

/-- The words that begin statements other than chains and the end of a block. -/
def statementWords : List String := "subgraph" :: opaqueWords

theorem isReserved_of_mem_statementWords {k : String} (h : k ∈ statementWords) :
    isReserved k.toList = true ∧ k.toList.all isWordChar = true := by
  have hall : ∀ k ∈ statementWords, isReserved k.toList = true ∧
      k.toList.all isWordChar = true := by decide
  exact hall k h

/-- A statement ends a block, opens one, is not looked into, or is a node with a
    chain. -/
theorem statement_eq_ok {t : Text} {e : Effect} (h : statement t = .ok e) :
    (t = "end".toList ∧ e = .closes) ∨ (word t = "subgraph".toList ∧ e = .opens) ∨
      (∃ k ∈ opaqueWords, word t = k.toList ∧ e = .none) ∨
      ∃ closed rest, nodeRef t = .ok (closed, rest) ∧ IsChain rest ∧ e = .none := by
  unfold statement at h
  dsimp only at h
  split at h
  · rename_i hend
    exact Or.inl ⟨hend, (Except.ok.inj h).symm⟩
  · split at h
    · rename_i hsubgraph
      rcases hblock : blockHeader (Text.trimStart (t.drop (word t).length)) with e' | u
      · rw [hblock] at h
        cases h
      · rw [hblock] at h
        exact Or.inr (Or.inl ⟨hsubgraph, (Except.ok.inj h).symm⟩)
    · split at h
      · rename_i hopaque
        rcases List.any_eq_true.1 hopaque with ⟨k, hk, heq⟩
        rw [decide_eq_true_eq] at heq
        exact Or.inr (Or.inr (Or.inl ⟨k, hk, heq.symm, (Except.ok.inj h).symm⟩))
      · rcases hnode : nodeRef t with e' | ⟨closed, rest⟩
        · rw [hnode] at h
          cases h
        · rcases hchain : chain closed rest with e' | u
          · simp only [hnode, hchain, bind, Except.bind] at h
            cases h
          · simp only [hnode, hchain, bind, Except.bind] at h
            exact Or.inr (Or.inr (Or.inr
              ⟨closed, rest, rfl, chain_eq_ok_iff.1 hchain, (Except.ok.inj h).symm⟩))

/-- What is refused is a block without a proper name, no node, or a node without a
    proper chain. -/
theorem statement_eq_error {t : Text} {e : Cause} (h : statement t = .error e) :
    word t = "subgraph".toList ∨
      t ≠ "end".toList ∧ (∀ k ∈ statementWords, word t ≠ k.toList) ∧
        (nodeRef t = .error e ∨
          ∃ closed rest, nodeRef t = .ok (closed, rest) ∧ chain closed rest = .error e) := by
  by_cases hsubgraph : word t = "subgraph".toList
  · exact Or.inl hsubgraph
  · unfold statement at h
    dsimp only at h
    split at h
    · cases h
    · rename_i hend
      split at h
      · cases h
      · rename_i hopaque
        -- The line is not about blocks, so its node or its chain is at fault.
        refine Or.inr ⟨hend, fun k hk heq => ?_, ?_⟩
        · rcases List.mem_cons.1 hk with rfl | hk
          · exact hsubgraph heq
          · exact hopaque (List.any_eq_true.2 ⟨k, hk, decide_eq_true heq.symm⟩)
        · rcases hnode : nodeRef t with e' | ⟨closed, rest⟩
          · rw [hnode] at h
            exact Or.inl (congrArg Except.error (Except.error.inj h))
          · rcases hchain : chain closed rest with e' | u
            · simp only [hnode, hchain, bind, Except.bind] at h
              refine Or.inr ⟨closed, rest, rfl, ?_⟩
              rw [hchain]
              exact congrArg Except.error (Except.error.inj h)
            · simp only [hnode, hchain, bind, Except.bind] at h
              cases h

end Grammar

end Flowchart
