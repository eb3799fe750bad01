import Flowchart.Proofs.Label

/-!
# Clean Edge Labels

An edge label is cleaned under the strict rules and on top of that freed of bars
and of repeated dashes, cut short, and freed of dashes and spaces at its ends.
Those are the characters that would end it early between the dashes and the
arrow it is printed in.

None of these steps makes an entity, so edge labels behave as node labels do: an
entity that dropped angle brackets have brought together is the one thing that
cleaning still changes in a clean edge label, and it is gone after that.

## Main definitions

* `Label.IsEdgeClean`: A label that follows the rules of edges.

## Theorems

* `Label.not_isInfix_squeezeDashes`: Squeezing leaves no two dashes in a row.
* `Label.squeezeDashes_eq_self`: Single dashes are left alone.
* `Label.isEdgeClean_cleanEdge`: Cleaning makes an edge label clean.
* `Label.cleanEdge_eq_self_iff`: What cleaning still changes in it.
* `Label.not_hasEntity_cleanEdge`: Entities do not survive a second cleaning.
-/

namespace Flowchart

namespace Label

open Text Markup

/-! ### Single dashes -/

theorem mem_squeezeDashes {t : Text} {c : Char} (h : c ∈ squeezeDashes t) : c ∈ t := by
  fun_induction squeezeDashes t with
  | case1 t ih => exact List.mem_cons_of_mem '-' (ih h)
  | case2 d t _ ih =>
    rcases List.mem_cons.1 h with rfl | h
    · exact List.mem_cons_self
    · exact List.mem_cons_of_mem d (ih h)
  | case3 => exact h

theorem head?_squeezeDashes (t : Text) : (squeezeDashes t).head? = t.head? := by
  fun_induction squeezeDashes t with
  | case1 t ih => exact ih
  | case2 d t _ ih => rfl
  | case3 => rfl

/-- Squeezing leaves no two dashes in a row. -/
theorem not_isInfix_squeezeDashes (t : Text) : ¬ ['-', '-'] <:+: squeezeDashes t := by
  fun_induction squeezeDashes t with
  | case1 t ih => exact ih
  | case2 d t hne ih =>
    intro h
    rcases List.infix_cons_iff.1 h with hp | hi
    · rw [List.cons_prefix_cons] at hp
      -- The second dash would be the head of what follows, which then had one too.
      have hhead := head?_squeezeDashes t
      rcases hs : squeezeDashes t with _ | ⟨e, s⟩
      · rw [hs] at hp
        exact absurd (List.prefix_nil.1 hp.2) (List.cons_ne_nil _ _)
      · rw [hs, List.cons_prefix_cons] at hp
        rw [hs, List.head?_cons] at hhead
        rcases t with _ | ⟨f, u⟩
        · exact absurd hhead (by simp only [List.head?_nil, reduceCtorEq, not_false_eq_true])
        · rw [List.head?_cons, Option.some.injEq] at hhead
          exact hne u hp.1.symm (by rw [← hhead, ← hp.2.1])
    · exact ih hi
  | case3 => exact fun h => absurd (List.infix_nil.1 h) (List.cons_ne_nil _ _)

/-- Single dashes are left alone. -/
theorem squeezeDashes_eq_self {t : Text} (h : ¬ ['-', '-'] <:+: t) : squeezeDashes t = t := by
  fun_induction squeezeDashes t with
  | case1 t ih => exact absurd ⟨[], t, rfl⟩ h
  | case2 d t _ ih => rw [ih fun hi => h (List.infix_cons hi)]
  | case3 => rfl

/-- What stands in a squeezed text and has no dash stood in the text, at its
    beginning if it does so now. -/
theorem isInfix_of_squeezeDashes {x t : Text} (hx : '-' ∉ x) :
    (x <+: squeezeDashes t → x <+: t) ∧ (x <:+: squeezeDashes t → x <:+: t) := by
  -- The induction follows the squeezing. Where a dash is dropped, the next one is
  -- still there, and no text without dashes begins with it.
  fun_induction squeezeDashes t generalizing x with
  | case1 t ih =>
    refine ⟨fun h => ?_, fun h => List.infix_cons ((ih hx).2 h)⟩
    rcases x with _ | ⟨c, x⟩
    · exact List.nil_prefix
    · have := (ih hx).1 h
      rw [List.cons_prefix_cons] at this
      exact absurd (this.1 ▸ List.mem_cons_self) hx
  | case2 d t _ ih =>
    have hstart : ∀ {y : Text}, '-' ∉ y → y <+: d :: squeezeDashes t → y <+: d :: t := by
      intro y hy h
      rcases y with _ | ⟨c, y⟩
      · exact List.nil_prefix
      · rw [List.cons_prefix_cons] at h ⊢
        exact ⟨h.1, (ih fun hm => hy (List.mem_cons_of_mem c hm)).1 h.2⟩
    refine ⟨hstart hx, fun h => ?_⟩
    rcases List.infix_cons_iff.1 h with hp | hi
    · exact (hstart hx hp).isInfix
    · exact List.infix_cons ((ih hx).2 hi)
  | case3 => exact ⟨id, id⟩

theorem hasEntity_of_squeezeDashes {t : Text} (h : HasEntity (squeezeDashes t)) : HasEntity t := by
  rcases h with ⟨body, hbody, hin⟩
  refine ⟨body, hbody, (isInfix_of_squeezeDashes fun hm => ?_).2 hin⟩
  exact absurd (isEntityChar_of_mem hbody '-' hm) (by decide)

/-! ### Clean edge labels -/

/-- A label that follows the rules of edges. -/
structure IsEdgeClean (t : Text) : Prop where
  allowed : ∀ c ∈ t, LabelRules.strict.allows c = true
  noBar : '|' ∉ t
  spaced : IsSpaced t
  singleDashes : ¬ ['-', '-'] <:+: t
  head : ∀ c, t.head? = some c → isEdgeMargin c = false
  last : ∀ c, t.getLast? = some c → isEdgeMargin c = false
  short : t.length ≤ maxEdgeLabel

/-- A bar becomes a space. -/
def unbar (c : Char) : Char := if c = '|' then ' ' else c

theorem unbar_eq (c : Char) : unbar c = ' ' ∨ unbar c = c := by
  unfold unbar
  split
  · exact Or.inl rfl
  · exact Or.inr rfl

/-- A clean edge label before it is cut: of any length and with any ends. -/
def looseEdge (t : Text) : Text := collapse (squeezeDashes ((scrub .strict t).map unbar))

theorem cleanEdge_eq (t : Text) :
    cleanEdge t =
      dropEndWhile isEdgeMargin (((looseEdge t).take maxEdgeLabel).dropWhile isEdgeMargin) := rfl

theorem cleanEdge_isInfix (t : Text) : cleanEdge t <:+: looseEdge t :=
  (dropEndWhile_isPrefix _ _).isInfix.trans
    ((List.dropWhile_suffix _).isInfix.trans (List.take_prefix _ _).isInfix)

theorem allows_of_mem_looseEdge {t : Text} {c : Char} (h : c ∈ looseEdge t) :
    LabelRules.strict.allows c = true ∧ c ≠ '|' := by
  rcases mem_collapse h with rfl | h
  · exact ⟨LabelRules.allows_space _, by decide⟩
  · rcases List.mem_map.1 (mem_squeezeDashes h) with ⟨d, hd, rfl⟩
    unfold unbar
    split
    · exact ⟨LabelRules.allows_space _, by decide⟩
    · rename_i hbar
      exact ⟨allows_of_mem_scrub hd, hbar⟩

theorem isEdgeMargin_of_isBlank {c : Char} (hallowed : LabelRules.strict.allows c = true)
    (hblank : isBlank c = true) : isEdgeMargin c = true := by
  rw [eq_space_of_isBlank (LabelRules.isPrintable_of_allows hallowed) hblank]
  decide

/-- Cleaning makes an edge label clean. -/
theorem isEdgeClean_cleanEdge (t : Text) : IsEdgeClean (cleanEdge t) := by
  have hallowed : ∀ c ∈ cleanEdge t, LabelRules.strict.allows c = true := fun c hc =>
    (allows_of_mem_looseEdge ((cleanEdge_isInfix t).mem hc)).1
  have hhead : ∀ c, (cleanEdge t).head? = some c → isEdgeMargin c = false := by
    intro c hc
    rw [cleanEdge_eq] at hc
    rcases dropEndWhile_isPrefix isEdgeMargin
      (((looseEdge t).take maxEdgeLabel).dropWhile isEdgeMargin) with ⟨u, hu⟩
    refine of_head?_dropWhile (t := (looseEdge t).take maxEdgeLabel) ?_
    rw [← hu, List.head?_append, hc]
    rfl
  have hlast : ∀ c, (cleanEdge t).getLast? = some c → isEdgeMargin c = false := fun c hc =>
    of_getLast?_dropEndWhile hc
  -- A blank is a margin, so an end that is no margin is no blank.
  have hnotBlank : ∀ c ∈ cleanEdge t, isEdgeMargin c = false → isBlank c = false := by
    intro c hc hm
    by_contra hb
    rw [isEdgeMargin_of_isBlank (hallowed c hc) (by simpa using hb)] at hm
    exact absurd hm (by decide)
  exact {
    allowed := hallowed
    noBar := fun h => (allows_of_mem_looseEdge ((cleanEdge_isInfix t).mem h)).2 rfl
    spaced := (isSpaced_collapse _).of_isInfix (cleanEdge_isInfix t)
      (fun c hc => hnotBlank c (List.mem_of_mem_head? hc) (hhead c hc))
      (fun c hc => hnotBlank c (List.mem_of_mem_getLast? hc) (hlast c hc))
    singleDashes := fun h => not_isInfix_squeezeDashes _
      (isInfix_of_collapse (by decide) (List.cons_ne_nil _ _) (h.trans (cleanEdge_isInfix t)))
    head := hhead
    last := hlast
    short := (dropEndWhile_isPrefix _ _).length_le.trans
      ((List.dropWhile_suffix _).length_le.trans (List.length_take_le _ _)) }

theorem IsEdgeClean.isPrintable {t : Text} (h : IsEdgeClean t) :
    ∀ c ∈ t, isPrintable c = true :=
  fun c hc => LabelRules.isPrintable_of_allows (h.allowed c hc)

/-- Cleaning a printable edge label without angle brackets leaves no entity. -/
theorem not_hasEntity_cleanEdge {t : Text} (ht : ∀ c ∈ t, isPrintable c = true)
    (hangle : ∀ c ∈ t, isAngle c = false) : ¬ HasEntity (cleanEdge t) := by
  intro h
  have hloose : HasEntity (looseEdge t) := h.of_isInfix (cleanEdge_isInfix t)
  exact not_hasEntity_scrub rfl ht hangle
    (hasEntity_of_map unbar_eq (hasEntity_of_squeezeDashes (hasEntity_of_collapse hloose)))

/-- A clean edge label without entities is not changed by cleaning. -/
theorem cleanEdge_eq_self {t : Text} (h : IsEdgeClean t) (hentity : ¬ HasEntity t) :
    cleanEdge t = t := by
  have hmap : t.map unbar = t := by
    refine map_eq_self_iff.2 fun c hc => ?_
    have hbar : c ≠ '|' := fun heq => h.noBar (heq ▸ hc)
    rw [unbar, if_neg hbar]
  -- Each step of the cleaning has nothing to do.
  have hloose : looseEdge t = t := by
    rw [looseEdge, scrub_eq_self h.allowed h.spaced fun _ => hentity, hmap,
      squeezeDashes_eq_self h.singleDashes, collapse_of_isSpaced h.spaced]
  rw [cleanEdge_eq, hloose, List.take_of_length_le h.short, dropWhile_eq_self h.head,
    dropEndWhile_eq_self h.last]

/-- An entity is the one thing that cleaning still changes in a clean edge
    label. -/
theorem cleanEdge_eq_self_iff {t : Text} (h : IsEdgeClean t) :
    cleanEdge t = t ↔ ¬ HasEntity t := by
  refine ⟨fun heq => ?_, cleanEdge_eq_self h⟩
  rw [← heq]
  exact not_hasEntity_cleanEdge h.isPrintable fun c hc =>
    LabelRules.not_isAngle_of_allows rfl (h.allowed c hc)

end Label

end Flowchart
