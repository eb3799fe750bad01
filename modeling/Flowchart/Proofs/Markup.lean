import Flowchart.Label.Markup
import Mathlib.Data.List.Basic
import Mathlib.Data.List.TakeWhile

/-!
# What Stripping Leaves

Passes are repeated until one of them finds nothing, and what is left then is
the text without its angle brackets. This module says what can and what cannot
be left.

A pass either changes nothing or shortens the text, so the repetition ends in a
text that a pass does not change. Such a text holds no entity. In a text that
has no angle bracket to begin with, nothing is dropped afterwards, and
stripping leaves it free of entities.

Dropping the angle brackets comes last, though, and it brings characters
together. What stood around a stray bracket may be an entity once the bracket
is gone, as `&am<p;` is, and no further pass looks at it. So a stripped text may
hold an entity, and `strip_eq_self_iff` says that this is the one thing that a
second stripping still finds.

## Main definitions

* `Markup.HasEntity`: An entity stands somewhere in the text.

## Theorems

* `Markup.pass_eq_or_shorter`: A pass changes nothing or shortens the text.
* `Markup.pass_settle`: Passes are repeated until nothing changes.
* `Markup.mem_strip`: Stripping brings in nothing but spaces.
* `Markup.not_hasEntity_of_pass`: What a pass does not change has no entity.
* `Markup.strip_eq_self_iff`: Stripping changes exactly the texts with an
  entity, among those without angle brackets.
* `Markup.not_hasEntity_strip`: Without angle brackets, no entity is left.
-/

namespace Flowchart

namespace Markup

/-- An entity stands somewhere in the text: an ampersand, a body that names or
    numbers a character, and a semicolon. -/
def HasEntity (t : Text) : Prop :=
  ∃ body, isEntityBody body = true ∧ '&' :: body ++ [';'] <:+: t

theorem HasEntity.of_isInfix {s t : Text} (h : HasEntity s) (hin : s <:+: t) : HasEntity t := by
  rcases h with ⟨body, hbody, hs⟩
  exact ⟨body, hbody, hs.trans hin⟩

/-! ### The body of an entity -/

/-- A character that can stand between the ampersand and the semicolon. -/
def isBodyChar (c : Char) : Bool := c == '#' || c.isAlphanum

theorem isBodyChar_of_isHexDigit {c : Char} (h : isHexDigit c = true) : isBodyChar c = true := by
  unfold isHexDigit at h
  unfold isBodyChar Char.isAlphanum Char.isAlpha Char.isUpper Char.isLower
  simp only [Bool.or_eq_true, Bool.and_eq_true, decide_eq_true_eq] at h ⊢
  rcases h with (h | h) | h
  · exact Or.inr (Or.inr h)
  · exact Or.inr (Or.inl (Or.inr ⟨h.1, Char.le_trans h.2 (by decide)⟩))
  · exact Or.inr (Or.inl (Or.inl ⟨h.1, Char.le_trans h.2 (by decide)⟩))

theorem isBodyChar_of_isAlphanum {c : Char} (h : c.isAlphanum = true) : isBodyChar c = true := by
  rw [isBodyChar, h, Bool.or_true]

theorem isBodyChar_of_isDigit {c : Char} (h : c.isDigit = true) : isBodyChar c = true :=
  isBodyChar_of_isAlphanum (by rw [Char.isAlphanum, h, Bool.or_true])

theorem of_isRun {p : Char → Bool} {t : Text} (h : isRun p t = true) : ∀ c ∈ t, p c = true := by
  rw [isRun, Bool.and_eq_true, List.all_eq_true] at h
  exact h.2

/-- A body consists of letters, digits and number signs. -/
theorem isBodyChar_of_mem {body : Text} (h : isEntityBody body = true) :
    ∀ c ∈ body, isBodyChar c = true := by
  unfold isEntityBody at h
  split at h
  -- Hexadecimal with a small or a capital letter, decimal, and by name.
  · intro c hc
    rcases List.mem_cons.1 hc with rfl | hc
    · decide
    · rcases List.mem_cons.1 hc with rfl | hc
      · decide
      · exact isBodyChar_of_isHexDigit (of_isRun h c hc)
  · intro c hc
    rcases List.mem_cons.1 hc with rfl | hc
    · decide
    · rcases List.mem_cons.1 hc with rfl | hc
      · decide
      · exact isBodyChar_of_isHexDigit (of_isRun h c hc)
  · intro c hc
    rcases List.mem_cons.1 hc with rfl | hc
    · decide
    · exact isBodyChar_of_isDigit (of_isRun h c hc)
  · exact fun c hc => isBodyChar_of_isAlphanum (of_isRun h c hc)

/-- A character of an entity, its two delimiters included. -/
def isEntityChar (c : Char) : Bool := c == '&' || c == ';' || isBodyChar c

theorem isEntityChar_of_mem {body : Text} (h : isEntityBody body = true) :
    ∀ c ∈ '&' :: body ++ [';'], isEntityChar c = true := by
  intro c hc
  rw [List.cons_append, List.mem_cons, List.mem_append, List.mem_singleton] at hc
  rcases hc with rfl | hc | rfl
  · decide
  · rw [isEntityChar, isBodyChar_of_mem h c hc, Bool.or_true]
  · decide

/-- What follows an entity is found behind its semicolon. -/
theorem afterEntity?_append {body : Text} (h : isEntityBody body = true) (rest : Text) :
    afterEntity? (body ++ ';' :: rest) = some rest := by
  -- The body holds no semicolon, so the first one is the one behind it.
  have hne : ∀ c ∈ body, (c != ';') = true := by
    intro c hc
    rw [bne_iff_ne]
    rintro rfl
    exact absurd (isBodyChar_of_mem h ';' hc) (by decide)
  have htake : (body ++ ';' :: rest).takeWhile (· != ';') = body := by
    rw [List.takeWhile_append_of_pos hne, List.takeWhile_cons_of_neg (by decide), List.append_nil]
  have hdrop : (body ++ ';' :: rest).dropWhile (· != ';') = ';' :: rest := by
    rw [List.dropWhile_append_of_pos hne, List.dropWhile_cons_of_neg (by decide)]
  simp only [afterEntity?, hdrop, htake, h, if_true]

/-- Something follows an ampersand's entity only if there is an entity. -/
theorem eq_of_afterEntity? {t rest : Text} (h : afterEntity? t = some rest) :
    ∃ body, isEntityBody body = true ∧ t = body ++ ';' :: rest := by
  unfold afterEntity? at h
  have hsplit : t.takeWhile (· != ';') ++ t.dropWhile (· != ';') = t :=
    List.takeWhile_append_dropWhile
  split at h
  · rename_i r heq
    split at h
    · rename_i hbody
      simp only [Option.some.injEq] at h
      rw [heq, h] at hsplit
      exact ⟨_, hbody, hsplit.symm⟩
    · exact absurd h (by simp only [reduceCtorEq, not_false_eq_true])
  · exact absurd h (by simp only [reduceCtorEq, not_false_eq_true])

/-- What follows a piece of markup is the end of the text. -/
theorem after?_isSuffix {c : Char} {t rest : Text} (h : after? c t = some rest) : rest <:+ t := by
  unfold after? at h
  split at h
  · unfold afterTag? at h
    split at h
    · rename_i r heq
      rw [Option.some.injEq] at h
      rw [← h]
      exact (List.suffix_cons '>' r).trans (heq ▸ List.dropWhile_suffix (!isAngle ·))
    · exact absurd h (by simp only [reduceCtorEq, not_false_eq_true])
  · split at h
    · rcases eq_of_afterEntity? h with ⟨body, _, rfl⟩
      exact (List.suffix_cons ';' rest).trans (List.suffix_append body (';' :: rest))
    · exact absurd h (by simp only [reduceCtorEq, not_false_eq_true])

/-! ### Passes -/

theorem pass_nil : pass [] = [] := by rw [pass]

theorem pass_cons_of_some {c : Char} {r rest : Text} (h : after? c r = some rest) :
    pass (c :: r) = ' ' :: pass rest := by
  rw [pass]
  split
  · rename_i rest' h'
    rw [h, Option.some.injEq] at h'
    rw [h']
  · rename_i h'
    rw [h] at h'
    exact absurd h' (by simp only [reduceCtorEq, not_false_eq_true])

theorem pass_cons_of_none {c : Char} {r : Text} (h : after? c r = none) :
    pass (c :: r) = c :: pass r := by
  rw [pass]
  split
  · rename_i rest' h'
    rw [h] at h'
    exact absurd h' (by simp only [reduceCtorEq, not_false_eq_true])
  · rfl

theorem length_pass_le (t : Text) : (pass t).length ≤ t.length := by
  -- On the length, since a pass goes on behind the markup that it has found.
  induction hn : t.length using Nat.strong_induction_on generalizing t with
  | _ n ih =>
    rcases t with _ | ⟨c, r⟩
    · rw [pass_nil]
      exact Nat.zero_le n
    · rw [List.length_cons] at hn
      rcases ha : after? c r with _ | rest
      · rw [pass_cons_of_none ha, List.length_cons]
        have := ih r.length (by omega) r rfl
        omega
      · rw [pass_cons_of_some ha, List.length_cons]
        have hlt := after?_shorter ha
        have := ih rest.length (by omega) rest rfl
        omega

/-- A pass that finds something shortens the text, since no piece of markup is
    as short as the blank that takes its place. -/
theorem pass_eq_or_shorter (t : Text) : pass t = t ∨ (pass t).length < t.length := by
  induction t with
  | nil => exact Or.inl pass_nil
  | cons c r ih =>
    rcases ha : after? c r with _ | rest
    · rw [pass_cons_of_none ha]
      rcases ih with ih | ih
      · exact Or.inl (by rw [ih])
      · exact Or.inr (by simpa only [List.length_cons, Nat.add_lt_add_iff_right] using ih)
    · right
      rw [pass_cons_of_some ha, List.length_cons, List.length_cons]
      -- A piece is replaced by one blank and has at least two characters.
      have := length_pass_le rest
      have := after?_shorter ha
      omega

/-- A pass changes nothing only if no markup begins anywhere. -/
theorem after?_of_pass {t : Text} (h : pass t = t) {c : Char} {r : Text} (hs : c :: r <:+ t) :
    after? c r = none := by
  induction t with
  | nil => exact absurd (List.suffix_nil.1 hs) (List.cons_ne_nil c r)
  | cons d u ih =>
    rcases ha : after? d u with _ | rest
    · rw [pass_cons_of_none ha, List.cons.injEq] at h
      rcases List.suffix_cons_iff.1 hs with heq | hs
      · rw [List.cons.injEq] at heq
        rw [heq.1, heq.2, ha]
      · exact ih h.2 hs
    · -- A piece of markup would have made the text shorter.
      exfalso
      have hlt := congrArg List.length h
      rw [pass_cons_of_some ha, List.length_cons, List.length_cons] at hlt
      have := length_pass_le rest
      have := after?_shorter ha
      omega

/-- Where no markup begins, a pass changes nothing. -/
theorem pass_of_after? {t : Text} (h : ∀ c r, c :: r <:+ t → after? c r = none) : pass t = t := by
  induction t with
  | nil => exact pass_nil
  | cons d u ih =>
    rw [pass_cons_of_none (h d u List.suffix_rfl),
      ih fun c r hs => h c r (hs.trans (List.suffix_cons d u))]

/-- Passes are repeated until one of them changes nothing. -/
theorem pass_settle (t : Text) : pass (settle t) = settle t := by
  -- On the length, as the repetition itself.
  induction hn : t.length using Nat.strong_induction_on generalizing t with
  | _ n ih =>
    rw [settle]
    by_cases hlt : (pass t).length < t.length
    · simp only [if_pos hlt]
      exact ih (pass t).length (by omega) (pass t) rfl
    · simp only [if_neg hlt]
      rcases pass_eq_or_shorter t with h | h
      · rw [h, h]
      · exact absurd h hlt

theorem settle_of_pass {t : Text} (h : pass t = t) : settle t = t := by
  rw [settle]
  simp only [h, lt_irrefl, if_false]

/-! ### What is left -/

/-- A pass brings in nothing but spaces. -/
theorem mem_pass {t : Text} {c : Char} (h : c ∈ pass t) : c = ' ' ∨ c ∈ t := by
  -- A pass goes on behind a piece of markup, so the induction is on the length.
  induction hn : t.length using Nat.strong_induction_on generalizing t with
  | _ n ih =>
    rcases t with _ | ⟨d, r⟩
    · rw [pass_nil] at h
      exact Or.inr h
    · rw [List.length_cons] at hn
      rcases ha : after? d r with _ | rest
      · rw [pass_cons_of_none ha] at h
        rcases List.mem_cons.1 h with rfl | h
        · exact Or.inr List.mem_cons_self
        · rcases ih r.length (by omega) h rfl with h | h
          · exact Or.inl h
          · exact Or.inr (List.mem_cons_of_mem d h)
      · rw [pass_cons_of_some ha] at h
        rcases List.mem_cons.1 h with rfl | h
        · exact Or.inl rfl
        · have hlt := after?_shorter ha
          rcases ih rest.length (by omega) h rfl with h | h
          · exact Or.inl h
          · exact Or.inr (List.mem_cons_of_mem d ((after?_isSuffix ha).mem h))

theorem mem_settle {t : Text} {c : Char} (h : c ∈ settle t) : c = ' ' ∨ c ∈ t := by
  induction hn : t.length using Nat.strong_induction_on generalizing t with
  | _ n ih =>
    rw [settle] at h
    by_cases hlt : (pass t).length < t.length
    · simp only [if_pos hlt] at h
      rcases ih (pass t).length (by omega) h rfl with h | h
      · exact Or.inl h
      · exact mem_pass h
    · simp only [if_neg hlt] at h
      exact mem_pass h

/-- Stripping leaves no angle bracket and brings in nothing but spaces. -/
theorem mem_strip {t : Text} {c : Char} (h : c ∈ strip t) :
    isAngle c = false ∧ (c = ' ' ∨ c ∈ t) := by
  rw [strip, List.mem_filter] at h
  exact ⟨by simpa using h.2, mem_settle h.1⟩

/-- What a pass does not change has no entity. -/
theorem not_hasEntity_of_pass {t : Text} (h : pass t = t) : ¬ HasEntity t := by
  rintro ⟨body, hbody, u, v, rfl⟩
  have hs : '&' :: (body ++ ';' :: v) <:+ u ++ ('&' :: body ++ [';']) ++ v := by
    refine ⟨u, ?_⟩
    simp only [List.append_assoc, List.cons_append, List.nil_append]
  have hnone := after?_of_pass h hs
  rw [after?, if_neg (by decide), if_pos rfl, afterEntity?_append hbody] at hnone
  exact absurd hnone (by simp only [reduceCtorEq, not_false_eq_true])

/-- Without angle brackets, entities are all the markup there is. -/
theorem pass_of_not_hasEntity {t : Text} (hangle : ∀ c ∈ t, isAngle c = false)
    (h : ¬ HasEntity t) : pass t = t := by
  refine pass_of_after? fun c r hs => ?_
  -- What begins here is no tag, and if it were an entity, the text would hold it.
  have hc : c ≠ '<' := by
    rintro rfl
    exact absurd (hangle '<' (hs.mem List.mem_cons_self)) (by decide)
  rw [after?, if_neg hc]
  by_cases hamp : c = '&'
  · rw [if_pos hamp]
    subst hamp
    by_contra hne
    rcases Option.ne_none_iff_exists'.1 hne with ⟨rest, hrest⟩
    rcases eq_of_afterEntity? hrest with ⟨body, hbody, rfl⟩
    refine h ⟨body, hbody, List.IsInfix.trans ⟨[], rest, ?_⟩ hs.isInfix⟩
    simp only [List.nil_append, List.cons_append, List.append_assoc]
  · rw [if_neg hamp]

/-- Stripping drops nothing more where there is no angle bracket. -/
theorem strip_eq_settle {t : Text} (hangle : ∀ c ∈ t, isAngle c = false) : strip t = settle t := by
  rw [strip, List.filter_eq_self]
  intro c hc
  rcases mem_settle hc with rfl | hc
  · decide
  · rw [hangle c hc, Bool.not_false]

/-- Without angle brackets, stripping leaves no entity. -/
theorem not_hasEntity_strip {t : Text} (hangle : ∀ c ∈ t, isAngle c = false) :
    ¬ HasEntity (strip t) := by
  rw [strip_eq_settle hangle]
  exact not_hasEntity_of_pass (pass_settle t)

/-- Among texts without angle brackets, stripping changes exactly those with an
    entity. -/
theorem strip_eq_self_iff {t : Text} (hangle : ∀ c ∈ t, isAngle c = false) :
    strip t = t ↔ ¬ HasEntity t := by
  constructor
  · intro h
    rw [← h]
    exact not_hasEntity_strip hangle
  · intro h
    rw [strip_eq_settle hangle, settle_of_pass (pass_of_not_hasEntity hangle h)]

/-- The bracket hides the entity from every pass and is dropped after them. -/
example : strip "&am<p;".toList = "&amp;".toList := by decide +kernel

end Markup

end Flowchart
