import Flowchart.Proofs.Identifier
import Mathlib.Computability.Language

/-!
# The Pattern of Identifiers

Names as the language of diagrams describes them, without the tests that make them.

An identifier is a word of the pattern `[A-Za-z_][A-Za-z0-9_]*`. The pattern is taken
as a language: one character of the first class, and then one of the second any number
of times. So it says nothing of how a text is looked through.

A keyword cannot name a node in any letter case. That speaks of all the ways to write
the keyword, each letter small or capital. The program does not go through them. It
makes the letters of both texts small and compares, and that comes to the same because
a keyword consists of letters.

What is made of a text is a word of the pattern that begins with no underscore and is a
keyword in no letter case, and the texts of which nothing else is made are the same
ones. Either half alone would be true of a function that is of no use, one that makes
the same name of every text, or one that leaves every text alone.

## Main definitions

* `Identifier.pattern`: The words that have the form of an identifier.
* `Identifier.IsCaseOf`: A word in some letter case.
* `Identifier.IsNodeName`: What a node can be named.

## Theorems

* `Identifier.isLegal_iff_mem_pattern`: Legal identifiers are the words of the pattern.
* `Identifier.isReserved_iff_isCaseOf`: Reserved texts are keywords in some letter case.
* `Identifier.isNodeName_ofText`: What is made of texts, and what is left alone.
-/

namespace Flowchart

namespace Identifier

/-! ### The pattern -/

/-- A letter or an underscore. -/
def IsFirst (c : Char) : Prop := 'A' ≤ c ∧ c ≤ 'Z' ∨ 'a' ≤ c ∧ c ≤ 'z' ∨ c = '_'

/-- A letter, a digit or an underscore. -/
def IsFurther (c : Char) : Prop := IsFirst c ∨ '0' ≤ c ∧ c ≤ '9'

/-- The words of one character of a class. -/
def oneOf (p : Char → Prop) : Language Char := {w | ∃ c, p c ∧ w = [c]}

/-- The words that have the form of an identifier. -/
def pattern : Language Char := oneOf IsFirst * KStar.kstar (oneOf IsFurther)

theorem isStart_iff {c : Char} : isStart c = true ↔ IsFirst c := by
  unfold isStart Char.isAlpha Char.isUpper Char.isLower IsFirst
  simp only [Bool.or_eq_true, Bool.and_eq_true, decide_eq_true_eq, beq_iff_eq, Char.le_def,
    ge_iff_le, or_assoc]

theorem isWordChar_iff {c : Char} : isWordChar c = true ↔ IsFurther c := by
  rw [IsFurther, ← isStart_iff]
  unfold isWordChar Char.isAlphanum isStart Char.isDigit
  simp only [Bool.or_eq_true, decide_eq_true_eq, beq_iff_eq, Char.le_def, ge_iff_le,
    Bool.and_eq_true]
  exact or_right_comm

/-- Any number of characters of a class. -/
theorem mem_kstar_oneOf {p : Char → Prop} {t : Text} :
    t ∈ KStar.kstar (oneOf p) ↔ ∀ c ∈ t, p c := by
  rw [Language.mem_kstar]
  constructor
  · rintro ⟨ws, rfl, hws⟩ c hc
    rcases List.mem_flatten.1 hc with ⟨w, hw, hcw⟩
    rcases hws w hw with ⟨d, hd, rfl⟩
    exact List.mem_singleton.1 hcw ▸ hd
  · intro h
    -- The text is cut into single characters.
    refine ⟨t.map fun c => [c], ?_, fun w hw => ?_⟩
    · rw [← List.flatMap_def, List.flatMap_singleton']
    · rcases List.mem_map.1 hw with ⟨c, hc, rfl⟩
      exact ⟨c, h c hc, rfl⟩

/-- The words of the pattern are the legal identifiers. -/
theorem isLegal_iff_mem_pattern {t : Text} : isLegal t = true ↔ t ∈ pattern := by
  rw [pattern, Language.mem_mul]
  rcases t with _ | ⟨c, r⟩
  · refine iff_of_false (by decide) ?_
    rintro ⟨front, ⟨c, -, rfl⟩, rest, -, heq⟩
    cases heq
  · rw [isLegal, Bool.and_eq_true, List.all_eq_true, isStart_iff]
    simp only [isWordChar_iff, ← mem_kstar_oneOf]
    -- The first character is a word of its own, and it is the only one that may not be
    -- a digit.
    constructor
    · rintro ⟨hc, hr⟩
      exact ⟨[c], ⟨c, hc, rfl⟩, r, hr, rfl⟩
    · rintro ⟨front, ⟨d, hd, rfl⟩, rest, hrest, heq⟩
      rcases List.cons.inj heq with ⟨rfl, rfl⟩
      exact ⟨hd, hrest⟩

/-! ### Letter case -/

/-- The first text is the second with each letter small or capital. -/
def IsCaseOf (t k : Text) : Prop := List.Forall₂ (fun c d => c = d.toLower ∨ c = d.toUpper) t k

/-- A character is a letter in some case if both have the same small letter. -/
theorem toLower_eq_toLower_iff {c d : Char} (hd : d.isAlpha = true) :
    d.toLower = c.toLower ↔ c = d.toLower ∨ c = d.toUpper := by
  have hword : isWordChar d = true := by
    rw [isWordChar, Char.isAlphanum, hd, Bool.true_or, Bool.true_or]
  have hcases : d.toLower.toLower = d.toLower ∧ d.toUpper.toLower = d.toLower ∧
      d.toLower.toUpper = d.toUpper :=
    forall_ascii (P := fun d => d.isAlpha = true → d.toLower.toLower = d.toLower ∧
        d.toUpper.toLower = d.toLower ∧ d.toLower.toUpper = d.toUpper)
      (by decide +kernel) (isAsciiChar_of_isWordChar hword) hd
  constructor
  · intro h
    -- Only a capital letter is changed by making it small, and then back again.
    by_cases hc : c.isUpper = true
    · have hback : c.toLower.toUpper = c := by
        have hword : isWordChar c = true := by
          unfold isWordChar Char.isAlphanum Char.isAlpha
          rw [hc, Bool.true_or, Bool.true_or, Bool.true_or]
        exact forall_ascii (P := fun c => c.isUpper = true → c.toLower.toUpper = c)
          (by decide +kernel) (isAsciiChar_of_isWordChar hword) hc
      exact Or.inr (by rw [← hback, ← h, hcases.2.2])
    · have hsame : c.toLower = c := by
        unfold Char.isUpper at hc
        rw [decide_eq_true_eq] at hc
        exact dif_neg hc
      exact Or.inl (by rw [h, hsame])
  · rintro (rfl | rfl)
    · exact hcases.1.symm
    · exact hcases.2.1.symm

theorem lowerAscii_eq_iff {t k : Text} (h : ∀ d ∈ k, d.isAlpha = true) :
    Text.lowerAscii k = Text.lowerAscii t ↔ IsCaseOf t k := by
  unfold Text.lowerAscii IsCaseOf
  induction k generalizing t with
  | nil => rw [List.forall₂_nil_right_iff, List.map_nil, eq_comm, List.map_eq_nil_iff]
  | cons d k ih =>
    rcases t with _ | ⟨c, t⟩
    · exact iff_of_false (List.cons_ne_nil _ _) fun hcase => nomatch hcase
    · -- A letter has one other case, so the characters can be compared one by one.
      have hd := h d List.mem_cons_self
      rw [List.map_cons, List.map_cons, List.cons.injEq, List.forall₂_cons,
        toLower_eq_toLower_iff hd, ih fun e he => h e (List.mem_cons_of_mem d he)]

/-- The reserved texts are the keywords in all letter cases. -/
theorem isReserved_iff_isCaseOf {t : Text} :
    isReserved t = true ↔ ∃ k ∈ keywords, IsCaseOf t k.toList := by
  have hletters : ∀ k ∈ keywords, k.toList.all Char.isAlpha = true := by decide
  rw [isReserved, List.any_eq_true]
  refine exists_congr fun k => and_congr_right fun hk => ?_
  rw [decide_eq_true_eq, lowerAscii_eq_iff (List.all_eq_true.1 (hletters k hk))]

/-! ### Names -/

/-- What a node can be named: a word of the pattern that begins with no underscore and
    is no keyword in any letter case. -/
structure IsNodeName (t : Text) : Prop where
  form : t ∈ pattern
  front : ¬ ['_'] <+: t
  free : ∀ k ∈ keywords, ¬ IsCaseOf t k.toList

theorem isName_iff_isNodeName {t : Text} : IsName t ↔ IsNodeName t := by
  have hfront : t.head? ≠ some '_' ↔ ¬ ['_'] <+: t := by
    rw [List.singleton_prefix_iff_head?_eq_some]
  have hfree : isReserved t = false ↔ ∀ k ∈ keywords, ¬ IsCaseOf t k.toList := by
    rw [← Bool.not_eq_true, isReserved_iff_isCaseOf]
    simp only [not_exists, not_and]
  exact ⟨fun h => ⟨isLegal_iff_mem_pattern.1 h.legal, hfront.1 h.front, hfree.1 h.free⟩,
    fun h => ⟨isLegal_iff_mem_pattern.2 h.form, hfree.2 h.free, hfront.2 h.front⟩⟩

/-- A node can be named what is made of any text. What is made of a text is the text
    itself exactly if a node can be named that, so nothing else is made of it again. -/
theorem isNodeName_ofText (t : Text) :
    IsNodeName (ofText t) ∧ (ofText t = t ↔ IsNodeName t) ∧ ofText (ofText t) = ofText t := by
  have hname := isName_ofText t
  exact ⟨isName_iff_isNodeName.1 hname, ofText_eq_self_iff.trans isName_iff_isNodeName,
    ofText_of_isName hname⟩

/-- A digit in front, an underscore, a keyword in capitals, a letter from elsewhere and
    no character at all. -/
example : ["1st", "__a", "END", "\u00e9t\u00e9", ""].map (fun s => ofText s.toList)
    = ["n_1st", "n_a", "n_END", "ete", "n_"].map String.toList := by decide

end Identifier

end Flowchart
