import Flowchart.Json.Decode
import Flowchart.Json.Token
import Flowchart.Proofs.Characters
import Flowchart.Proofs.Pieces

/-!
# Printed Numbers

A printed integer is read back as that integer, provided that it fits a 64-bit
word. Its digits fill the significand from the front, and since no beginning of
a number is larger than the number, the significand never overflows on the way.
No printed integer has a needless zero in front, which the reader would refuse.

For binary numbers there is no such theorem. Reading them is quick rather than
exact, and may miss the number that was printed by a bit. `Binary64.ReadsBack`
says of a number that this does not happen, and it can be decided.

Either way the tokenizer has to find where a number ends. A text that is a
numeral is made of characters that numbers can be made of, whatever its value.

## Main definitions

* `Binary64.ReadsBack`: A number that is read back as it was printed.

## Theorems

* `Numeral.isNumberChar_of_ofText?`: The characters of a numeral.
* `Numeral.value?_intText`: Printed integers are read back.
-/

namespace Flowchart

open Json

/-! ### Characters -/

namespace Json

theorem isNumberChar_of_isDigit {c : Char} (h : c.isDigit = true) : isNumberChar c = true := by
  rw [isNumberChar, h]
  rfl

theorem not_isAlpha_of_isDigit {c : Char} (h : c.isDigit = true) : c.isAlpha = false := by
  have hword : isWordChar c = true := by
    rw [isWordChar, Char.isAlphanum, h, Bool.or_true, Bool.true_or]
  exact forall_ascii (P := fun c => c.isDigit = true → c.isAlpha = false) (by decide +kernel)
    (isAsciiChar_of_isWordChar hword) h

/-- Digits in front do no harm. -/
theorem forall_isNumberChar_of_dropWhile {t : Text}
    (h : ∀ c ∈ t.dropWhile Char.isDigit, isNumberChar c = true) : ∀ c ∈ t, isNumberChar c = true := by
  intro c hc
  rw [← List.takeWhile_append_dropWhile (p := Char.isDigit) (l := t), List.mem_append] at hc
  rcases hc with hc | hc
  · exact isNumberChar_of_isDigit (List.mem_takeWhile_imp hc)
  · exact h c hc

end Json

namespace Numeral

/-- The exponent that a text is, if it is one or empty. -/
def exponentOf? (t : Text) : Option (Option (Bool × Text)) :=
  match t with
  | [] => some none
  | c :: r =>
    if c = 'e' || c = 'E' then
      let (lowers, r) := match r with
        | '-' :: r => (true, r)
        | '+' :: r => (false, r)
        | r => (false, r)
      if !r.isEmpty && r.all Char.isDigit then some (some (lowers, r)) else none
    else none

theorem isNumberChar_of_exponentOf? {t : Text} {x : Option (Bool × Text)}
    (h : exponentOf? t = some x) : ∀ c ∈ t, isNumberChar c = true := by
  have hdigits : ∀ {r : Text}, (!r.isEmpty && r.all Char.isDigit) = true →
      ∀ c ∈ r, isNumberChar c = true := by
    intro r hr c hc
    rw [Bool.and_eq_true, List.all_eq_true] at hr
    exact isNumberChar_of_isDigit (hr.2 c hc)
  unfold exponentOf? at h
  split at h
  · exact fun c hc => absurd hc List.not_mem_nil
  · rename_i e r
    by_cases he : (e = 'e' || e = 'E') = true
    · rw [if_pos he] at h
      have hfirst : isNumberChar e = true := by
        rw [Bool.or_eq_true, decide_eq_true_eq, decide_eq_true_eq] at he
        rcases he with rfl | rfl <;> rfl
      refine List.forall_mem_cons.2 ⟨hfirst, ?_⟩
      -- A sign may stand before the digits.
      split at h
      rename_i lowers digits hsign
      by_cases hall : (!digits.isEmpty && digits.all Char.isDigit) = true
      · have hrest := hdigits hall
        split at hsign
        · rw [Prod.mk.injEq] at hsign
          rw [hsign.2]
          exact List.forall_mem_cons.2 ⟨rfl, hrest⟩
        · rw [Prod.mk.injEq] at hsign
          rw [hsign.2]
          exact List.forall_mem_cons.2 ⟨rfl, hrest⟩
        · rw [Prod.mk.injEq] at hsign
          rw [hsign.2]
          exact hrest
      · rw [if_neg hall] at h
        exact absurd h (by simp only [reduceCtorEq, not_false_eq_true])
    · rw [if_neg he] at h
      exact absurd h (by simp only [reduceCtorEq, not_false_eq_true])

/-- A numeral is made of characters of numbers, and it does not start with a
    letter. -/
theorem isNumberChar_of_ofText? {t : Text} {n : Numeral} (h : ofText? t = some n) :
    (∀ c ∈ t, isNumberChar c = true) ∧ ∃ c r, t = c :: r ∧ c.isAlpha = false := by
  unfold ofText? at h
  split at h
  rename_i negative body hsign
  dsimp only at h
  by_cases hwhole : ((body.takeWhile Char.isDigit).isEmpty ||
      (decide ((body.takeWhile Char.isDigit).head? = some '0') &&
        decide (1 < (body.takeWhile Char.isDigit).length))) = true
  · rw [if_pos hwhole] at h
    exact absurd h (by simp only [reduceCtorEq, not_false_eq_true])
  rw [if_neg hwhole] at h
  have hbody : ∀ c ∈ body, isNumberChar c = true := by
    refine forall_isNumberChar_of_dropWhile ?_
    -- What follows a point is more digits. The exponent comes last.
    split at h
    · rename_i r hpoint
      dsimp only at h
      split at h
      · exact absurd h (by simp only [reduceCtorEq, not_false_eq_true])
      · rcases Option.map_eq_some_iff.1 h with ⟨x, hx, -⟩
        have hexponent : exponentOf? (r.dropWhile Char.isDigit) = some x := hx
        rw [hpoint]
        refine List.forall_mem_cons.2 ⟨rfl, forall_isNumberChar_of_dropWhile ?_⟩
        exact isNumberChar_of_exponentOf? hexponent
    · dsimp only at h
      split at h
      · exact absurd h (by simp only [reduceCtorEq, not_false_eq_true])
      · rcases Option.map_eq_some_iff.1 h with ⟨x, hx, -⟩
        have hexponent : exponentOf? (body.dropWhile Char.isDigit) = some x := hx
        exact isNumberChar_of_exponentOf? hexponent
  have hdigit : ∃ c r, body = c :: r ∧ c.isDigit = true := by
    rcases body with _ | ⟨c, r⟩
    · exact absurd rfl hwhole
    · refine ⟨c, r, rfl, ?_⟩
      by_contra hc
      rw [List.takeWhile_cons_of_neg hc] at hwhole
      exact hwhole rfl
  split at hsign
  · rw [Prod.mk.injEq] at hsign
    rw [hsign.2]
    exact ⟨List.forall_mem_cons.2 ⟨rfl, hbody⟩, '-', body, rfl, rfl⟩
  · rw [Prod.mk.injEq] at hsign
    rw [hsign.2]
    rcases hdigit with ⟨c, r, hc, hcdigit⟩
    exact ⟨hbody, c, r, hc, not_isAlpha_of_isDigit hcdigit⟩

/-! ### Integers -/

/-- The number that digits write, read on from a number that stands before
    them. -/
theorem foldl_addWhole {ds : Text} {m : Nat}
    (h : Nat.ofDigitChars 10 ds m < wordLimit) :
    ds.foldl Scaled.addWhole ⟨m, 0, false⟩ = ⟨Nat.ofDigitChars 10 ds m, 0, false⟩ := by
  induction ds generalizing m with
  | nil => rfl
  | cons c ds ih =>
    rw [Nat.ofDigitChars_cons] at h ⊢
    -- A beginning of a number is no larger than the number.
    have hfirst : m * 10 + digit c < wordLimit := by
      rw [Nat.ofDigitChars_eq_ofDigitChars_zero] at h
      have hle := Nat.le_mul_of_pos_left (10 * m + (c.toNat - '0'.toNat))
        (Nat.pow_pos (n := ds.length) (show 0 < 10 by decide))
      rw [digit]
      omega
    have hstep : Scaled.addWhole ⟨m, 0, false⟩ c = ⟨10 * m + (c.toNat - '0'.toNat), 0, false⟩ := by
      rw [Scaled.addWhole, if_neg (by simp only [Bool.false_or, decide_eq_true_eq]; omega), digit,
        Nat.mul_comm m 10]
    rw [List.foldl_cons, hstep]
    exact ih h

/-- No printed number but zero starts with a zero. -/
theorem head?_ofNat {n : Nat} (hn : n ≠ 0) : (Text.ofNat n).head? ≠ some '0' := by
  induction n using Nat.strong_induction_on with
  | _ n ih =>
    unfold Text.ofNat
    rw [Nat.toDigits_eq_if (by decide)]
    by_cases hsmall : n < 10
    · rw [if_pos hsmall]
      have hchar : ∀ m < 10, m ≠ 0 → Nat.digitChar m ≠ '0' := by decide
      exact fun hzero => hchar n hsmall hn (Option.some.inj hzero)
    · -- The first digit is that of a tenth of the number.
      rw [if_neg hsmall, List.head?_append_of_ne_nil _ Nat.toDigits_ne_nil]
      exact ih (n / 10) (by omega) (by omega)

theorem whole_ofNat (n : Nat) :
    ((Text.ofNat n).isEmpty ||
      (decide ((Text.ofNat n).head? = some '0') && decide (1 < (Text.ofNat n).length))) = false := by
  have hne : Text.ofNat n ≠ [] := Nat.toDigits_ne_nil
  have hempty : (Text.ofNat n).isEmpty = false := List.isEmpty_eq_false_iff.2 hne
  rw [hempty, Bool.false_or]
  by_cases hn : n = 0
  · rw [hn]
    rfl
  · rw [decide_eq_false (head?_ofNat hn), Bool.false_and]

/-- The digits of a number, with or without a sign, are a numeral. -/
theorem ofText?_ofNat (negative : Bool) (n : Nat) :
    ofText? ((if negative then ['-'] else []) ++ Text.ofNat n)
      = some ⟨negative, Text.ofNat n, none, none⟩ := by
  have hdigits : ∀ c ∈ Text.ofNat n, c.isDigit = true := fun c hc =>
    Nat.isDigit_of_mem_toDigits (by decide) (by decide) hc
  -- The whole text is taken as digits, which leaves no fraction and no exponent.
  have htake : (Text.ofNat n).takeWhile Char.isDigit = Text.ofNat n :=
    List.takeWhile_eq_self_iff.2 hdigits
  have hdrop : (Text.ofNat n).dropWhile Char.isDigit = [] := List.dropWhile_eq_nil_iff.2 hdigits
  unfold ofText?
  split
  rename_i negative' body hsign
  have hbody : negative' = negative ∧ body = Text.ofNat n := by
    cases negative with
    | true =>
      rw [if_pos rfl, List.singleton_append] at hsign
      exact ⟨(Prod.mk.inj hsign).1.symm, (Prod.mk.inj hsign).2.symm⟩
    | false =>
      rw [if_neg (by decide), List.nil_append] at hsign
      split at hsign
      · -- No digit is a dash.
        rename_i r hr
        have hdash := hdigits '-' (by rw [hr]; exact List.mem_cons_self)
        exact absurd hdash (by decide)
      · exact ⟨(Prod.mk.inj hsign).1.symm, (Prod.mk.inj hsign).2.symm⟩
  rw [hbody.1, hbody.2]
  dsimp only
  rw [htake, hdrop, whole_ofNat]
  rfl

/-- The value of digits is the number they write, if it fits a word. -/
theorem value?_intText {i : Int} (h : fitsWord i = true) :
    (ofText? (intText i)).bind value? = some (.int i) := by
  rw [fitsWord, Bool.and_eq_true, decide_eq_true_eq, decide_eq_true_eq] at h
  have hsigned : signedLimit < wordLimit := by decide
  have hfits : i.natAbs < wordLimit := by omega
  have hwhole : ∀ negative, scaledWhole ⟨negative, Text.ofNat i.natAbs, none, none⟩
      = ⟨i.natAbs, 0, false⟩ := by
    intro negative
    have hvalue : Nat.ofDigitChars 10 (Text.ofNat i.natAbs) 0 = i.natAbs :=
      Nat.ofDigitChars_ten_toDigits
    have hfold : (Text.ofNat i.natAbs).foldl Scaled.addWhole ⟨0, 0, false⟩
        = ⟨Nat.ofDigitChars 10 (Text.ofNat i.natAbs) 0, 0, false⟩ :=
      foldl_addWhole (by rw [hvalue]; exact hfits)
    rw [hvalue] at hfold
    exact hfold
  have htext : intText i = (if decide (i < 0) then ['-'] else []) ++ Text.ofNat i.natAbs := by
    rw [intText]
    simp only [decide_eq_true_eq]
  rw [htext, ofText?_ofNat, Option.bind_some]
  have hscaled : ∀ negative, scaled ⟨negative, Text.ofNat i.natAbs, none, none⟩
      = ⟨i.natAbs, 0, false⟩ := by
    intro negative
    rw [scaled, hwhole]
    rfl
  unfold value?
  simp only [hwhole, hscaled]
  -- A negative number is an integer down to the least word with a sign.
  by_cases hneg : i < 0
  · have hroom : (decide (i.natAbs = 0) || decide (signedLimit < i.natAbs)) = false := by
      rw [Bool.or_eq_false_iff, decide_eq_false_iff_not, decide_eq_false_iff_not]
      omega
    have hvalue : -(i.natAbs : Int) = i := by omega
    rw [decide_eq_true hneg, hroom, hvalue]
    rfl
  · have hvalue : (i.natAbs : Int) = i := by omega
    rw [decide_eq_false hneg, hvalue]
    rfl

end Numeral

/-- The number is read back as it was printed. -/
def Binary64.ReadsBack (x : Binary64) : Prop :=
  (Numeral.ofText? x.text).bind Numeral.value? = some (.float x)

instance (x : Binary64) : Decidable x.ReadsBack :=
  inferInstanceAs (Decidable ((Numeral.ofText? x.text).bind Numeral.value? = some (.float x)))

/-- The largest signed word is, and so is a number that takes all its digits. -/
example : (Binary64.ofFraction false 1 3).ReadsBack ∧ (Binary64.ofInt (-3)).ReadsBack := by
  decide +kernel

end Flowchart
