import Flowchart.Identifier
import Flowchart.Text.Blank

/-!
# Characters

How the character classes of the format lie to one another. All of them but the
blanks are ASCII, and ASCII is small enough for each of these facts to be
checked on every character of it, which `forall_ascii` does.

Folding makes a text printable, and it leaves a printable text as it is.

## Theorems

* `forall_ascii`: A fact about all of ASCII, checked on each character.
* `eq_space_of_isBlank`: The space is the only printable blank.
* `isPrintable_of_isWordChar`, `not_isBlank_of_isWordChar`: Characters of words
  are printable and no blanks.
* `Text.isPrintable_of_mem_fold`: Folding makes a text printable.
* `Text.fold_of_isPrintable`: A printable text is its own folding.
-/

namespace Flowchart

/-- A fact about all ASCII characters follows from each of them. -/
theorem forall_ascii {P : Char → Prop} (h : ∀ n, n < 128 → P (Char.ofNat n)) {c : Char}
    (hc : isAsciiChar c = true) : P c := by
  have := h c.toNat (by simpa [isAsciiChar] using hc)
  rwa [Char.ofNat_toNat] at this

theorem isAsciiChar_of_isPrintable {c : Char} (h : isPrintable c = true) :
    isAsciiChar c = true := by
  rw [isPrintable, Bool.and_eq_true, decide_eq_true_eq, decide_eq_true_eq, Char.le_def, Char.le_def,
    UInt32.le_iff_toNat_le, UInt32.le_iff_toNat_le] at h
  have htilde : '~'.val.toNat = 126 := rfl
  rw [isAsciiChar, decide_eq_true_eq]
  exact Nat.lt_of_le_of_lt (htilde ▸ h.2) (by omega)

theorem isAsciiChar_of_isWordChar {c : Char} (h : isWordChar c = true) : isAsciiChar c = true := by
  rw [isAsciiChar, decide_eq_true_eq]
  unfold isWordChar Char.isAlphanum Char.isAlpha Char.isUpper Char.isLower Char.isDigit at h
  simp only [Bool.or_eq_true, Bool.and_eq_true, decide_eq_true_eq, beq_iff_eq,
    UInt32.le_iff_toNat_le, ge_iff_le] at h
  have hval : c.val.toNat = c.toNat := rfl
  have hZ : 'Z'.val.toNat = 90 := rfl
  have hz : 'z'.val.toNat = 122 := rfl
  have h9 : '9'.val.toNat = 57 := rfl
  -- A capital letter, a small one, a digit or an underscore.
  rcases h with ((h | h) | h) | rfl
  · omega
  · omega
  · omega
  · decide

/-- The space is the only printable blank. -/
theorem eq_space_of_isBlank {c : Char} (hp : isPrintable c = true) (hb : isBlank c = true) :
    c = ' ' :=
  forall_ascii (P := fun c => isPrintable c = true → isBlank c = true → c = ' ')
    (by decide +kernel) (isAsciiChar_of_isPrintable hp) hp hb

theorem isPrintable_of_isWordChar {c : Char} (h : isWordChar c = true) : isPrintable c = true :=
  forall_ascii (P := fun c => isWordChar c = true → isPrintable c = true) (by decide +kernel)
    (isAsciiChar_of_isWordChar h) h

theorem not_isBlank_of_isWordChar {c : Char} (h : isWordChar c = true) : isBlank c = false :=
  forall_ascii (P := fun c => isWordChar c = true → isBlank c = false) (by decide +kernel)
    (isAsciiChar_of_isWordChar h) h

theorem not_isAsciiBlank_of_isWordChar {c : Char} (h : isWordChar c = true) :
    isAsciiBlank c = false :=
  forall_ascii (P := fun c => isWordChar c = true → isAsciiBlank c = false) (by decide +kernel)
    (isAsciiChar_of_isWordChar h) h

theorem isWordChar_of_isStart {c : Char} (h : Identifier.isStart c = true) :
    isWordChar c = true := by
  simp only [Identifier.isStart, isWordChar, Char.isAlphanum, Bool.or_eq_true] at h ⊢
  rcases h with h | h
  · exact Or.inl (Or.inl h)
  · exact Or.inr h

/-- A number is written in characters of words. -/
theorem isWordChar_of_mem_ofNat {n : Nat} {c : Char} (h : c ∈ Text.ofNat n) :
    isWordChar c = true := by
  have hdigit : c.isDigit = true := Nat.isDigit_of_mem_toDigits (by decide) (by decide) h
  rw [isWordChar, Char.isAlphanum, hdigit, Bool.or_true, Bool.true_or]

namespace Text

/-! ### Folding -/

/-- A choice between stand-ins is printable if both of them are. -/
theorem all_isPrintable_ite {p : Prop} [Decidable p] {a b : Option String}
    (ha : a.all (·.toList.all isPrintable) = true) (hb : b.all (·.toList.all isPrintable) = true) :
    (if p then a else b).all (·.toList.all isPrintable) = true := by
  split
  · exact ha
  · exact hb

/-- Every stand-in is printable, whichever of the choices is taken. -/
theorem all_isPrintable_foldChar? (c : Char) :
    (foldChar? c).all (·.toList.all isPrintable) = true := by
  unfold foldChar? foldChar?.letter?
  simp only
  repeat' apply all_isPrintable_ite
  all_goals decide

/-- Folding makes every character printable or drops it. -/
theorem isPrintable_of_mem_fold {t : Text} {c : Char} (h : c ∈ fold t) : isPrintable c = true := by
  rcases List.mem_flatMap.1 h with ⟨d, -, hc⟩
  unfold foldOne at hc
  split at hc
  · rename_i hd
    rw [List.mem_singleton.1 hc]
    exact hd
  · split at hc
    · rw [List.mem_singleton.1 hc]
      decide
    · split at hc
      · exact absurd hc List.not_mem_nil
      · rcases hf : foldChar? d with _ | s
        · rw [hf] at hc
          exact absurd hc List.not_mem_nil
        · -- Everything in the table is printable.
          have hs := all_isPrintable_foldChar? d
          rw [hf] at hc hs
          exact List.all_eq_true.1 hs c hc

/-- A printable text is its own folding. -/
theorem fold_of_isPrintable {t : Text} (h : ∀ c ∈ t, isPrintable c = true) : fold t = t := by
  induction t with
  | nil => rfl
  | cons c t ih =>
    rw [fold, List.flatMap_cons, foldOne, if_pos (h c List.mem_cons_self), List.singleton_append]
    exact congrArg (c :: ·) (ih fun d hd => h d (List.mem_cons_of_mem c hd))

end Text

end Flowchart
