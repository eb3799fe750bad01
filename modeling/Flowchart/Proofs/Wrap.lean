import Flowchart.Proofs.Characters
import Flowchart.Proofs.Pieces
import Flowchart.Text.Wrap

/-!
# Wrapping ASCII

The cut that ends an overfull last line is made at a byte position. Among ASCII
characters every byte position is a character position, so the cut always
succeeds, and a label that is ASCII wraps whatever the width and the number of
lines.

What the lines hold besides characters of the label is known as well: spaces
between words and the three dots. So whatever must not stand in a printed label
only has to be kept out of the label.

## Theorems

* `Text.takeBytes?_eq_take`: Bytes are characters in ASCII.
* `Wrap.exists_shorten?_eq`: What a line is cut to.
* `Wrap.mem_fillFrom`: Setting words on lines brings in nothing but spaces.
* `Text.wrap?_of_isAscii`: A label that is ASCII wraps, to lines of its own
  characters, spaces and dots.
-/

namespace Flowchart

namespace Text

theorem utf8Size_of_isAsciiChar {c : Char} (h : isAsciiChar c = true) : c.utf8Size = 1 :=
  forall_ascii (P := fun c => c.utf8Size = 1) (by decide +kernel) h

/-- The bytes at the front of an ASCII text are its characters. -/
theorem takeBytes?_eq_take {t : Text} (ht : ∀ c ∈ t, isAsciiChar c = true) {n : Nat}
    (hn : n ≤ t.size) : takeBytes? n t = some (t.take n) := by
  induction t generalizing n with
  | nil =>
    have hzero : n = 0 := by
      rw [size_nil] at hn
      omega
    rw [hzero]
    rfl
  | cons c t ih =>
    cases n with
    | zero => rfl
    | succ n =>
      -- A character in ASCII is one byte, so bytes and characters run out together.
      have hc : c.utf8Size = 1 := utf8Size_of_isAsciiChar (ht c List.mem_cons_self)
      have hrest : takeBytes? n t = some (t.take n) := by
        refine ih (fun d hd => ht d (List.mem_cons_of_mem c hd)) ?_
        rw [size_cons, hc] at hn
        omega
      have hone : ¬ n + 1 < 1 := by omega
      rw [takeBytes?, hc, if_neg hone, Nat.add_sub_cancel, hrest]
      rfl

end Text

namespace Wrap

/-- The characters that lines of a text may have: its own and the space. -/
theorem mem_fillFrom {width : Nat} {current : Text} {more : Nat} {words : List Text} {l : Text}
    (hl : l ∈ (fillFrom width current more words).1) {c : Char} (hc : c ∈ l) :
    c = ' ' ∨ c ∈ current ∨ ∃ w ∈ words, c ∈ w := by
  fun_induction fillFrom width current more words with
  | case1 current =>
    rw [List.mem_singleton.1 hl] at hc
    exact Or.inr (Or.inl hc)
  | case2 current more word words _ ih =>
    -- The word goes on the current line, after a space.
    rcases ih hl with h | h | ⟨w, hw, h⟩
    · exact Or.inl h
    · rcases List.mem_append.1 h with h | h
      · exact Or.inr (Or.inl h)
      · rcases List.mem_cons.1 h with h | h
        · exact Or.inl h
        · exact Or.inr (Or.inr ⟨word, List.mem_cons_self, h⟩)
    · exact Or.inr (Or.inr ⟨w, List.mem_cons_of_mem word hw, h⟩)
  | case3 current word words _ =>
    rw [List.mem_singleton.1 hl] at hc
    exact Or.inr (Or.inl hc)
  | case4 current word words _ more lines cut heq ih =>
    -- The word starts a line of its own.
    rcases List.mem_cons.1 hl with rfl | hl
    · exact Or.inr (Or.inl hc)
    · rw [heq] at ih
      rcases ih hl with h | h | ⟨w, hw, h⟩
      · exact Or.inl h
      · exact Or.inr (Or.inr ⟨word, List.mem_cons_self, h⟩)
      · exact Or.inr (Or.inr ⟨w, List.mem_cons_of_mem word hw, h⟩)

theorem mem_fill {width maxLines : Nat} {words : List Text} {l : Text}
    (hl : l ∈ (fill width maxLines words).1) {c : Char} (hc : c ∈ l) :
    c = ' ' ∨ ∃ w ∈ words, c ∈ w := by
  cases words with
  | nil => exact absurd hl List.not_mem_nil
  | cons word words =>
    rcases mem_fillFrom hl hc with h | h | ⟨w, hw, h⟩
    · exact Or.inl h
    · exact Or.inr ⟨word, List.mem_cons_self, h⟩
    · exact Or.inr ⟨w, List.mem_cons_of_mem word hw, h⟩

/-- An ASCII line is cut so that the dots fit after it, if there is room for
    them. -/
theorem exists_shorten?_eq (width : Nat) {line : Text} (h : ∀ c ∈ line, isAsciiChar c = true) :
    ∃ kept, shorten? width line = some (kept ++ dots) ∧ kept <+: line ∧
      kept.length ≤ width - dots.length := by
  have htake := Text.takeBytes?_eq_take h (Nat.min_le_right (width - dots.length) line.size)
  refine ⟨Text.trimEnd (line.take (min (width - dots.length) line.size)),
    by rw [shorten?, htake]; rfl,
    (Text.dropEndWhile_isPrefix _ _).trans (List.take_prefix _ _), ?_⟩
  calc (Text.trimEnd (line.take (min (width - dots.length) line.size))).length
      ≤ (line.take (min (width - dots.length) line.size)).length :=
        (Text.dropEndWhile_isPrefix _ _).length_le
    _ ≤ min (width - dots.length) line.size := List.length_take_le _ _
    _ ≤ width - dots.length := Nat.min_le_left _ _

/-- An ASCII line can be shortened, to some of its characters and dots. -/
theorem shorten?_of_isAscii {width : Nat} {line : Text}
    (h : ∀ c ∈ line, isAsciiChar c = true) :
    ∃ short, shorten? width line = some short ∧ ∀ c ∈ short, c = '.' ∨ c ∈ line := by
  rcases exists_shorten?_eq width h with ⟨kept, hshort, hkept, -⟩
  refine ⟨kept ++ dots, hshort, fun c hc => ?_⟩
  rcases List.mem_append.1 hc with hc | hc
  · exact Or.inr (hkept.mem hc)
  · -- What does not come from the line is the ending.
    have hdots : dots = List.replicate 3 '.' := rfl
    exact Or.inl (List.eq_of_mem_replicate (hdots ▸ hc))

/-- Lines of which the last can be changed, where every line of the result is an
    old one or the changed one. -/
theorem changeLast?_spec {change : Text → Option Text} {lines : List Text}
    (h : ∀ l ∈ lines, ∃ l', change l = some l') :
    ∃ changed, changeLast? change lines = some changed ∧
      ∀ l ∈ changed, l ∈ lines ∨ ∃ m ∈ lines, change m = some l := by
  fun_induction changeLast? change lines with
  | case1 => exact ⟨[], rfl, fun l hl => absurd hl List.not_mem_nil⟩
  | case2 line =>
    rcases h line List.mem_cons_self with ⟨line', hline⟩
    refine ⟨[line'], by rw [hline]; rfl, fun l hl => Or.inr ⟨line, List.mem_cons_self, ?_⟩⟩
    rw [List.mem_singleton.1 hl]
    exact hline
  | case3 line lines _ ih =>
    rcases ih fun l hl => h l (List.mem_cons_of_mem line hl) with ⟨changed, heq, hmem⟩
    refine ⟨line :: changed, by rw [heq]; rfl, fun l hl => ?_⟩
    rcases List.mem_cons.1 hl with rfl | hl
    · exact Or.inl List.mem_cons_self
    · rcases hmem l hl with hl | ⟨m, hm, hl⟩
      · exact Or.inl (List.mem_cons_of_mem line hl)
      · exact Or.inr ⟨m, List.mem_cons_of_mem line hm, hl⟩

end Wrap

/-- An ASCII text wraps at every width and to every number of lines. Its lines
    have no characters but its own, spaces and dots. -/
theorem Text.wrap?_of_isAscii {t : Text} (ht : ∀ c ∈ t, isAsciiChar c = true)
    (width maxLines : Nat) :
    ∃ lines, t.wrap? width maxLines = some lines ∧
      ∀ l ∈ lines, ∀ c ∈ l, c = ' ' ∨ c = '.' ∨ c ∈ t := by
  have hfill : ∀ l ∈ (Wrap.fill width maxLines t.words).1, ∀ c ∈ l, c = ' ' ∨ c ∈ t := by
    intro l hl c hc
    rcases Wrap.mem_fill hl hc with h | ⟨w, hw, h⟩
    · exact Or.inl h
    · exact Or.inr ((isInfix_of_mem_words hw).mem h)
  unfold wrap?
  split
  · refine ⟨[t], rfl, fun l hl c hc => ?_⟩
    rw [List.mem_singleton.1 hl] at hc
    exact Or.inr (Or.inr hc)
  · dsimp only
    split
    · refine ⟨[[]], rfl, fun l hl c hc => ?_⟩
      rw [List.mem_singleton.1 hl] at hc
      exact absurd hc List.not_mem_nil
    · split
      · -- The last line is shortened, which never fails in ASCII.
        have hascii : ∀ l ∈ (Wrap.fill width maxLines t.words).1,
            ∀ c ∈ l, isAsciiChar c = true := by
          intro l hl c hc
          rcases hfill l hl c hc with rfl | h
          · decide
          · exact ht c h
        have hshorten : ∀ l ∈ (Wrap.fill width maxLines t.words).1,
            ∃ short, Wrap.shorten? width l = some short ∧ ∀ c ∈ short, c = '.' ∨ c ∈ l :=
          fun l hl => Wrap.shorten?_of_isAscii (hascii l hl)
        rcases Wrap.changeLast?_spec fun l hl => (hshorten l hl).imp fun _ h => h.1
          with ⟨lines, hlines, hmem⟩
        refine ⟨lines, hlines, fun l hl c hc => ?_⟩
        rcases hmem l hl with hl | ⟨m, hm, hshort⟩
        · exact (hfill l hl c hc).imp_right Or.inr
        · rcases hshorten m hm with ⟨short, hs, hchars⟩
          have hl' : short = l := Option.some.inj (hs.symm.trans hshort)
          rcases hchars c (hl' ▸ hc) with h | h
          · exact Or.inr (Or.inl h)
          · exact (hfill m hm c h).imp_right Or.inr
      · exact ⟨_, rfl, fun l hl c hc => (hfill l hl c hc).imp_right Or.inr⟩

end Flowchart
