import Flowchart.Build.Memory
import Flowchart.Proofs.Distinct
import Flowchart.Proofs.Ending

/-!
# What Memory Holds

A memory drops examples as it goes, one for a failure that comes up again and one
for every example too many. What it holds in the end can be said without any of
that, from all that was ever recorded: of each failure the last recording, in the
order of these recordings, and of them the last few.

That the two agree is not obvious. An example that is dropped early, because
there were too many, is one that a memory without limits would still hold, and
the failure that it stands for may be recorded again later. What saves the day is
that distinct failures come up in distinct examples. A recording takes away one
example at most and adds one, so those that were dropped for want of room would
be out of reach of the limit in any case. `lastItems_filter_append` is this
argument, and the run is a fold of it over the recordings.

The specification reads the recordings from the front and the memory takes them
from the front as well, but it looks back where the specification looks ahead.
`lasts_concat` turns one view into the other.

## Main definitions

* `lasts`: The last item for every value of a key.

## Theorems

* `Example.gist_cases`: A gist is empty or not blank.
* `lasts_concat`: One more item takes the place of one with its key.
* `Memory.lastItems_filter_append`: Dropping too much early does no harm.
* `Memory.toList_foldl_record`: What a memory holds after any recordings.
-/

namespace Flowchart

/-! ### Blank gists -/

namespace Text

/-- The code points of blanks. -/
def blankCodes : List Nat :=
  [9, 10, 11, 12, 13, 32, 0x85, 0xA0, 0x1680] ++ (List.range 11).map (0x2000 + ·)
    ++ [0x2028, 0x2029, 0x202F, 0x205F, 0x3000]

theorem toNat_mem_blankCodes {c : Char} (h : isBlank c = true) : c.toNat ∈ blankCodes := by
  simp only [isBlank, Bool.or_eq_true, Bool.and_eq_true, decide_eq_true_eq, beq_iff_eq] at h
  simp only [blankCodes, List.mem_append, List.mem_cons, List.mem_map, List.mem_range,
    List.not_mem_nil, or_false]
  by_cases hrange : 0x2000 ≤ c.toNat ∧ c.toNat ≤ 0x200A
  · exact Or.inl (Or.inr ⟨c.toNat - 0x2000, by omega, by omega⟩)
  · omega

/-- No run of capitals moves onto a blank. -/
theorem not_isBlank_of_covers {run : LowerRun} (hrun : run ∈ lowerRuns) {n : Nat}
    (hn : run.covers n = true) : isBlank (Char.ofNat ((n : Int) + run.shift).toNat) = false := by
  have hclear : ∀ run ∈ lowerRuns, ∀ b ∈ blankCodes,
      (b : Int) < run.first + run.shift ∨ run.last + run.shift < b := by
    decide +kernel
  have hpositive : ∀ b ∈ blankCodes, 0 < b := by decide
  rw [LowerRun.covers, Bool.and_eq_true, Bool.and_eq_true, decide_eq_true_eq,
    decide_eq_true_eq] at hn
  by_contra hblank
  have hmem := toNat_mem_blankCodes (Bool.not_eq_false _ ▸ hblank)
  -- A number that is no code point stands for NUL, which is no blank either.
  have hcode : (Char.ofNat ((n : Int) + run.shift).toNat).toNat = ((n : Int) + run.shift).toNat ∨
      (Char.ofNat ((n : Int) + run.shift).toNat).toNat = 0 := by
    rw [Char.ofNat]
    by_cases hvalid : ((n : Int) + run.shift).toNat.isValidChar
    · rw [dif_pos hvalid]
      exact Or.inl rfl
    · rw [dif_neg hvalid]
      exact Or.inr rfl
  have hrange := hclear run hrun _ hmem
  have hzero := hpositive _ hmem
  omega

/-- The lower case of a character that is no blank is not made of blanks. -/
theorem not_isBlankText_lowerChar {c : Char} (h : isBlank c = false) :
    isBlankText (lowerChar c) = false := by
  unfold lowerChar
  split
  · rename_i hascii
    have hlower := forall_ascii
      (P := fun c => isBlank c = false → isBlankText [c.toLower] = false) (by decide +kernel)
      (c := c) (by simpa only [isAsciiChar, decide_eq_true_eq] using hascii)
    exact hlower h
  · split
    · decide
    · split
      · rename_i run hfind
        -- What the table has for it is within a run, and runs have no blanks.
        have hcovers : run.covers c.toNat = true :=
          List.find?_some (p := fun run : LowerRun => run.covers c.toNat) hfind
        rw [isBlankText, List.all_cons,
          not_isBlank_of_covers (List.mem_of_find?_eq_some hfind) hcovers, Bool.false_and]
      · rw [isBlankText, List.all_cons, h, Bool.false_and]

/-- Lower case makes no text blank that starts with something else. -/
theorem not_isBlankText_lower {c : Char} (h : isBlank c = false) (t : Text) :
    isBlankText (lower (c :: t)) = false := by
  rw [lower, lowerAfter, isBlankText, List.all_append]
  have hsmall : isBlankText (if c = 'Σ' then
      (if meetsCased [] && !meetsCased t then ['ς'] else ['σ']) else lowerChar c) = false := by
    split
    · split <;> decide
    · exact not_isBlankText_lowerChar h
  rw [isBlankText] at hsmall
  rw [hsmall, Bool.false_and]

end Text

/-- A failure whose error is blank has an empty gist, and any other failure one
    that is not blank. -/
theorem Example.gist_cases (e : Example) :
    e.error.isBlankText = true ∧ e.gist = [] ∨
      e.error.isBlankText = false ∧ e.gist.isBlankText = false := by
  rw [← Bool.not_eq_true e.error.isBlankText, ← Text.trim_eq_nil_iff]
  rcases htrim : e.error.trim with _ | ⟨c, t⟩
  · refine Or.inl ⟨rfl, ?_⟩
    rw [gist, htrim]
    rfl
  · -- What is left of the error starts with no blank, so neither does its gist.
    refine Or.inr ⟨List.cons_ne_nil _ _, ?_⟩
    have hself := Text.trimStart_trim e.error
    rw [htrim] at hself
    have hfront : isBlank c = false :=
      Text.of_head?_dropWhile (t := c :: t) (by rw [← Text.trimStart, hself]; rfl)
    have hgist : e.gist = Text.lower (c :: t.take 159) := by
      rw [gist, htrim]
      rfl
    rw [hgist, Text.not_isBlankText_lower hfront]

/-! ### The last of every key -/

/-- The items of a list that no later one has the key of. -/
def lasts {α κ : Type} [DecidableEq κ] (key : α → κ) : List α → List α
  | [] => []
  | a :: l => if l.any (key · = key a) then lasts key l else a :: lasts key l

section Lasts

variable {α κ : Type} [DecidableEq κ] {key : α → κ}

/-- One more item takes the place of the one with its key. -/
theorem lasts_concat (l : List α) (a : α) :
    lasts key (l ++ [a]) = (lasts key l).filter (key · ≠ key a) ++ [a] := by
  induction l with
  | nil => rfl
  | cons b l ih =>
    rw [List.cons_append, lasts, lasts, ih, List.any_append]
    -- An item with a later one of its key is gone on both sides. Any other goes now if
    -- its key is that of the new item.
    by_cases hlater : l.any (key · = key b) = true
    · rw [hlater, Bool.true_or, if_pos rfl, if_pos rfl]
    · rw [Bool.not_eq_true] at hlater
      rw [hlater, Bool.false_or, List.any_cons, List.any_nil, Bool.or_false]
      by_cases hkey : key a = key b
      · rw [if_pos (decide_eq_true hkey), if_neg (by decide),
          List.filter_cons_of_neg (by simp [hkey])]
      · rw [if_neg (by simp [hkey]), if_neg (by decide),
          List.filter_cons_of_pos (by simp [Ne.symm hkey]), List.cons_append]

/-- The keys of the lasts are distinct. -/
theorem nodup_lasts (key : α → κ) (l : List α) : ((lasts key l).map key).Nodup := by
  induction l using List.reverseRecOn with
  | nil => exact List.nodup_nil
  | append_singleton l a ih =>
    rw [lasts_concat, List.map_append, List.map_singleton, List.nodup_append]
    refine ⟨ih.sublist (List.filter_sublist.map key), List.nodup_singleton _, ?_⟩
    rintro k hk k' hk' rfl
    rcases List.mem_map.1 hk with ⟨b, hb, rfl⟩
    rw [List.mem_filter, decide_eq_true_eq] at hb
    exact hb.2 (List.mem_singleton.1 hk')

end Lasts

namespace Memory

/-! ### The last few -/

section LastItems

variable {α κ : Type} [DecidableEq κ]

theorem lastItems_map {β : Type} (f : α → β) (n : Nat) (l : List α) :
    lastItems n (l.map f) = (lastItems n l).map f := by
  rw [lastItems, lastItems, List.length_map, List.map_drop]

theorem length_lastItems (n : Nat) (l : List α) : (lastItems n l).length = min n l.length := by
  rw [lastItems, List.length_drop]
  omega

theorem lastItems_min (n : Nat) (l : List α) :
    lastItems (min n l.length) l = lastItems n l := by
  have hsame : l.length - min n l.length = l.length - n := by omega
  rw [lastItems, lastItems, hsame]

/-- What comes before as many items as are asked for does not matter. -/
theorem lastItems_append_of_le {n : Nat} (l : List α) {m : List α} (h : n ≤ m.length) :
    lastItems n (l ++ m) = lastItems n m := by
  have hfront : l.length ≤ l.length + m.length - n := by omega
  have hrest : l.length + m.length - n - l.length = m.length - n := by omega
  rw [lastItems, lastItems, List.length_append, List.drop_append,
    List.drop_eq_nil_of_le hfront, List.nil_append, hrest]

/-- Of items with distinct keys at most one has a given key. -/
theorem length_le_length_filter_ne {key : α → κ} {l : List α} (h : (l.map key).Nodup) (k : κ) :
    l.length ≤ (l.filter (key · ≠ k)).length + 1 := by
  have hkeys : (l.filter (key · ≠ k)).map key = (l.map key).filter (· ≠ k) := by
    rw [List.filter_map]
    rfl
  have hlength : (l.filter (key · ≠ k)).length = ((l.map key).filter (· ≠ k)).length := by
    rw [← hkeys, List.length_map]
  rw [hlength, ← List.length_map key]
  -- If the key occurs, it does so once.
  by_cases hk : k ∈ l.map key
  · rw [length_filter_ne_of_mem h hk]
  · have hall : (l.map key).filter (· ≠ k) = l.map key :=
      List.filter_eq_self.2 fun b hb => decide_eq_true fun heq => hk (heq ▸ hb)
    rw [hall]
    exact Nat.le_succ _

/-- Whether items are dropped for want of room before one with a key gives way to
    another or only afterwards, the same are left. -/
theorem lastItems_filter_append {key : α → κ} {l : List α} (h : (l.map key).Nodup) (n : Nat)
    (k : κ) (a : α) :
    lastItems n ((lastItems n l).filter (key · ≠ k) ++ [a])
      = lastItems n (l.filter (key · ≠ k) ++ [a]) := by
  by_cases hfew : l.length ≤ n
  · have hall : lastItems n l = l := by
      rw [lastItems, Nat.sub_eq_zero_of_le hfew, List.drop_zero]
    rw [hall]
  · -- There are as many as can be, so at most one place becomes free, and it is taken.
    have hsplit : l.take (l.length - n) ++ lastItems n l = l := List.take_append_drop _ _
    have hdistinct : ((lastItems n l).map key).Nodup := h.sublist ((List.drop_sublist _ _).map key)
    have hlength := length_le_length_filter_ne hdistinct k
    rw [length_lastItems] at hlength
    have hfull : n ≤ ((lastItems n l).filter (key · ≠ k) ++ [a]).length := by
      rw [List.length_append, List.length_singleton]
      omega
    have hfilter : l.filter (key · ≠ k)
        = (l.take (l.length - n)).filter (key · ≠ k) ++ (lastItems n l).filter (key · ≠ k) := by
      rw [← List.filter_append, hsplit]
    rw [hfilter, List.append_assoc, lastItems_append_of_le _ hfull]

end LastItems

/-! ### All recordings -/

/-- An example under its gist, cut to what is kept of it. -/
def entry (e : Example) : Text × Example := (e.gist, e.clipped)

/-- What a memory without limits holds after some recordings: the last one of
    every failure. -/
def history (recorded : List Example) : List Example :=
  lasts Example.gist (recorded.filter fun e => !e.gist.isBlankText)

/-- One more recording with a gist takes the place of one with the same gist. -/
theorem history_concat (recorded : List Example) (e : Example) :
    history (recorded ++ [e]) =
      if e.gist = [] then history recorded
      else (history recorded).filter (·.gist ≠ e.gist) ++ [e] := by
  rw [history, List.filter_append, List.filter_singleton]
  rcases e.gist_cases with ⟨-, hempty⟩ | ⟨-, hgist⟩
  · -- An example without a gist is not recorded at all.
    have hblank : e.gist.isBlankText = true := hempty ▸ rfl
    rw [if_pos hempty, hblank, Bool.not_true, cond_false, List.append_nil]
    rfl
  · have hne : e.gist ≠ [] := by
      intro hempty
      rw [hempty] at hgist
      exact absurd hgist (by decide)
    rw [if_neg hne, hgist, Bool.not_false, cond_true, lasts_concat]
    rfl

/-- A memory whose examples do not expire holds the last few entries of its
    history. -/
theorem entries_foldl_record (capacity : Nat) (recorded : List Example) :
    recorded.foldl record { capacity } =
      { capacity, entries := lastItems capacity ((history recorded).map entry) } := by
  induction recorded using List.reverseRecOn with
  | nil => exact congrArg (Memory.mk capacity false) List.drop_nil.symm
  | append_singleton recorded e ih =>
    rw [List.foldl_concat, ih, history_concat, record]
    by_cases hgist : e.gist = []
    · rw [if_pos hgist, if_pos hgist]
    · rw [if_neg hgist, if_neg hgist]
      have hkeys : ((history recorded).map entry).map Prod.fst
          = (history recorded).map Example.gist := List.map_map
      -- The history has each gist once, so there is at most one entry to replace.
      have hdistinct : (((history recorded).map entry).map Prod.fst).Nodup := by
        rw [hkeys]
        exact nodup_lasts _ _
      have hothers : ((history recorded).map entry).filter (·.1 ≠ e.gist)
          = ((history recorded).filter (·.gist ≠ e.gist)).map entry := List.filter_map
      rw [List.map_append, List.map_singleton, ← hothers]
      exact congrArg (Memory.mk capacity false)
        (lastItems_filter_append hdistinct capacity e.gist (entry e))

/-- Whatever is recorded in a memory whose examples do not expire, it holds of the
    examples with a gist the last recording of every gist, in the order of these
    recordings, and of them the last as many as it has room for, with their texts
    cut. Asked for the last few examples it gives them, the oldest first, and stays
    as it is. -/
theorem toList_foldl_record (capacity : Nat) (recorded : List Example) :
    let m := recorded.foldl record { capacity }
    m.toList = (lastItems capacity (lasts Example.gist
        (recorded.filter fun e => !e.gist.isBlankText))).map
          (fun e => ⟨e.error.take 1200, e.invalid.take 1200, e.fixed.map (·.take 1200)⟩) ∧
      ∀ limit, m.recent limit = (lastItems (min limit m.size) m.toList, m) := by
  intro m
  have hm : m = { capacity, entries := lastItems capacity ((history recorded).map entry) } :=
    entries_foldl_record capacity recorded
  constructor
  · rw [hm, toList]
    dsimp only
    rw [lastItems_map, List.map_map]
    rfl
  · intro limit
    -- Without expiry nothing is swept away when it is asked.
    have hswept : m.swept = m := by
      rw [hm]
      rfl
    have hsize : m.size = m.toList.length := (List.length_map _).symm
    rw [recent, hswept, hsize, lastItems_min]

/-- With room for two, a failure that was dropped and comes up again is the latest,
    and the one before it is still there. -/
example :
    ((["a", "b", "c", "a"].map fun s => ({ error := s.toList } : Example)).foldl record
      { capacity := 2 }).toList.map Example.error = ["c".toList, "a".toList] := by
  decide +kernel

end Memory

end Flowchart
