import Flowchart.Proofs.Closer
import Flowchart.Proofs.Oversight
import Flowchart.Proofs.Position

/-!
# The Earliest Fault

What a rejection says about the lines before it and the lines after it, and what
an acceptance says about blocks.

Lines are read one by one, and all that one hands to the next is whether the header
has been read and how many blocks are open. The number of open blocks is a count,
kept by the reader, while the property of interest is about the lines: every line that
opens a block has its own line that closes it, and blocks stand beside or inside one
another. The two are tied by counting. After any lines that are accepted, the number
of open blocks is the number of lines that open one less the number of those that close
one, and lines that lead from some open blocks to none fall into nested parts with the
lines between them that close those blocks.

So a text that is refused for one of its lines is a good one up to there. Close the
blocks that are open, and it is accepted. No line behind the fault was looked at, so
whatever is put in their place, the rejection stays the same.

## Main definitions

* `Grammar.isOpening`, `Grammar.isClosing`: Lines that open and close a block.
* `Grammar.openBlocks`: How many blocks lines leave open.
* `Grammar.IsNested`: Every block in some lines is closed, and none reaches into another.
* `Grammar.IsEarliest`: Nothing is wrong before a rejection, and nothing after it matters.

## Theorems

* `Grammar.line_eq_ok`: What an accepted line does to the open blocks.
* `Grammar.depth_foldlM`: The number of open blocks by counting.
* `Grammar.isNested_of_foldlM`: Lines that leave no block open are nested.
* `Grammar.isNested_and_isEarliest`: What it means to be accepted or refused.
-/

namespace Flowchart

namespace Text

/-- No line holds a line feed. -/
theorem notMem_of_mem_lines {t l : Text} (h : l ∈ t.lines) : '\n' ∉ l := by
  have hpiece : l ∈ t.segments := by
    rw [lines] at h
    split at h
    · exact List.dropLast_subset _ h
    · exact h
  intro hfeed
  exact absurd ((of_mem_splitWhere hpiece).2 '\n' hfeed) (by decide)

/-- Lines with their line feeds are cut back into the lines, whether or not the last one
    is empty. -/
theorem lines_ended {ls : List Text} (h : ∀ l ∈ ls, '\n' ∉ l) : lines (ended ls) = ls := by
  -- Every line feed ends a segment, so there is an empty one behind the last.
  have hsegments : segments (ended ls) = ls ++ [[]] := by
    induction ls with
    | nil => rfl
    | cons l ls ih =>
      rw [List.forall_mem_cons] at h
      have hfirst : splitWhere (· == '\n') l = [l] := splitWhere_of_forall fun c hc => by
        rw [beq_eq_false_iff_ne]
        rintro rfl
        exact h.1 hc
      have hcons : ended (l :: ls) = l ++ '\n' :: ended ls := by
        rw [ended, List.flatMap_cons, List.append_assoc]
        rfl
      rw [segments, hcons, splitWhere_append_cons (by decide), hfirst]
      exact congrArg (l :: ·) (ih h.2)
  rw [lines, hsegments, List.getLast?_concat, if_pos rfl, List.dropLast_concat]

end Text

namespace Grammar

open Identifier

/-! ### Lines that open and close -/

/-- The line opens a block. -/
def isOpening (raw : Text) : Bool := word (body raw) = "subgraph".toList

/-- The line closes a block. -/
def isClosing (raw : Text) : Bool := body raw = "end".toList

/-- The line is a header. -/
def IsHeader (raw : Text) : Prop := header (body raw) = .ok ()

/-- How many blocks lines leave open, if they close none that is not open. -/
def openBlocks (ls : List Text) : Nat := ls.countP isOpening - ls.countP isClosing

/-- Every block is closed, by a line behind the one that opens it, and what stands
    between the two is nested itself. -/
inductive IsNested : List Text → Prop where
  | nil : IsNested []
  | other {l : Text} {ls : List Text} (hopening : isOpening l = false)
      (hclosing : isClosing l = false) (h : IsNested ls) : IsNested (l :: ls)
  | block {first last : Text} {inner ls : List Text} (hopening : isOpening first = true)
      (hinner : IsNested inner) (hclosing : isClosing last = true) (h : IsNested ls) :
      IsNested (first :: inner ++ last :: ls)

/-- Nothing is wrong before the line that a text is refused for: with the open blocks
    closed, what comes before it is accepted. And nothing behind it matters: every text
    whose lines up to there are the same, but for blanks around them, is refused in the
    same way. -/
structure IsEarliest (t : Text) (r : Rejection) : Prop where
  before : check (Text.ended (t.lines.take (r.line - 1) ++
    List.replicate (openBlocks (t.lines.take (r.line - 1))) "end".toList)) = .ok ()
  behind : ∀ u : Text,
    (u.lines.take r.line).map Text.trim = (t.lines.take r.line).map Text.trim →
      check u = .error r

section Lines

variable {raw : Text}

/-- What says nothing begins with no keyword. -/
theorem word_ne_of_isIdle {t : Text} (h : isIdle t = true) {k : Text}
    (hk : k.head? ≠ none ∧ k.head? ≠ some '%') : word t ≠ k := by
  rintro rfl
  rw [isIdle, Bool.or_eq_true, List.isEmpty_iff, List.isPrefixOf_iff_prefix] at h
  rcases h with rfl | ⟨rest, rfl⟩
  · exact hk.1 rfl
  · exact hk.2 rfl

/-- Neither of the two words that open and close a block stands at the front of another
    statement. -/
theorem word_ne_of_nodeRef {t rest k : Text} {closed : Option Shape}
    (h : nodeRef t = .ok (closed, rest)) (hk : isReserved k = true)
    (hword : k.all isWordChar = true) : word t ≠ k := by
  rcases exists_id_of_nodeRef h with ⟨id, more, rfl, hid, hends⟩
  exact word_ne_of_isReserved hid hends hk hword

theorem isOpening_eq_false (h : word (body raw) ≠ "subgraph".toList) : isOpening raw = false :=
  decide_eq_false h

/-- The line that closes a block is a single word. -/
theorem isClosing_eq_false (h : word (body raw) ≠ "end".toList) : isClosing raw = false := by
  refine decide_eq_false fun heq => h ?_
  rw [heq]
  rfl

/-- A statement opens a block, closes one or does neither, as its line says. -/
theorem apply_statement {e : Effect} {depth depth' : Nat} (h : statement (body raw) = .ok e)
    (hdepth : e.apply depth = .ok depth') :
    (isOpening raw = true ∧ isClosing raw = false ∧ depth' = depth + 1) ∨
      (isOpening raw = false ∧ isClosing raw = true ∧ depth = depth' + 1) ∨
      (isOpening raw = false ∧ isClosing raw = false ∧ depth' = depth) := by
  -- A line that does neither begins with a keyword of another kind or with a node.
  rcases statement_eq_ok h with ⟨hend, rfl⟩ | ⟨hword, rfl⟩ | ⟨k, hk, hword, rfl⟩ |
    ⟨closed, rest, hnode, -, rfl⟩
  · refine Or.inr (Or.inl ⟨isOpening_eq_false ?_, decide_eq_true hend, ?_⟩)
    · rw [hend]
      decide
    · cases depth with
      | zero => cases hdepth
      | succ n => rw [Except.ok.inj hdepth]
  · refine Or.inl ⟨decide_eq_true hword, isClosing_eq_false ?_, (Except.ok.inj hdepth).symm⟩
    rw [hword]
    decide
  · have hother : ∀ k ∈ opaqueWords, k.toList ≠ "subgraph".toList ∧ k.toList ≠ "end".toList := by
      decide
    refine Or.inr (Or.inr ⟨isOpening_eq_false ?_, isClosing_eq_false ?_,
      (Except.ok.inj hdepth).symm⟩)
    · rw [hword]
      exact (hother k hk).1
    · rw [hword]
      exact (hother k hk).2
  · exact Or.inr (Or.inr ⟨isOpening_eq_false (word_ne_of_nodeRef hnode (by decide) (by decide)),
      isClosing_eq_false (word_ne_of_nodeRef hnode (by decide) (by decide)),
      (Except.ok.inj hdepth).symm⟩)

/-- An accepted line makes the header known if it says something, and opens a block,
    closes one or does neither. -/
theorem line_eq_ok {p q : Progress} (h : p.line raw = .ok q) :
    q.headerSeen = (p.headerSeen || !isIdle (body raw)) ∧
      ((isOpening raw = true ∧ isClosing raw = false ∧ q.depth = p.depth + 1) ∨
        (isOpening raw = false ∧ isClosing raw = true ∧ p.depth = q.depth + 1) ∨
        (isOpening raw = false ∧ isClosing raw = false ∧ q.depth = p.depth)) := by
  rcases Lint.read_of_line h with ⟨q', hread, rfl⟩
  by_cases hidle : isIdle (body raw) = true
  · have hq : q' = p := by
      rw [Progress.read, if_pos hidle] at hread
      exact (Except.ok.inj hread).symm
    rw [hq]
    refine ⟨?_, Or.inr (Or.inr ⟨?_, ?_, rfl⟩)⟩
    · rw [hidle, Bool.not_true, Bool.or_false]
    · exact isOpening_eq_false (word_ne_of_isIdle hidle (by decide))
    · exact isClosing_eq_false (word_ne_of_isIdle hidle (by decide))
  · have hbusy := Bool.eq_false_iff.2 hidle
    rcases hseen : p.headerSeen with _ | _
    · -- The first line that says something is a header, which is no part of a block.
      rcases hheader : header (body raw) with cause | u
      · simp only [Progress.read, hbusy, hseen, hheader, bind, Except.bind, Bool.false_eq_true,
          if_false, Bool.not_false, if_true] at hread
        cases hread
      · simp only [Progress.read, hbusy, hseen, hheader, bind, Except.bind, Bool.false_eq_true,
          if_false, Bool.not_false, if_true] at hread
        rw [← Except.ok.inj hread, hbusy]
        refine ⟨rfl, Or.inr (Or.inr ⟨isOpening_eq_false ?_, isClosing_eq_false ?_, rfl⟩)⟩
        · rcases word_of_header hheader with hword | hword <;> rw [hword] <;> decide
        · rcases word_of_header hheader with hword | hword <;> rw [hword] <;> decide
    · rcases Lint.read_eq_ok hseen hread with ⟨hidle', -⟩ |
        ⟨-, -, e, depth, hstatement, hdepth, rfl⟩
      · exact absurd hidle' hidle
      · exact ⟨hseen, apply_statement hstatement hdepth⟩

/-- A line is read without the blanks around it. -/
theorem line_trim (p : Progress) (raw : Text) : p.line raw.trim = p.line raw := by
  have htrim : raw.trim.trim = raw.trim := by
    rw [Text.trim, Text.trimStart_trim, Text.trimEnd_trim]
  have hbody : body raw.trim = body raw := by rw [body, htrim, body]
  rw [Progress.line, Progress.read, hbody, Progress.line, Progress.read]

end Lines

/-! ### Many lines -/

/-- Lines that are the same but for blanks around them are read in the same way. -/
theorem foldlM_line_congr {ls ms : List Text} (h : ls.map Text.trim = ms.map Text.trim)
    (p : Progress) : ls.foldlM Progress.line p = ms.foldlM Progress.line p := by
  have htrim : ∀ ls : List Text,
      (ls.map Text.trim).foldlM Progress.line p = ls.foldlM Progress.line p := fun ls => by
    rw [List.foldlM_map]
    exact congrArg (fun f => ls.foldlM f p) (funext fun p => funext fun raw => line_trim p raw)
  rw [← htrim ls, h, htrim ms]

/-- After accepted lines as many blocks are open as these open more than they close, and
    the header is known if one of them says something. -/
theorem depth_foldlM {ls : List Text} {p q : Progress} (h : ls.foldlM Progress.line p = .ok q) :
    q.depth + ls.countP isClosing = p.depth + ls.countP isOpening ∧
      q.headerSeen = (p.headerSeen || ls.any fun l => !isIdle (body l)) := by
  induction ls generalizing p with
  | nil =>
    rw [← Except.ok.inj h, List.any_nil, Bool.or_false]
    exact ⟨rfl, rfl⟩
  | cons l ls ih =>
    rw [List.foldlM_cons] at h
    rcases hline : p.line l with r | p'
    · rw [hline] at h
      cases h
    · rw [hline] at h
      rcases ih h with ⟨hdepth, hseen⟩
      rcases line_eq_ok hline with ⟨hseen', hmove⟩
      refine ⟨?_, by rw [hseen, hseen', List.any_cons, Bool.or_assoc]⟩
      rw [List.countP_cons, List.countP_cons]
      -- In each of the three cases the depth moves as the counts do.
      rcases hmove with ⟨hopening, hclosing, hmove⟩ | ⟨hopening, hclosing, hmove⟩ |
        ⟨hopening, hclosing, hmove⟩ <;>
      · rw [hopening, hclosing]
        simp only [Bool.false_eq_true, if_true, if_false]
        omega

/-- Nested lines and the line that closes a block around them, for each block that is
    open. -/
def Closes : Nat → List Text → Prop
  | 0, ls => IsNested ls
  | n + 1, ls => ∃ inner last more, ls = inner ++ last :: more ∧ IsNested inner ∧
      isClosing last = true ∧ Closes n more

/-- Nested lines may be put before lines that close blocks. -/
theorem Closes.prepend {n : Nat} {front ls : List Text}
    (hfront : ∀ ms, IsNested ms → IsNested (front ++ ms)) (h : Closes n ls) :
    Closes n (front ++ ls) := by
  cases n with
  | zero => exact hfront ls h
  | succ n =>
    rcases h with ⟨inner, last, more, rfl, hinner, hlast, hmore⟩
    exact ⟨front ++ inner, last, more, by rw [List.append_assoc], hfront inner hinner, hlast, hmore⟩

/-- Accepted lines that leave no block open close those that were open before them, and
    are nested otherwise. -/
theorem closes_of_foldlM {ls : List Text} {p q : Progress}
    (h : ls.foldlM Progress.line p = .ok q) (hq : q.depth = 0) : Closes p.depth ls := by
  -- The number of blocks that are open before the lines is free, since it changes on the way.
  induction ls generalizing p with
  | nil =>
    rw [Except.ok.inj h, hq]
    exact .nil
  | cons l ls ih =>
    rw [List.foldlM_cons] at h
    rcases hline : p.line l with r | p'
    · rw [hline] at h
      cases h
    · rw [hline] at h
      have hrest := ih h
      rcases (line_eq_ok hline).2 with ⟨hopening, -, hmove⟩ | ⟨-, hclosing, hmove⟩ |
        ⟨hopening, hclosing, hmove⟩
      · -- The line that closes this block is the first one that is left over.
        rw [hmove] at hrest
        rcases hrest with ⟨inner, last, more, rfl, hinner, hlast, hmore⟩
        have hblock : ∀ ms, IsNested ms → IsNested ((l :: inner ++ [last]) ++ ms) := by
          intro ms hms
          rw [List.append_assoc]
          exact .block hopening hinner hlast hms
        have hcloses := hmore.prepend hblock
        rwa [List.append_assoc] at hcloses
      · rw [hmove]
        exact ⟨[], l, ls, rfl, .nil, hclosing, hrest⟩
      · rw [hmove] at hrest
        have hother : ∀ ms, IsNested ms → IsNested ([l] ++ ms) := fun ms hms =>
          .other hopening hclosing hms
        exact hrest.prepend hother

/-- Accepted lines are nested if no block is open before them and after them. -/
theorem isNested_of_foldlM {ls : List Text} {p q : Progress}
    (h : ls.foldlM Progress.line p = .ok q) (hp : p.depth = 0) (hq : q.depth = 0) :
    IsNested ls := by
  have hcloses := closes_of_foldlM h hq
  rwa [hp] at hcloses

/-- A line that closes a block may follow as often as there are open ones. -/
theorem foldlM_replicate_end {q : Progress} (hseen : q.headerSeen = true) :
    (List.replicate q.depth "end".toList).foldlM Progress.line q
      = .ok { q with depth := 0, lines := q.lines + q.depth } := by
  rcases q with ⟨seen, depth, lines⟩
  dsimp only at hseen ⊢
  -- The induction is on the depth. Each closing line counts, so the number of lines
  -- is not fixed.
  induction depth generalizing lines with
  | zero => rfl
  | succ n ih =>
    have hindent : ∀ c ∈ ([] : Text), isBlank c = true := fun c hc => absurd hc List.not_mem_nil
    have hend : Progress.line ⟨seen, n + 1, lines⟩ "end".toList = .ok ⟨seen, n, lines + 1⟩ :=
      line_firm hindent isFirm_end (e := .closes) rfl hseen rfl
    rw [List.replicate_succ, List.foldlM_cons, hend]
    have hrest := ih (lines + 1)
    rw [Nat.add_assoc, Nat.add_comm 1 n] at hrest
    exact hrest

/-! ### Texts -/

/-- A text is accepted if its lines are, with a header among them and no block open at
    the end. -/
theorem check_eq_ok_iff {t : Text} :
    check t = .ok () ↔
      ∃ q, t.lines.foldlM Progress.line {} = .ok q ∧ q.headerSeen = true ∧ q.depth = 0 := by
  rw [check]
  rcases t.lines.foldlM Progress.line {} with r | q
  · exact iff_of_false (by simp [bind, Except.bind]) (by simp)
  · -- The lines were accepted, so only the end of the text can be at fault.
    have hfinish : q.finish = .ok () ↔ q.headerSeen = true ∧ q.depth = 0 := by
      unfold Progress.finish
      rcases q.headerSeen with _ | _
      · simp
      · rcases q.depth with _ | n <;> simp
    simpa [bind, Except.bind] using hfinish

/-- A text that is refused is refused for one of its lines, unless a block is left open
    or no line says anything. -/
theorem check_eq_error {t : Text} {r : Rejection} (h : check t = .error r)
    (hfault : r.fault ≠ .unclosedBlock) :
    t.lines.foldlM Progress.line {} = .error r ∨ r.line = 1 := by
  rw [check] at h
  rcases hlines : t.lines.foldlM Progress.line {} with r' | q
  · rw [hlines] at h
    exact Or.inl (congrArg Except.error (Except.error.inj h))
  · rw [hlines] at h
    simp only [bind, Except.bind, Progress.finish] at h
    split at h
    · -- A text without a header is refused for its first line.
      exact Or.inr (Except.error.inj h ▸ rfl)
    · split at h
      · exact absurd (Except.error.inj h ▸ rfl) hfault
      · cases h

/-- A line that is refused is the earliest fault of its text, if the header stands before
    it. -/
theorem isEarliest_of_foldlM {t : Text} {r : Rejection}
    (h : t.lines.foldlM Progress.line {} = .error r)
    (hheader : ∃ l ∈ t.lines.take (r.line - 1), IsHeader l) : IsEarliest t r := by
  rcases Lint.exists_of_foldlM_error h with ⟨front, raw, back, q, hlines, hfront, hraw, hnumber⟩
  have hnumber' : r.line = front.length + 1 := hnumber.trans (by rw [Nat.zero_add])
  have hbefore : t.lines.take (r.line - 1) = front := by
    rw [hnumber', Nat.add_sub_cancel, hlines, List.take_left]
  rcases depth_foldlM hfront with ⟨hdepth, hseen⟩
  have hopen : openBlocks front = q.depth := by
    have hcount : q.depth + front.countP isClosing = 0 + front.countP isOpening := hdepth
    rw [openBlocks]
    omega
  have hseen' : q.headerSeen = true := by
    rw [hbefore] at hheader
    rcases hheader with ⟨l, hl, hheader⟩
    rw [hseen, Bool.false_or]
    exact List.any_eq_true.2 ⟨l, hl, by rw [not_isIdle_of_header hheader]; rfl⟩
  constructor
  · -- Up to the fault everything was accepted, so the open blocks only have to be
    -- closed.
    rw [hbefore, hopen, check_eq_ok_iff]
    have hfeeds : ∀ l ∈ front ++ List.replicate q.depth "end".toList, '\n' ∉ l := by
      intro l hl
      rcases List.mem_append.1 hl with hl | hl
      · exact Text.notMem_of_mem_lines (hlines ▸ List.mem_append_left _ hl)
      · rw [List.eq_of_mem_replicate hl]
        decide
    refine ⟨{ q with depth := 0, lines := q.lines + q.depth }, ?_, hseen', rfl⟩
    rw [Text.lines_ended hfeeds, List.foldlM_append, hfront]
    exact foldlM_replicate_end hseen'
  · intro u hu
    have hlength : r.line = (front ++ [raw]).length := by
      rw [hnumber', List.length_append, List.length_singleton]
    have htake : t.lines.take r.line = front ++ [raw] := by
      rw [hlength, hlines, List.append_cons front raw back, List.take_left]
    have hline : q.line raw = .error r := by
      rw [hlines, List.foldlM_append, hfront] at h
      rcases hline : q.line raw with r' | q'
      · simp only [bind, Except.bind, List.foldlM_cons, hline] at h
        exact h
      · rw [Progress.line, hraw] at hline
        cases hline
    -- Whatever comes after the fault is never looked at.
    have hstart : (u.lines.take r.line).foldlM Progress.line {} = .error r := by
      rw [foldlM_line_congr (hu.trans (congrArg _ htake)), List.foldlM_append, hfront]
      simp only [bind, Except.bind, List.foldlM_cons, hline]
    rw [check, ← List.take_append_drop r.line u.lines, List.foldlM_append, hstart]
    rfl

/-- In an accepted text as many lines close a block as open one, and the blocks are
    nested. A text that is refused after its header, and not just for a block that is left
    open, is refused for its earliest fault. -/
theorem isNested_and_isEarliest (t : Text) :
    (check t = .ok () → t.lines.countP isOpening = t.lines.countP isClosing ∧ IsNested t.lines) ∧
      ∀ r, check t = .error r → r.fault ≠ .unclosedBlock →
        (∃ l ∈ t.lines.take (r.line - 1), IsHeader l) → IsEarliest t r := by
  constructor
  · intro h
    rcases check_eq_ok_iff.1 h with ⟨q, hlines, -, hdepth⟩
    have hcount := (depth_foldlM hlines).1
    rw [hdepth, Nat.zero_add, Nat.zero_add] at hcount
    exact ⟨hcount.symm, isNested_of_foldlM hlines rfl hdepth⟩
  · intro r h hfault hheader
    rcases check_eq_error h hfault with hlines | hfirst
    · exact isEarliest_of_foldlM hlines hheader
    · -- No line stands before the first one, and the header was to.
      rw [hfirst] at hheader
      rcases hheader with ⟨l, hl, -⟩
      exact absurd hl List.not_mem_nil

/-- Blocks inside one another, and a label that ends early inside a block. -/
theorem isNested_and_isEarliest_label :
    IsNested (Text.lines "flowchart TB\nsubgraph s\nsubgraph t\nend\nend;".toList) ∧
      check "flowchart TB\nsubgraph s\n  a\n  b[\"x]y\"]".toList
        = .error ⟨.unexpected .bannedToken "SQE" "STR".toList, 4⟩ ∧
      IsEarliest "flowchart TB\nsubgraph s\n  a\n  b[\"x]y\"]".toList
        ⟨.unexpected .bannedToken "SQE" "STR".toList, 4⟩ := by
  have hnested : check "flowchart TB\nsubgraph s\nsubgraph t\nend\nend;".toList = .ok () := by
    decide +kernel
  have hrefused : check "flowchart TB\nsubgraph s\n  a\n  b[\"x]y\"]".toList
      = .error ⟨.unexpected .bannedToken "SQE" "STR".toList, 4⟩ := by decide +kernel
  have hheader : IsHeader "flowchart TB".toList := (by decide : header _ = .ok ())
  refine ⟨((isNested_and_isEarliest _).1 hnested).2, hrefused, ?_⟩
  exact (isNested_and_isEarliest _).2 _ hrefused (by decide) ⟨_, by decide, hheader⟩

end Grammar

end Flowchart
