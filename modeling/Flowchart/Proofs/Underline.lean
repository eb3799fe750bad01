import Flowchart.Proofs.Comparison
import Flowchart.Proofs.Position

/-!
# Underlined Text

Where findings point to. A report that names a line and a range of bytes is shown with
that range underlined, so a range that is off by one underlines the wrong text, and one
that ends inside a character cannot be shown at all.

The ranges are put together in many places from a byte position and the sizes of what
has been read. One fact carries all of them: a cursor is on its line, which means that
what it has before it is a part of the line that begins where the cursor says. Every
move of a cursor keeps it on the line, and what a cursor on a line points to stands
there. So no range needs to be looked at by itself.

Marks turn into findings at once or at the end, and take their places along. A survey
whose findings and references are placed stays so through one more mark, hence through
all lines.

The message of a finding about an id holds the id between backticks, and no other
backtick stands before. What is underlined is compared with that, and not with the id
that the linter had at hand.

## Main definitions

* `IssueCode.isNaming`: The codes of findings about an id.
* `Lint.quoted`: What a message names.
* `Lint.IsPlaced`: A finding points to what it is about.
* `Lint.Cursor.IsOn`: A cursor is on a line.
* `Lint.Mark.IsPlaced`, `Lint.ArePlaced`: Marks point into a line.
* `Lint.Survey.IsPlaced`: What a survey holds is placed.

## Theorems

* `Lint.quoted_append`: An id between backticks is found.
* `Lint.arePlaced_statement`: All marks of a line point into it.
* `Lint.Survey.IsPlaced.add`: One more mark.
* `Lint.Survey.IsPlaced.lines`: All lines of a text.
* `Lint.isPlaced_of_mem_lint`: All findings about a text.
-/

namespace Flowchart

/-- What stands before a pattern is the beginning of the text. -/
theorem Text.isPrefix_of_cut? {pattern t : Text} {sides : Text × Text}
    (h : cut? pattern t = some sides) : sides.1 <+: t := by
  rw [eq_of_cut? h, List.append_assoc]
  exact List.prefix_append _ _

/-- A finding of the code names an id and points to it. -/
def IssueCode.isNaming : IssueCode → Bool
  | .reservedKeywordId | .digitLeadingId | .nonAsciiId | .duplicateNodeId | .undeclaredNode => true
  | _ => false

namespace Lint

open Identifier Grammar

/-! ### Messages -/

/-- What stands between the first two backticks of a message. -/
def quoted (message : Text) : Text :=
  (message.dropWhile (· != '\x60')).tail.takeWhile (· != '\x60')

theorem quoted_append {front id : Text} (hfront : '\x60' ∉ front) (hid : '\x60' ∉ id)
    (back : Text) : quoted (front ++ Finding.ticked id ++ back) = id := by
  have hother : ∀ {t : Text}, '\x60' ∉ t → ∀ c ∈ t, (c != '\x60') = true := fun ht c hc =>
    bne_iff_ne.2 fun heq => ht (heq ▸ hc)
  have hsplit : front ++ Finding.ticked id ++ back = front ++ '\x60' :: (id ++ '\x60' :: back) := by
    simp only [Finding.ticked, List.append_assoc, List.cons_append, List.nil_append]
  rw [quoted, hsplit, List.dropWhile_append_of_pos (hother hfront), List.dropWhile_cons_of_neg
    (by decide), List.tail_cons, List.takeWhile_append_of_pos (hother hid),
    List.takeWhile_cons_of_neg (by decide), List.append_nil]

/-- A finding that names an id names what stands at a place. -/
def Names (f : Finding) (piece : Text) : Prop := f.code.isNaming = true → quoted f.message = piece

theorem names_of_isNaming {f : Finding} (h : f.code.isNaming = false) (piece : Text) :
    Names f piece := fun hnaming => Bool.noConfusion (h.symm.trans hnaming)

theorem names_duplicateNode {id : Text} (h : '\x60' ∉ id) : Names (.duplicateNode id) id :=
  fun _ => quoted_append (by decide) h _

theorem names_undeclaredNode {id : Text} (h : '\x60' ∉ id) : Names (.undeclaredNode id) id :=
  fun _ => quoted_append (by decide) h _

theorem names_of_idFinding? {id : Text} {f : Finding} (h : idFinding? id = some f)
    (hid : '\x60' ∉ id) : Names f id := by
  unfold idFinding? at h
  split at h
  · rw [← Option.some.inj h]
    exact fun _ => quoted_append (by decide) hid _
  · split at h
    · rw [← Option.some.inj h]
      exact fun _ => quoted_append (by decide) hid _
    · split at h
      · rw [← Option.some.inj h]
        exact fun _ => quoted_append (by decide) hid _
      · cases h

/-- No complaint about a label is one about an id. -/
theorem names_of_mem_labelFindings {id inner : Text} {shape : Shape} {f : Finding}
    (h : f ∈ labelFindings id shape inner) (piece : Text) : Names f piece := by
  rcases mem_labelFindings_iff.1 h with ⟨-, rfl⟩ | ⟨-, rfl⟩ | ⟨-, rfl⟩ | ⟨-, rfl⟩
  · exact names_of_isNaming rfl piece
  · exact names_of_isNaming rfl piece
  · exact names_of_isNaming rfl piece
  · exact names_of_isNaming rfl piece

/-- No backtick goes on an id. -/
theorem notMem_takeWhile_isIdChar (t : Text) : '\x60' ∉ t.takeWhile isIdChar := by
  intro hmem
  have hid : isIdChar '\x60' = true := List.mem_takeWhile_imp hmem
  exact absurd hid (by decide +kernel)

/-! ### Findings -/

/-- A finding points to what it is about: its line is one of the text, its range is in
    order, ends between characters and lies in its line, and if it names an id, the id
    stands there. -/
structure IsPlaced (t : Text) (i : Issue) : Prop where
  line : ∀ n, i.line = some n → 1 ≤ n ∧ n ≤ t.lineCount
  ordered : ∀ span, i.span = some span → span.first ≤ span.last
  boundaries : ∀ span, i.span = some span → t.IsBoundary span.first ∧ t.IsBoundary span.last
  within : ∀ span, i.span = some span → ∃ n, i.line = some n ∧
    (t.lineSpan n).first ≤ span.first ∧ span.last ≤ (t.lineSpan n).last
  named : i.code.isNaming = true →
    ∃ span, i.span = some span ∧ t.slice? span = some (quoted i.message)

/-- A finding without a range, on some line of a text or on none. -/
theorem isPlaced_of_line {t : Text} {line : Option Nat}
    (h : ∀ n, line = some n → 1 ≤ n ∧ n ≤ t.lineCount) {f : Finding}
    (hf : f.code.isNaming = false) : IsPlaced t (f.issue line none) where
  line := h
  ordered := nofun
  boundaries := nofun
  within := nofun
  named hnaming := Bool.noConfusion (hf.symm.trans hnaming)

section Row

variable {t raw : Text} {number offset : Nat}

/-- A finding with a range of a line. -/
theorem IsRow.isPlaced (h : IsRow t number offset raw) {span : Span} {piece : Text}
    (hspan : span.Frames offset raw piece) {f : Finding} (hf : Names f piece) :
    IsPlaced t (f.issue (some number) (some span)) := by
  -- The place on the line is one in the text, since the line stands where it begins.
  have hfirst : (t.lineSpan number).first = offset := by rw [h.span]
  rcases Span.Frames.trans (hfirst.symm ▸ hspan) h.frames with ⟨hframes, hbegins, hends⟩
  exact {
    line := fun n hn => Option.some.inj hn ▸ h.bounds
    ordered := fun s hs => Option.some.inj hs ▸ hframes.ordered
    boundaries := fun s hs => Option.some.inj hs ▸ hframes.isBoundary
    within := fun s hs => ⟨number, rfl, Option.some.inj hs ▸ ⟨hbegins, hends⟩⟩
    named := fun hcode => ⟨span, rfl, by
      rw [Text.slice?_eq_some_iff]
      exact hf hcode ▸ hframes⟩ }

end Row

/-! ### Cursors -/

/-- A cursor is on a line that begins at a byte position: what it has before it is a
    part of the line and stands where the cursor says. -/
def Cursor.IsOn (offset : Nat) (raw : Text) (c : Cursor) : Prop :=
  ∃ front back, raw = front ++ c.rest ++ back ∧ c.position = offset + Text.size front

section Cursors

variable {offset : Nat} {raw : Text} {c : Cursor}

theorem Cursor.IsOn.advance (h : c.IsOn offset raw) (n : Nat) : (c.advance n).IsOn offset raw := by
  rcases h with ⟨front, back, hraw, hposition⟩
  refine ⟨front ++ c.rest.take n, back, ?_, ?_⟩
  · rw [rest_advance, List.append_assoc front, List.take_append_drop, hraw]
  · rw [Cursor.advance, hposition, Text.size_append, Nat.add_assoc]

theorem Cursor.IsOn.skipBlanks (h : c.IsOn offset raw) : c.skipBlanks.IsOn offset raw :=
  h.advance _

/-- What the cursor has right before it stands at its range. -/
theorem Cursor.IsOn.spanOf (h : c.IsOn offset raw) {piece : Text} (hpiece : piece <+: c.rest) :
    (c.spanOf piece).Frames offset raw piece := by
  rcases h with ⟨front, back, hraw, hposition⟩
  rcases hpiece with ⟨more, hmore⟩
  refine ⟨front, more ++ back, ?_, ?_⟩
  · rw [hraw, ← hmore]
    simp only [List.append_assoc]
  · rw [Cursor.spanOf, Span.between, Nat.min_eq_left (Nat.le_add_right _ _),
      Nat.max_eq_right (Nat.le_add_right _ _), hposition]

theorem Cursor.IsOn.toEnd (h : c.IsOn offset raw) : c.toEnd.Frames offset raw c.rest :=
  h.spanOf (List.prefix_refl _)

/-! ### Marks -/

/-- A mark points into a line, and to the id that it is about. -/
def Mark.IsPlaced (offset : Nat) (raw : Text) : Mark → Prop
  | .found f span => ∃ piece, span.Frames offset raw piece ∧ Names f piece
  | .declares id span => span.Frames offset raw id ∧ '\x60' ∉ id
  | .refersTo id span => span.Frames offset raw id ∧ '\x60' ∉ id
  | .connects _ _ => True
  | .opens _ => True
  | .closes span => ∃ piece, span.Frames offset raw piece

/-- All marks point into a line. -/
def ArePlaced (offset : Nat) (raw : Text) (marks : List Mark) : Prop :=
  ∀ m ∈ marks, m.IsPlaced offset raw

theorem arePlaced_nil : ArePlaced offset raw [] := List.forall_mem_nil _

theorem ArePlaced.append {marks marks' : List Mark} (h : ArePlaced offset raw marks)
    (h' : ArePlaced offset raw marks') : ArePlaced offset raw (marks ++ marks') :=
  List.forall_mem_append.2 ⟨h, h'⟩

theorem arePlaced_singleton {m : Mark} (h : m.IsPlaced offset raw) : ArePlaced offset raw [m] :=
  List.forall_mem_singleton.2 h

/-- Findings that all point to one place. -/
theorem arePlaced_found {fs : List Finding} {span : Span} {piece : Text}
    (hspan : span.Frames offset raw piece) (hfs : ∀ f ∈ fs, Names f piece) :
    ArePlaced offset raw (fs.map (.found · span)) := by
  intro m hm
  rcases List.mem_map.1 hm with ⟨f, hf, rfl⟩
  exact ⟨piece, hspan, hfs f hf⟩

/-- The text inside a label stands after what opens it. -/
theorem isPrefix_of_labelInside? {shape : Shape} {t inner : Text} {before after : Nat}
    (h : labelInside? shape t = some (before, inner, after)) : inner <+: t.drop before := by
  unfold labelInside? at h
  -- The label is in quotes or not, and cut off before a pattern either way.
  split at h
  all_goals
    rcases Option.map_eq_some_iff.1 h with ⟨sides, hfound, hsame⟩
    simp only [Prod.mk.injEq] at hsame
    rcases hsame with ⟨rfl, rfl, -⟩
    exact Text.isPrefix_of_cut? hfound

theorem arePlaced_label (h : c.IsOn offset raw) (id : Text) (shape : Shape) :
    ArePlaced offset raw (label id shape c).1 ∧ (label id shape c).2.IsOn offset raw := by
  unfold label
  dsimp only
  split
  · exact ⟨arePlaced_singleton ⟨c.rest, h.toEnd, names_of_isNaming rfl _⟩, h.advance _⟩
  · rename_i before inner after hinside
    have hstart := (h.advance 1).advance before
    exact ⟨arePlaced_found (hstart.spanOf (isPrefix_of_labelInside? hinside)) fun f hf =>
      names_of_mem_labelFindings hf _, hstart.advance _⟩

theorem arePlaced_node? (h : c.IsOn offset raw) {id : Text} {marks : List Mark} {after : Cursor}
    (hnode : node? c = some (id, marks, after)) :
    ArePlaced offset raw marks ∧ after.IsOn offset raw := by
  have hticks := notMem_takeWhile_isIdChar c.rest
  have hspan := h.spanOf (List.takeWhile_prefix isIdChar)
  -- All that is found in the identifier is underlined with the identifier.
  have hwrong : ArePlaced offset raw ((idFinding? (c.rest.takeWhile isIdChar)).toList.map
      (.found · (c.spanOf (c.rest.takeWhile isIdChar)))) :=
    arePlaced_found hspan fun f hf => names_of_idFinding? (Option.mem_toList.1 hf) hticks
  unfold node? at hnode
  dsimp only at hnode
  split at hnode
  · cases hnode
  · split at hnode
    · rw [Option.some.injEq, Prod.mk.injEq, Prod.mk.injEq] at hnode
      rcases hnode with ⟨rfl, rfl, rfl⟩
      exact ⟨hwrong.append (arePlaced_singleton ⟨hspan, hticks⟩), h.advance _⟩
    · rw [Option.some.injEq, Prod.mk.injEq, Prod.mk.injEq] at hnode
      rcases hnode with ⟨rfl, rfl, rfl⟩
      rcases arePlaced_label (h.advance _) _ _ with ⟨hlabel, hafter⟩
      exact ⟨(hwrong.append hlabel).append (arePlaced_singleton ⟨hspan, hticks⟩), hafter⟩

theorem arePlaced_edgeLabelMarks (h : c.IsOn offset raw) {piece : Text}
    (hpiece : piece <+: c.rest) : ArePlaced offset raw (edgeLabelMarks piece c) := by
  unfold edgeLabelMarks
  refine arePlaced_found (h.spanOf hpiece) fun f hf => ?_
  simp only [List.mem_append, List.mem_ite_nil_right, List.mem_singleton] at hf
  rcases hf with ⟨-, rfl⟩ | ⟨-, rfl⟩
  · exact names_of_isNaming rfl piece
  · exact names_of_isNaming rfl piece

theorem arePlaced_link (h : c.IsOn offset raw) :
    ArePlaced offset raw (link c).1 ∧
      ∀ after, (link c).2 = some after → after.IsOn offset raw := by
  have hbroken : ∀ {f : Finding} {span : Span} {piece : Text}, f.code.isNaming = false →
      span.Frames offset raw piece → ArePlaced offset raw [.found f span] :=
    fun hcode hspan => arePlaced_singleton ⟨_, hspan, names_of_isNaming hcode _⟩
  unfold link
  split
  · have hpiped := (h.advance Grammar.arrow.length).skipBlanks
    dsimp only
    split
    · rename_i body hbody
      split
      · rename_i piece back hfound
        have hinside : ((c.advance Grammar.arrow.length).skipBlanks.advance 1).rest = body := by
          rw [rest_advance, hbody, List.drop_one, List.tail_cons]
        refine ⟨arePlaced_edgeLabelMarks (hpiped.advance 1) (hinside ▸ Text.isPrefix_of_cut? hfound), ?_⟩
        rintro after ⟨⟩
        exact hpiped.advance _
      · exact ⟨hbroken rfl h.toEnd, nofun⟩
    · refine ⟨arePlaced_nil, ?_⟩
      rintro after ⟨⟩
      exact h.advance _
  · split
    · dsimp only
      split
      · rename_i piece back hfound
        refine ⟨arePlaced_edgeLabelMarks (h.advance 2) (Text.isPrefix_of_cut? hfound), ?_⟩
        rintro after ⟨⟩
        exact (h.advance 2).advance _
      · exact ⟨hbroken rfl h.toEnd, nofun⟩
    · split
      · exact ⟨hbroken rfl (h.spanOf (List.takeWhile_prefix _)), nofun⟩
      · exact ⟨arePlaced_nil, nofun⟩

theorem arePlaced_chain (h : c.IsOn offset raw) (source : Text) :
    ArePlaced offset raw (chain source c) := by
  have hlink : ∀ {d : Cursor} {marks : List Mark} {after? : Option Cursor}, d.IsOn offset raw →
      link d.skipBlanks = (marks, after?) → ArePlaced offset raw marks ∧
        ∀ after, after? = some after → after.IsOn offset raw := by
    intro d marks after? hd hread
    have hplaced := arePlaced_link hd.skipBlanks
    rwa [hread] at hplaced
  fun_induction chain source c with
  | case1 source c hempty => exact arePlaced_nil
  | case2 source c hempty marks hread => exact (hlink h hread).1
  | case3 source c hempty marks afterLink hread hnode => exact (hlink h hread).1
  | case4 source c hempty marks afterLink hread target nodeMarks after hnode ih =>
    rcases hlink h hread with ⟨hmarks, hafter⟩
    rcases arePlaced_node? (hafter afterLink rfl).skipBlanks hnode with ⟨hnodeMarks, hrest⟩
    exact (hmarks.append hnodeMarks).append (List.forall_mem_cons.2 ⟨trivial, ih hrest⟩)

/-! ### Lines -/

/-- All marks of a statement point into its line. -/
theorem arePlaced_statement (offset : Nat) (raw : Text) :
    ArePlaced offset raw (statement offset raw) := by
  -- What is read is the beginning of the line, so the cursor starts on it.
  have hc : Cursor.IsOn offset raw
      (Cursor.mk offset (Text.dropEndWhile (· == ';') raw.trimEnd)).skipBlanks := by
    have hprefix := (Text.dropEndWhile_isPrefix (· == ';') raw.trimEnd).trans
      (Text.dropEndWhile_isPrefix isBlank raw)
    rcases hprefix with ⟨back, hback⟩
    exact Cursor.IsOn.skipBlanks ⟨[], back, hback.symm, rfl⟩
  unfold statement
  dsimp only
  split
  · exact arePlaced_singleton ⟨_, hc.toEnd⟩
  · split
    · exact arePlaced_singleton trivial
    · split
      · exact arePlaced_nil
      · split
        · exact arePlaced_nil
        · rename_i id marks after hnode
          rcases arePlaced_node? hc hnode with ⟨hmarks, hafter⟩
          exact hmarks.append (arePlaced_chain hafter id)

theorem arePlaced_typographicMark? (offset : Nat) (raw : Text) :
    ArePlaced offset raw (Survey.typographicMark? offset raw).toList := by
  intro m hm
  unfold Survey.typographicMark? at hm
  dsimp only at hm
  split at hm
  · rename_i d more hmore
    have hraw : raw = raw.takeWhile (!isTypographic ·) ++ [d] ++ more := by
      rw [List.append_assoc, List.singleton_append, ← hmore, List.takeWhile_append_dropWhile]
    rw [Option.toList_some, List.mem_singleton] at hm
    subst hm
    refine ⟨[d], ⟨_, more, hraw, ?_⟩, names_of_isNaming rfl _⟩
    rw [Span.between, Nat.min_eq_left (Nat.le_add_right _ _), Nat.max_eq_right
      (Nat.le_add_right _ _)]
    rfl
  · cases hm

end Cursors

/-! ### Surveys -/

namespace Survey

/-- What a survey holds is placed: its findings, the references that may turn out to
    have no declaration, and the lines that it keeps. -/
structure IsPlaced (t : Text) (s : Survey) : Prop where
  issues : ∀ i ∈ s.issues, Lint.IsPlaced t i
  references : ∀ r ∈ s.references,
    Lint.IsPlaced t ((Finding.undeclaredNode r.1).issue (some r.2.1) (some r.2.2))
  declared : ∀ d ∈ s.declared, 1 ≤ d.2 ∧ d.2 ≤ t.lineCount
  openBlocks : ∀ n ∈ s.openBlocks, 1 ≤ n ∧ n ≤ t.lineCount

section Marks

variable {t raw : Text} {number offset : Nat} {s : Survey}

theorem isPlaced_nil (t : Text) : IsPlaced t {} :=
  ⟨List.forall_mem_nil _, List.forall_mem_nil _, List.forall_mem_nil _, List.forall_mem_nil _⟩

theorem IsPlaced.report (h : s.IsPlaced t) {i : Issue} (hi : Lint.IsPlaced t i) :
    (s.report i).IsPlaced t :=
  { h with issues := List.forall_mem_append.2 ⟨h.issues, List.forall_mem_singleton.2 hi⟩ }

/-- One more mark of a line. -/
theorem IsPlaced.add (h : s.IsPlaced t) (hrow : IsRow t number offset raw) {m : Mark}
    (hm : m.IsPlaced offset raw) : (s.add number m).IsPlaced t := by
  cases m with
  | found f span =>
    rcases hm with ⟨piece, hspan, hnames⟩
    exact h.report (hrow.isPlaced hspan hnames)
  | declares id span =>
    rcases hm with ⟨hspan, hticks⟩
    rw [Survey.add]
    split
    · exact h.report (hrow.isPlaced hspan (names_duplicateNode hticks))
    · exact { h with
        declared := List.forall_mem_append.2 ⟨h.declared, List.forall_mem_singleton.2 hrow.bounds⟩ }
  | refersTo id span =>
    rcases hm with ⟨hspan, hticks⟩
    -- Nothing is reported yet, but what may be reported later is placed already.
    have hissue := hrow.isPlaced hspan (names_undeclaredNode hticks)
    exact { h with
      references := List.forall_mem_append.2 ⟨h.references, List.forall_mem_singleton.2 hissue⟩ }
  | connects source target => exact { h with }
  | opens name =>
    -- The block keeps the line, in case it is never closed.
    exact { h with openBlocks := List.forall_mem_cons.2 ⟨hrow.bounds, h.openBlocks⟩ }
  | closes span =>
    rcases hm with ⟨piece, hspan⟩
    rw [Survey.add]
    split
    · rename_i line outer hopen
      exact { h with
        openBlocks := fun n hn => h.openBlocks n (hopen ▸ List.mem_cons_of_mem line hn) }
    · exact h.report (hrow.isPlaced hspan (names_of_isNaming rfl _))

theorem IsPlaced.marks (h : s.IsPlaced t) (hrow : IsRow t number offset raw) {ms : List Mark}
    (hms : ArePlaced offset raw ms) : (ms.foldl (Survey.add number) s).IsPlaced t := by
  induction ms generalizing s with
  | nil => exact h
  | cons m ms ih =>
    rcases List.forall_mem_cons.1 hms with ⟨hm, hmore⟩
    exact ih (h.add hrow hm) hmore

/-- One more line that says something, be it a header or not. -/
theorem IsPlaced.line (h : s.IsPlaced t) (hrow : IsRow t number offset raw) :
    (s.line number offset raw).IsPlaced t := by
  have htypographic := h.marks hrow (arePlaced_typographicMark? offset raw)
  unfold Survey.line
  dsimp only
  split
  · exact h
  · split
    · exact htypographic.marks hrow (arePlaced_statement offset raw)
    · have hseen : Survey.IsPlaced t
          { (typographicMark? offset raw).toList.foldl (Survey.add number) s with
            headerSeen := true } := { htypographic with }
      have hbounds : ∀ n, some number = some n → 1 ≤ n ∧ n ≤ t.lineCount := fun n hn =>
        Option.some.inj hn ▸ hrow.bounds
      unfold addHeader
      dsimp only
      split
      · exact hseen
      · exact (hseen.report (isPlaced_of_line hbounds rfl)).marks hrow
          (arePlaced_statement offset raw)

/-- All lines of a text, from the first one that has not been read. -/
theorem IsPlaced.lines (h : s.IsPlaced t) (before : List Text) {more : List Text}
    (hsegments : t.segments = before ++ more) :
    (Survey.lines (before.length + 1) (Text.size (Text.ended before)) s more).IsPlaced t := by
  induction more generalizing s before with
  | nil => exact h
  | cons segment more ih =>
    -- Only the empty piece at the end is no line, and it says nothing.
    have hline : (s.line (before.length + 1) (Text.size (Text.ended before))
        (withoutReturn segment)).IsPlaced t := by
      by_cases hnil : segment = []
      · rw [hnil, line_of_isIdle rfl]
        exact h
      · exact h.line (isRow_of_segments hsegments hnil)
    have hmore : t.segments = (before ++ [segment]) ++ more := by
      rw [hsegments, List.append_assoc, List.singleton_append]
    have hrest := ih hline (before ++ [segment]) hmore
    rwa [List.length_append, Text.size_ended_concat] at hrest

end Marks

/-! ### Reports -/

/-- What is found in the end is placed as well. -/
theorem IsPlaced.gathered {t : Text} {s : Survey} (h : s.IsPlaced t) :
    ∀ i ∈ s.gathered, Lint.IsPlaced t i := by
  have hunclosed : ∀ i ∈ s.unclosed, Lint.IsPlaced t i := by
    intro i hi
    rcases List.mem_map.1 hi with ⟨n, hn, rfl⟩
    have hbounds := h.openBlocks n (List.mem_reverse.1 hn)
    exact isPlaced_of_line (fun k hk => Option.some.inj hk ▸ hbounds) rfl
  have hundeclared : ∀ i ∈ s.undeclared, Lint.IsPlaced t i := by
    intro i hi
    rcases List.mem_map.1 hi with ⟨r, hr, rfl⟩
    exact h.references r (List.mem_filter.1 (mem_of_mem_firsts hr)).1
  have hcrowded : ∀ i ∈ s.crowded, Lint.IsPlaced t i := by
    intro i hi
    rcases List.mem_map.1 hi with ⟨id, -, rfl⟩
    refine isPlaced_of_line (fun n hn => ?_) rfl
    rcases Option.map_eq_some_iff.1 hn with ⟨d, hd, rfl⟩
    exact h.declared d (List.mem_of_find?_eq_some hd)
  -- There is a first line even if there is no header on it.
  have hfirst : Lint.IsPlaced t (Finding.noHeader.issue (some 1) none) :=
    isPlaced_of_line (fun n hn => Option.some.inj hn ▸ ⟨Nat.le_refl 1, Nat.le_max_left 1 _⟩) rfl
  intro i hi
  simp only [Survey.gathered, List.mem_append, List.mem_ite_nil_left, List.mem_singleton] at hi
  rcases hi with (((hi | ⟨-, rfl⟩) | hi) | hi) | hi
  · exact h.issues i hi
  · exact hfirst
  · exact hunclosed i hi
  · exact hundeclared i hi
  · exact hcrowded i hi

end Survey

/-- Every finding about a text points to what it is about. -/
theorem isPlaced_of_mem_lint {t : Text} {i : Issue} (h : i ∈ (lint t).issues) : IsPlaced t i := by
  have hplaced : (Survey.lines 1 0 {} t.segments).IsPlaced t := (Survey.isPlaced_nil t).lines [] rfl
  exact hplaced.gathered i (mem_issues_lint.1 h)

/-- A keyword after a carriage return, blanks and a character of two bytes. -/
theorem isPlaced_of_mem_lint_reserved :
    (Finding.reservedId "end".toList).issue (some 2) (some ⟨23, 26⟩)
        ∈ (lint "flowchart TB\r\n  ü --> end;\r\n".toList).issues ∧
      IsPlaced "flowchart TB\r\n  ü --> end;\r\n".toList
        ((Finding.reservedId "end".toList).issue (some 2) (some ⟨23, 26⟩)) := by
  have hmem : (Finding.reservedId "end".toList).issue (some 2) (some ⟨23, 26⟩)
      ∈ (lint "flowchart TB\r\n  ü --> end;\r\n".toList).issues :=
    mem_issues_lint.2 (by decide +kernel)
  exact ⟨hmem, isPlaced_of_mem_lint hmem⟩

/-- What is underlined there, in which line, and what the message names. -/
example :
    Text.slice? "flowchart TB\r\n  ü --> end;\r\n".toList ⟨23, 26⟩ = some "end".toList ∧
      Text.lineSpan "flowchart TB\r\n  ü --> end;\r\n".toList 2 = ⟨14, 27⟩ ∧
      quoted (Finding.reservedId "end".toList).message = "end".toList := by
  decide +kernel

end Lint

end Flowchart
