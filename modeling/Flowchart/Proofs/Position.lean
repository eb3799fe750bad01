import Flowchart.Proofs.Ending
import Flowchart.Proofs.Survey

/-!
# Places in a Text

What stands at a range of bytes, and which bytes a line takes up.

A position in bytes may fall inside a character, so not every range has something to
show. Here a range is read by the characters: it shows a piece if the text is that piece
with something before it that ends where the range begins. Order and boundaries follow
from this, and none of it needs the bytes themselves.

The pieces of a text are put together again to find its lines. A line begins after all
the lines before it and their line feeds, and neither the line feed at its end nor a
carriage return before that is part of it. A line feed at the very end of a text begins
no other line, so there are fewer lines than pieces then.

## Main definitions

* `Text.slice?`: What stands at a range of bytes.
* `Text.IsBoundary`: A position between two characters.
* `Text.lineCount`: The number of lines.
* `Text.lineSpan`: The bytes of a line.
* `Span.Frames`: A piece stands at a range of bytes.
* `Lint.IsRow`: A line with its number and its place.

## Theorems

* `Text.slice?_eq_some_iff`: A slice is a piece of the text.
* `Text.join_segments`: The pieces make up the text.
* `Lint.isRow_of_segments`: Pieces are lines.
-/

namespace Flowchart

namespace Text

/-! ### Slices -/

/-- What stands at a range of bytes. There is nothing if the range does not begin and
    end between characters. -/
def slice? (t : Text) (span : Span) : Option Text := do
  let whole ← takeBytes? span.last t
  let front ← takeBytes? span.first whole
  dropPrefix? front whole

/-- A position between two characters, or at an end of the text. -/
def IsBoundary (t : Text) (n : Nat) : Prop := (takeBytes? n t).isSome = true

instance (t : Text) (n : Nat) : Decidable (t.IsBoundary n) :=
  inferInstanceAs (Decidable ((takeBytes? n t).isSome = true))

theorem takeBytes?_size (front back : Text) :
    takeBytes? front.size (front ++ back) = some front := by
  induction front with
  | nil => rw [size_nil, takeBytes?]
  | cons c front ih =>
    -- Every character takes up some bytes, so the position is not the first one.
    have hpos : c.utf8Size + size front = (c.utf8Size + size front - 1) + 1 := by
      have := c.utf8Size_pos
      omega
    rw [size_cons, hpos, List.cons_append, takeBytes?, ← hpos, if_neg (by omega),
      Nat.add_sub_cancel_left, ih, Option.map_some]

theorem eq_of_takeBytes? {n : Nat} {t front : Text} (h : takeBytes? n t = some front) :
    ∃ back, t = front ++ back ∧ size front = n := by
  fun_induction takeBytes? n t generalizing front with
  | case1 t =>
    rw [← Option.some.inj h]
    exact ⟨t, rfl, rfl⟩
  | case2 n => cases h
  | case3 n c t hlt => cases h
  | case4 n c t hle ih =>
    rcases Option.map_eq_some_iff.1 h with ⟨front', hfront, rfl⟩
    rcases ih hfront with ⟨back, rfl, hsize⟩
    refine ⟨back, rfl, ?_⟩
    rw [size_cons, hsize]
    omega

theorem isBoundary_size (front back : Text) : IsBoundary (front ++ back) front.size := by
  rw [IsBoundary, takeBytes?_size]
  rfl

end Text

/-- A range frames a piece: the piece stands there, in a text that begins at a byte
    position. -/
def Span.Frames (span : Span) (offset : Nat) (t piece : Text) : Prop :=
  ∃ front back, t = front ++ piece ++ back ∧
    span = ⟨offset + Text.size front, offset + Text.size front + piece.size⟩

/-- The slice at a range is the piece that the range frames. -/
theorem Text.slice?_eq_some_iff {t piece : Text} {span : Span} :
    t.slice? span = some piece ↔ span.Frames 0 t piece := by
  constructor
  · intro h
    rcases Option.bind_eq_some_iff.1 h with ⟨whole, hwhole, h⟩
    rcases Option.bind_eq_some_iff.1 h with ⟨front, hfront, hpiece⟩
    -- A slice is cut off at its end first, and then what is before it is dropped.
    rcases eq_of_takeBytes? hwhole with ⟨back, rfl, hlast⟩
    rcases eq_of_takeBytes? hfront with ⟨-, -, hfirst⟩
    rw [dropPrefix?_eq_some_iff] at hpiece
    refine ⟨front, back, by rw [hpiece], ?_⟩
    rw [hpiece, size_append, hfirst] at hlast
    rw [Nat.zero_add, hfirst, hlast]
  · rintro ⟨front, back, rfl, rfl⟩
    have hwhole := takeBytes?_size (front ++ piece) back
    rw [size_append] at hwhole
    have hpiece : dropPrefix? front (front ++ piece) = some piece := dropPrefix?_eq_some_iff.2 rfl
    simp only [slice?, Nat.zero_add, hwhole, takeBytes?_size, hpiece, bind, Option.bind_some]

namespace Span.Frames

variable {span line : Span} {offset : Nat} {t raw piece : Text}

theorem ordered (h : span.Frames offset t piece) : span.first ≤ span.last := by
  rcases h with ⟨front, back, -, rfl⟩
  exact Nat.le_add_right _ _

theorem isBoundary (h : span.Frames 0 t piece) :
    t.IsBoundary span.first ∧ t.IsBoundary span.last := by
  rcases h with ⟨front, back, rfl, rfl⟩
  rw [Nat.zero_add, ← Text.size_append]
  refine ⟨?_, Text.isBoundary_size (front ++ piece) back⟩
  rw [List.append_assoc]
  exact Text.isBoundary_size front (piece ++ back)

/-- What stands in a line stands in the text, and inside the bytes of the line. -/
theorem trans (h : span.Frames line.first raw piece) (hline : line.Frames 0 t raw) :
    span.Frames 0 t piece ∧ line.first ≤ span.first ∧ span.last ≤ line.last := by
  rcases hline with ⟨before, after, rfl, rfl⟩
  rcases h with ⟨front, back, rfl, rfl⟩
  refine ⟨⟨before ++ front, back ++ after, ?_, ?_⟩, Nat.le_add_right _ _, ?_⟩
  · simp only [List.append_assoc]
  · simp only [Text.size_append, Nat.zero_add]
  · simp only [Text.size_append]
    omega

end Span.Frames

namespace Text

/-! ### Lines -/

/-- The number of lines. An empty text counts as one. -/
def lineCount (t : Text) : Nat := max 1 t.lines.length

/-- Lines with their line feeds. -/
def ended (ls : List Text) : Text := ls.flatMap (· ++ ['\n'])

/-- The bytes of a line, counted from one, without what ends it. -/
def lineSpan (t : Text) (n : Nat) : Span :=
  let first := size (ended (t.segments.take (n - 1)))
  ⟨first, first + size (Lint.Survey.withoutReturn (t.segments[n - 1]?.getD []))⟩

theorem size_ended_concat (ls : List Text) (l : Text) :
    size (ended (ls ++ [l])) = size (ended ls) + size l + 1 := by
  rw [ended, List.flatMap_append, List.flatMap_singleton, size_append, size_append, ← Nat.add_assoc]
  rfl

/-- The pieces of a text make it up. -/
theorem join_segments (t : Text) : join ['\n'] t.segments = t := by
  unfold segments
  induction t with
  | nil => rfl
  | cons c t ih =>
    -- A line feed begins another piece, and any other character joins the first one.
    rcases hpieces : splitWhere (· == '\n') t with _ | ⟨piece, pieces⟩
    · exact absurd hpieces (splitWhere_ne_nil _ t)
    · rw [hpieces] at ih
      rw [splitWhere, hpieces]
      by_cases hc : (c == '\n') = true
      · rw [if_pos hc, join_cons_cons, ih, beq_iff_eq.1 hc]
        rfl
      · rw [if_neg hc]
        dsimp only
        rw [← ih]
        cases pieces with
        | nil => rw [join_singleton, join_singleton]
        | cons l ls => rw [join_cons_cons, join_cons_cons, List.cons_append, List.cons_append]

/-- A piece stands behind the pieces before it and their line feeds. -/
theorem exists_join_eq (before after : List Text) (line : Text) :
    ∃ back, join ['\n'] (before ++ line :: after) = ended before ++ line ++ back := by
  induction before with
  | nil =>
    rcases after with _ | ⟨l, after⟩
    · exact ⟨[], by rw [List.nil_append, join_singleton, List.append_nil]; rfl⟩
    · refine ⟨'\n' :: join ['\n'] (l :: after), ?_⟩
      rw [List.nil_append, join_cons_cons, List.append_assoc]
      rfl
  | cons b before ih =>
    rcases ih with ⟨back, hback⟩
    -- Something follows, so a line feed stands behind the first piece.
    rcases hmore : before ++ line :: after with _ | ⟨l, more⟩
    · exact absurd hmore (List.append_ne_nil_of_right_ne_nil _ (List.cons_ne_nil _ _))
    · refine ⟨back, ?_⟩
      rw [List.cons_append, hmore, join_cons_cons, ← hmore, hback]
      simp only [ended, List.flatMap_cons, List.append_assoc]

end Text

namespace Lint

/-- A line of a text, with its number and the byte position where it begins. -/
structure IsRow (t : Text) (number offset : Nat) (raw : Text) : Prop where
  bounds : 1 ≤ number ∧ number ≤ t.lineCount
  span : t.lineSpan number = ⟨offset, offset + raw.size⟩
  frames : (t.lineSpan number).Frames 0 t raw

theorem withoutReturn_isPrefix (l : Text) : Survey.withoutReturn l <+: l := by
  rw [Survey.withoutReturn]
  rcases hsuffix : Text.dropSuffix? ['\r'] l with _ | front
  · exact List.prefix_refl l
  · exact ⟨['\r'], (Text.dropSuffix?_eq_some_iff.1 hsuffix).symm⟩

/-- A piece of a text is a line of it, unless it is the empty one after the last line
    feed. -/
theorem isRow_of_segments {t line : Text} {before after : List Text}
    (h : t.segments = before ++ line :: after) (hne : line ≠ []) :
    IsRow t (before.length + 1) (Text.size (Text.ended before)) (Survey.withoutReturn line) := by
  have hspan : t.lineSpan (before.length + 1) = ⟨Text.size (Text.ended before),
      Text.size (Text.ended before) + Text.size (Survey.withoutReturn line)⟩ := by
    rw [Text.lineSpan, Nat.add_sub_cancel, h, List.take_left,
      List.getElem?_append_right (Nat.le_refl _), Nat.sub_self, List.getElem?_cons_zero]
    rfl
  refine ⟨⟨Nat.le_add_left 1 _, ?_⟩, hspan, ?_⟩
  · refine Nat.le_trans ?_ (Nat.le_max_right 1 _)
    rcases Text.segments_eq_lines t with hlines | hlines
    · rw [← hlines, h, List.length_append, List.length_cons]
      omega
    · -- The empty piece is another one, so it comes later.
      have hafter : after ≠ [] := by
        rintro rfl
        rw [h] at hlines
        exact hne (List.cons.inj (List.append_inj_right' hlines rfl)).1
      have hlength := congrArg List.length (h.symm.trans hlines)
      rw [List.length_append, List.length_cons, List.length_append,
        List.length_singleton] at hlength
      have hpos := List.length_pos_iff.2 hafter
      omega
  · -- What is left out of the piece stands behind it.
    rcases withoutReturn_isPrefix line with ⟨ending, hending⟩
    rcases Text.exists_join_eq before after line with ⟨back, hback⟩
    rw [← h, Text.join_segments] at hback
    refine ⟨Text.ended before, ending ++ back, ?_, ?_⟩
    · rw [List.append_assoc, ← List.append_assoc _ ending, hending, ← List.append_assoc, ← hback]
    · rw [hspan, Nat.zero_add]

end Lint

end Flowchart
