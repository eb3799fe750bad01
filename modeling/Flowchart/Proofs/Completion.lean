import Flowchart.Build.Request
import Flowchart.Proofs.Ending
import Flowchart.Proofs.JsonTail

/-!
# Objects in Prose

A diagram in JSON with other text around it is read from a completion, as long as
the text before has no opening brace and the text after no closing one. Then the
diagram is all there is between the outermost braces, and neither trimming nor
taking off a closing fence reaches a brace.

There is one exception. The line that opens a fence is taken off up to its end,
wherever that is. If the text before the diagram opens a fence and does not end
the line, then the first line of the diagram goes with it, and all of it if it
has only one. What is left is no diagram: in JSON, no object is the end of
another.

## Main definitions

* `Completion.IsBraced`: A text from an opening brace to a closing one.
* `Completion.Encloses`: A text with another between its outermost braces.
* `Completion.Swallows`: A text that opens a fence and does not end the line.

## Theorems

* `Completion.object?_eq_some_iff`: An object is what the outermost braces
  enclose.
* `Completion.encloses_unfenced`: Taking off fences leaves the object whole.
* `Completion.exists_of_swallows`: After an opening fence whose line does not end,
  only an end of the object is found.
* `Completion.read_append`: A diagram with text around it is read, unless its
  first line is swallowed.
-/

namespace Flowchart

namespace Completion

/-- A text from an opening brace to a closing one. -/
def IsBraced (t : Text) : Prop := t.head? = some '\x7b' ∧ t.getLast? = some '\x7d'

/-- A text with another between its outermost braces. -/
def Encloses (t object : Text) : Prop :=
  ∃ front back, t = front ++ object ++ back ∧ '\x7b' ∉ front ∧ '\x7d' ∉ back

/-- A text that opens a fence, but for blanks, and does not end the line. -/
def Swallows (front : Text) : Prop := fence <+: front.trimStart ∧ '\n' ∉ front.trimStart

instance (t : Text) : Decidable (IsBraced t) := inferInstanceAs (Decidable (_ ∧ _))

instance (front : Text) : Decidable (Swallows front) := inferInstanceAs (Decidable (_ ∧ _))

/-! ### Braced texts -/

theorem IsBraced.exists_cons {object : Text} (h : IsBraced object) :
    ∃ rest, object = '\x7b' :: rest ∧ rest.getLast? = some '\x7d' := by
  rcases object with _ | ⟨c, rest⟩
  · cases h.1
  have hc : c = '\x7b' := Option.some_inj.1 h.1
  rcases rest with _ | ⟨c', rest⟩
  · rw [hc] at h
    exact absurd h.2 (by decide)
  · exact ⟨c' :: rest, by rw [hc], by rw [← h.2, List.getLast?_cons_cons]⟩

/-- What is without closing braces and is taken off the end of a text does not
    reach an object in it. -/
theorem IsBraced.exists_of_append_eq {front object back kept taken : Text}
    (hobject : IsBraced object) (h : front ++ object ++ back = kept ++ taken)
    (htaken : '\x7d' ∉ taken) :
    ∃ back', kept = front ++ object ++ back' ∧ back = back' ++ taken := by
  rcases List.getLast?_eq_some_iff.1 hobject.2 with ⟨init, rfl⟩
  have hcut : (front ++ init) ++ '\x7d' :: back = kept ++ taken := by
    rw [← h, List.append_assoc, List.append_assoc, List.append_assoc, List.singleton_append]
  rcases Text.exists_of_append_eq_end hcut htaken with ⟨back', rfl, rfl⟩
  refine ⟨back', ?_, rfl⟩
  rw [List.append_assoc, List.append_assoc, List.append_assoc, List.singleton_append]

/-- A text is dropped up to the first of some character. -/
theorem dropWhile_ne_append_cons {c : Char} {t : Text} (h : c ∉ t) (u : Text) :
    (t ++ c :: u).dropWhile (· != c) = c :: u := by
  refine (Text.takeWhile_append_of_ends (fun b hb => ?_) fun b hb => ?_).2
  · exact bne_iff_ne.2 fun heq => h (heq ▸ hb)
  · cases hb
    exact bne_self_eq_false c

/-- What is found is what is left after dropping from both ends up to a brace. -/
theorem object?_eq_some_iff_dropWhile {t object : Text} :
    object? t = some object ↔
      Text.dropEndWhile (· != '\x7d') (t.dropWhile (· != '\x7b')) = object ∧ object ≠ [] := by
  unfold object?
  split
  · rename_i hnone
    rw [hnone]
    exact ⟨fun h => absurd h.symm (Option.some_ne_none _), fun h => absurd h.1.symm h.2⟩
  · split
    · rename_i hnone
      rw [hnone]
      exact ⟨fun h => absurd h.symm (Option.some_ne_none _), fun h => absurd h.1.symm h.2⟩
    · rename_i kept hsome
      refine ⟨?_, fun h => congrArg some h.1⟩
      intro h
      cases h
      exact ⟨rfl, hsome⟩

/-- An object is what the outermost braces enclose. -/
theorem object?_eq_some_iff {t object : Text} :
    object? t = some object ↔ IsBraced object ∧ Encloses t object := by
  rw [object?_eq_some_iff_dropWhile]
  constructor
  · rintro ⟨hkept, hne⟩
    rcases Text.exists_dropEndWhile_append (· != '\x7d') (t.dropWhile (· != '\x7b')) with
      ⟨back, hback, hopened⟩
    rw [hkept] at hopened
    -- What is left begins where dropping stopped, which is at a brace, and ends at one.
    have hfirst : ∀ c, object.head? = some c → c = '\x7b' := by
      intro c hc
      have hhead : (t.dropWhile (· != '\x7b')).head? = some c := by
        rw [hopened, List.head?_append_of_ne_nil _ hne, hc]
      have hbrace : (c != '\x7b') = false :=
        Text.of_head?_dropWhile (p := (· != '\x7b')) hhead
      exact bne_eq_false_iff_eq.1 hbrace
    have hlast : ∀ c, object.getLast? = some c → c = '\x7d' := by
      intro c hc
      rw [← hkept] at hc
      have hbrace : (c != '\x7d') = false :=
        Text.of_getLast?_dropEndWhile (p := (· != '\x7d')) hc
      exact bne_eq_false_iff_eq.1 hbrace
    refine ⟨⟨?_, ?_⟩, t.takeWhile (· != '\x7b'), back, ?_, fun hmem => ?_, fun hmem => ?_⟩
    · rw [List.head?_eq_some_head hne, hfirst _ (List.head?_eq_some_head hne)]
    · rw [List.getLast?_eq_some_getLast hne, hlast _ (List.getLast?_eq_some_getLast hne)]
    · rw [List.append_assoc, ← hopened, List.takeWhile_append_dropWhile]
    · exact absurd (List.mem_takeWhile_imp hmem) (by decide)
    · exact absurd (hback _ hmem) (by decide)
  · rintro ⟨hobject, front, back, rfl, hfront, hback⟩
    -- There is no opening brace in front, so dropping goes up to that of the object.
    have hdrop : (front ++ object ++ back).dropWhile (· != '\x7b') = object ++ back := by
      rcases hobject.exists_cons with ⟨rest, rfl, -⟩
      rw [List.append_assoc, List.cons_append, dropWhile_ne_append_cons hfront]
    have hkept : Text.dropEndWhile (· != '\x7d') (object ++ back) = object := by
      rcases List.getLast?_eq_some_iff.1 hobject.2 with ⟨init, rfl⟩
      have hreverse : '\x7d' ∉ back.reverse := fun hmem => hback (List.mem_reverse.1 hmem)
      rw [Text.dropEndWhile, List.reverse_append, List.reverse_append, List.reverse_singleton,
        List.singleton_append, dropWhile_ne_append_cons hreverse, List.reverse_cons,
        List.reverse_reverse]
    refine ⟨by rw [hdrop, hkept], ?_⟩
    rintro rfl
    cases hobject.1

/-! ### Trimming and fences -/

/-- Blanks have no braces among them. -/
theorem notMem_of_isBlank {gap : Text} (h : ∀ c ∈ gap, isBlank c = true) :
    '\x7b' ∉ gap ∧ '\x7d' ∉ gap :=
  ⟨fun hmem => absurd (h _ hmem) (by decide), fun hmem => absurd (h _ hmem) (by decide)⟩

/-- Trimming takes blanks off what is around an object. -/
theorem exists_trim_append {object : Text} (hobject : IsBraced object) (front back : Text) :
    ∃ back', (front ++ object ++ back).trim = front.trimStart ++ object ++ back' ∧
      back' <+: back := by
  have hstart : (front ++ object ++ back).trimStart = front.trimStart ++ object ++ back := by
    rcases hobject.exists_cons with ⟨rest, rfl, -⟩
    rw [Text.trimStart, Text.trimStart, List.append_assoc, List.dropWhile_append]
    split
    · rename_i hblank
      rw [List.isEmpty_iff.1 hblank, List.cons_append, List.dropWhile_cons_of_neg (by decide)]
      rfl
    · rw [List.append_assoc]
  rcases Text.exists_dropEndWhile_append isBlank (front.trimStart ++ object ++ back) with
    ⟨gap, hgap, heq⟩
  -- A brace is no blank, so the object itself is not trimmed.
  rcases hobject.exists_of_append_eq heq (notMem_of_isBlank hgap).2 with ⟨back', hkept, rfl⟩
  refine ⟨back', ?_, List.prefix_append _ _⟩
  rw [Text.trim, hstart, Text.trimEnd, hkept]

theorem unfenced_of_not_isPrefix {t : Text} (h : ¬ fence <+: t) : unfenced t = t := by
  have hnone : Text.dropPrefix? fence t = none := by
    by_contra hsome
    rcases Option.ne_none_iff_exists'.1 hsome with ⟨r, hr⟩
    exact h ⟨r, (Text.dropPrefix?_eq_some_iff.1 hr).symm⟩
  rw [unfenced, hnone]

/-- After an opening fence, the text of the next lines is left but for blanks and
    backticks at its end. -/
theorem exists_unfenced_append (r : Text) :
    ∃ taken, (r.dropWhile (· != '\n')).drop 1 = unfenced (fence ++ r) ++ taken ∧
      '\x7d' ∉ taken := by
  have hopen : Text.dropPrefix? fence (fence ++ r) = some r := Text.dropPrefix?_eq_some_iff.2 rfl
  simp only [unfenced, hopen]
  generalize (r.dropWhile (· != '\n')).drop 1 = body
  rcases Text.exists_dropEndWhile_append isBlank body with ⟨gap, hgap, heq⟩
  cases hclose : Text.dropSuffix? fence (Text.trimEnd body) with
  | none => exact ⟨[], (List.append_nil _).symm, List.not_mem_nil⟩
  | some kept =>
    refine ⟨fence ++ gap, ?_, ?_⟩
    · rw [Option.getD_some, ← List.append_assoc, ← Text.dropSuffix?_eq_some_iff.1 hclose]
      exact heq
    · rw [List.mem_append, not_or]
      exact ⟨by decide, (notMem_of_isBlank hgap).2⟩

/-- Taking off fences leaves an object whole, if the line that opens a fence ends
    before it. -/
theorem encloses_unfenced {front object back : Text} (hobject : IsBraced object)
    (hfront : '\x7b' ∉ front) (hback : '\x7d' ∉ back) (hline : fence <+: front → '\n' ∈ front) :
    Encloses (unfenced (front ++ object ++ back)) object := by
  by_cases hfence : fence <+: front
  · have hmem : '\n' ∈ front := hline hfence
    rcases hfence with ⟨info, rfl⟩
    rcases List.eq_append_cons_of_mem ((List.mem_append.1 hmem).resolve_left (by decide)) with
      ⟨line, before, rfl, hshort⟩
    -- The line of the fence goes, and with it no more than a part of what is in front.
    have hdrop : ((line ++ '\n' :: before ++ object ++ back).dropWhile (· != '\n')).drop 1
        = before ++ object ++ back := by
      rw [List.append_assoc, List.append_assoc, List.cons_append, ← List.append_assoc before,
        dropWhile_ne_append_cons hshort]
      rfl
    rcases exists_unfenced_append (line ++ '\n' :: before ++ object ++ back) with
      ⟨taken, hkept, htaken⟩
    rw [hdrop] at hkept
    rcases hobject.exists_of_append_eq hkept htaken with ⟨back', heq, rfl⟩
    refine ⟨before, back', ?_, ?_, fun hmem => hback (List.mem_append_left _ hmem)⟩
    · rw [← heq]
      simp only [List.append_assoc]
    · exact fun hmem => hfront (List.mem_append_right _ (List.mem_append_right _
        (List.mem_cons_of_mem _ hmem)))
  · -- A fence does not reach over the brace that opens the object.
    have hopen : ¬ fence <+: front ++ object ++ back := by
      rcases hobject.exists_cons with ⟨rest, rfl, -⟩
      rw [List.append_assoc, List.cons_append]
      exact fun h => hfence (Text.isPrefix_of_append_cons (by decide) h)
    rw [unfenced_of_not_isPrefix hopen]
    exact ⟨front, back, rfl, hfront, hback⟩

/-- After an opening fence whose line does not end before an object, what is found
    is at most an end of the object. -/
theorem exists_of_swallows {front object back found : Text} (hobject : IsBraced object)
    (hback : '\x7d' ∉ back) (hfence : fence <+: front) (hline : '\n' ∉ front)
    (hfound : object? (unfenced (front ++ object ++ back)) = some found) :
    ∃ lost, object = '\x7b' :: lost ++ found ∧ IsBraced found := by
  rcases hfence with ⟨info, rfl⟩
  rcases object?_eq_some_iff.1 hfound with ⟨hbraced, before, after, heq, -, hafter⟩
  rcases hobject.exists_cons with ⟨tail, rfl, htail⟩
  -- All up to the brace goes with the fence.
  have hdrop : (info ++ '\x7b' :: tail ++ back).dropWhile (· != '\n')
      = (tail ++ back).dropWhile (· != '\n') := by
    have hinfo : ∀ c ∈ info, (c != '\n') = true := fun c hc =>
      bne_iff_ne.2 fun heq => hline (List.mem_append_right _ (heq ▸ hc))
    rw [List.append_assoc, List.dropWhile_append_of_pos hinfo, List.cons_append,
      List.dropWhile_cons_of_pos (by decide)]
  rcases exists_unfenced_append (info ++ '\x7b' :: tail ++ back) with ⟨taken, hkept, htaken⟩
  have hsuffix : before ++ found ++ after ++ taken <:+ tail ++ back := by
    rw [← heq, List.append_assoc fence, List.append_assoc fence, ← hkept, hdrop]
    exact (List.drop_suffix _ _).trans (List.dropWhile_suffix _)
  rcases hsuffix with ⟨lost, hlost⟩
  have hwhole : (lost ++ before) ++ found ++ (after ++ taken) = tail ++ back := by
    rw [← hlost]
    simp only [List.append_assoc]
  rcases hbraced.exists_of_append_eq hwhole hback with ⟨back', rfl, hrest⟩
  -- The object ends with a brace, and there is none after what is found.
  rcases back'.eq_nil_or_concat with rfl | ⟨run, c, rfl⟩
  · refine ⟨lost ++ before, ?_, hbraced⟩
    rw [List.append_nil, List.cons_append]
  · rw [List.concat_eq_append, ← List.append_assoc, List.getLast?_concat, Option.some_inj] at htail
    have hmem : '\x7d' ∈ after ++ taken := by
      rw [hrest, htail, List.concat_eq_append]
      exact List.mem_append_left _ (List.mem_append_right _ List.mem_cons_self)
    exact absurd hmem (by rw [List.mem_append, not_or]; exact ⟨hafter, htaken⟩)

/-- A diagram is not read after an opening fence whose line does not end before
    it. -/
theorem read_of_swallows {front object back : Text} {d : Diagram} (hobject : IsBraced object)
    (hread : Diagram.parse? object = .ok d) (hback : '\x7d' ∉ back) (hfront : Swallows front) :
    ∃ reason, Completion.read (front ++ object ++ back) = .error (.unusable reason) := by
  have herror : ∃ fault, diagram? (front ++ object ++ back) = .error fault := by
    rcases exists_trim_append hobject front back with ⟨back', htrim, hless⟩
    unfold diagram?
    split
    · exact ⟨_, rfl⟩
    · rename_i found hfound
      rw [htrim] at hfound
      rcases exists_of_swallows hobject (fun hmem => hback (hless.subset hmem)) hfront.1 hfront.2
        hfound with ⟨lost, rfl, hbraced⟩
      rcases hbraced.exists_cons with ⟨rest, rfl, -⟩
      -- The object is a value, so an end of it is none.
      have hnone : Json.parse? ('\x7b' :: rest) = none := by
        rcases hvalue : Json.parse? ('\x7b' :: lost ++ '\x7b' :: rest) with _ | v
        · rw [Diagram.parse?, hvalue] at hread
          cases hread
        · exact Json.parse?_eq_none_of_isSuffix hvalue
      split_ifs
      · exact ⟨_, rfl⟩
      · rw [Diagram.parse?, hnone]
        exact ⟨_, rfl⟩
  rcases herror with ⟨fault, hfault⟩
  exact ⟨fault.message, by rw [Completion.read, hfault]; rfl⟩

/-- A diagram with text around it is read. -/
theorem read_of_not_swallows {front object back : Text} {d : Diagram} (hobject : IsBraced object)
    (hsize : minCompletionSize ≤ object.size) (hread : Diagram.parse? object = .ok d)
    (hnodes : d.nodes ≠ []) (hopen : '\x7b' ∉ front) (hback : '\x7d' ∉ back)
    (hfront : ¬ Swallows front) : Completion.read (front ++ object ++ back) = .ok d := by
  rcases exists_trim_append hobject front back with ⟨back', htrim, hless⟩
  have henclosed : Encloses (unfenced (front ++ object ++ back).trim) object := by
    rw [htrim]
    refine encloses_unfenced hobject ?_ (fun hmem => hback (hless.subset hmem)) ?_
    · exact fun hmem => hopen ((List.dropWhile_suffix _).subset hmem)
    · exact fun hfence => by_contra fun hline => hfront ⟨hfence, hline⟩
  have hdiagram : diagram? (front ++ object ++ back) = .ok d := by
    simp only [diagram?, object?_eq_some_iff.2 ⟨hobject, henclosed⟩, hread,
      if_neg (Nat.not_lt.2 hsize), List.isEmpty_eq_false_iff.2 hnodes]
    rfl
  rw [Completion.read, hdiagram]
  rfl

/-- A diagram is read from a completion whatever is around it, as long as there is
    no opening brace before and no closing brace after it, unless its first line is
    swallowed by the line of an opening fence. Then nothing is read. -/
theorem read_append {front object back : Text} {d : Diagram} (hobject : IsBraced object)
    (hsize : minCompletionSize ≤ object.size) (hread : Diagram.parse? object = .ok d)
    (hnodes : d.nodes ≠ []) (hopen : '\x7b' ∉ front) (hback : '\x7d' ∉ back) :
    (¬ Swallows front → Completion.read (front ++ object ++ back) = .ok d) ∧
      (Swallows front →
        ∃ reason, Completion.read (front ++ object ++ back) = .error (.unusable reason)) :=
  ⟨read_of_not_swallows hobject hsize hread hnodes hopen hback,
    read_of_swallows hobject hread hback⟩

/-- A diagram is read after a fence with the language on its line. -/
theorem read_append_fenced :
    let object : Text := "\x7b\"nodes\":[\x7b\"id\":\"a\"\x7d]\x7d".toList
    let d : Diagram := { nodes := [{ id := ['a'] }] }
    let front : Text := "\n\x60\x60\x60json\n".toList
    let back : Text := "\n\x60\x60\x60\nAnything else?".toList
    IsBraced object ∧ minCompletionSize ≤ object.size ∧ Diagram.parse? object = .ok d ∧
      d.nodes ≠ [] ∧ '\x7b' ∉ front ∧ '\x7d' ∉ back ∧ ¬ Swallows front ∧
      Completion.read (front ++ object ++ back) = .ok d := by
  intro object d front back
  have hobject : IsBraced object := by decide
  have hsize : minCompletionSize ≤ object.size := by decide
  have hread : Diagram.parse? object = .ok d := by decide +kernel
  have hnodes : d.nodes ≠ [] := List.cons_ne_nil _ _
  have hopen : '\x7b' ∉ front := by decide
  have hback : '\x7d' ∉ back := by decide
  have hfront : ¬ Swallows front := by decide
  exact ⟨hobject, hsize, hread, hnodes, hopen, hback, hfront,
    (read_append hobject hsize hread hnodes hopen hback).1 hfront⟩

/-- A diagram on the line of the fence is swallowed. -/
theorem read_append_sameLine :
    let object : Text := "\x7b\"nodes\":[\x7b\"id\":\"a\"\x7d]\x7d".toList
    let d : Diagram := { nodes := [{ id := ['a'] }] }
    let front : Text := "\x60\x60\x60json ".toList
    let back : Text := "\n\x60\x60\x60".toList
    IsBraced object ∧ minCompletionSize ≤ object.size ∧ Diagram.parse? object = .ok d ∧
      d.nodes ≠ [] ∧ '\x7b' ∉ front ∧ '\x7d' ∉ back ∧
      Completion.read (front ++ object ++ back)
        = .error (.unusable "no JSON object in completion".toList) := by
  intro object d front back
  exact ⟨by decide, by decide, by decide +kernel, List.cons_ne_nil _ _, by decide, by decide,
    by decide +kernel⟩

end Completion

end Flowchart
