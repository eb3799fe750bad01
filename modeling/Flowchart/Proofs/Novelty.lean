import Flowchart.Proofs.Chronicle

/-!
# Repairs Lead to New Texts

A repair is taken only if it leads to a text that has not been printed before.
Whether it does is decided before the repaired candidate is looked at, by a text
that is printed for no other purpose. So two things are to be shown: that the text
printed afterwards is that one, and that none of the texts printed before is
missing from those it is compared with.

Both are read off the chronicle. After a repair comes the canonical form of the
repaired candidate, and the texts that the log knows of are those that were
printed. What is submitted has been printed just before, so a text that is new to
the printer is new to the validator.

The repairs that the log counts start again from zero with every request, and one
more is taken only below the limit. So in any part of the log without a request
there are no more of them than that.

## Theorems

* `Standing.mem_texts_after`: The texts that a log knows of.
* `Standing.length_repairs_le`: The repairs that it counts.
* `Engine.IsChronicle.exists_printed`: What was submitted was printed before.
* `Engine.IsChronicle.repairs_le`: The limit of repairs is kept.
* `Engine.solve_repaired`: Every repair leads to a new text, and there are only so
  many of them between two requests.
-/

namespace Flowchart

namespace Standing

variable {s : Seed} {g : Goal}

/-- The texts that a log knows of are those that were printed. -/
theorem mem_texts_after {log : List Event} {t : Text} :
    t ∈ (after s g log).texts ↔ ∃ d, .printed d t ∈ log := by
  induction log using List.reverseRecOn with
  | nil =>
    refine iff_of_false List.not_mem_nil ?_
    rintro ⟨d, h⟩
    exact List.not_mem_nil h
  | append_singleton log event ih =>
    have hlast : (∃ d, .printed d t ∈ log ++ [event]) ↔
        (∃ d, .printed d t ∈ log) ∨ ∃ d, .printed d t = event := by
      rw [← exists_or]
      exact exists_congr fun d => by rw [List.mem_append, List.mem_singleton]
    rw [after_concat, hlast, ← ih]
    cases event with
    | printed d u =>
      -- A printed text is known from then on, with whatever diagram it goes.
      rw [enter, List.mem_cons, or_comm]
      refine or_congr_right ⟨fun h => ⟨d, by rw [h]⟩, ?_⟩
      rintro ⟨d', h⟩
      exact (Event.printed.inj h).2
    | asked | validated | repaired | recorded =>
      -- The others add no text, and none of them is a printing.
      refine (or_iff_left ?_).symm
      rintro ⟨d, h⟩
      exact Event.noConfusion h

/-- The repairs that a log counts are all that were taken since the last
    request. -/
theorem length_repairs_le (before : List Event) {stretch : List Event}
    (h : ∀ event ∈ stretch, event.isCall = false) :
    (stretch.filterMap Event.repair?).length ≤ (after s g (before ++ stretch)).repairs := by
  induction stretch using List.reverseRecOn with
  | nil => exact Nat.zero_le _
  | append_singleton stretch event ih =>
    have hrest := ih fun event' hevent => h event' (List.mem_append_left _ hevent)
    rw [Lint.Survey.filterMap_concat, List.length_append, ← List.append_assoc, after_concat]
    cases event with
    | asked r reply =>
      -- The count starts again at a request, which the stretch does not have.
      exact Bool.noConfusion (h _ (List.mem_append_right _ (List.mem_singleton_self _)))
    | repaired k c => exact Nat.succ_le_succ hrest
    | printed | validated | recorded => exact hrest

end Standing

namespace Engine

variable {σ : Type} {e : Engine σ} {s : Seed} {g : Goal}

/-- What was submitted was printed before. -/
theorem IsChronicle.exists_printed {log : List Event} (h : e.IsChronicle s g log) {t : Text}
    {v : Verdict} (hmem : .validated t v ∈ log) : ∃ d, .printed d t ∈ log := by
  rcases List.append_of_mem hmem with ⟨before, rest, rfl⟩
  cases h.follows with
  | validated hlast =>
    exact ⟨_, List.mem_append_left _ (hlast.subset (List.mem_singleton_self _))⟩

/-- The limit of repairs is kept. -/
theorem IsChronicle.repairs_le {log : List Event} (h : e.IsChronicle s g log) :
    (Standing.after s g log).repairs ≤ e.settings.limits.maxRepairs := by
  induction h with
  | nil => exact Nat.zero_le _
  | @concat log event h hnext ih =>
    rw [Standing.after_concat]
    -- A repair is taken only while there is room, and a request sets the count back.
    cases hnext with
    | repaired _ hroom => exact hroom
    | outlined | refined | expanded => exact Nat.zero_le _
    | printed | validated | noted | settled => exact ih

/-- A repair is followed by the text of the repaired candidate. It is submitted, and
    it was neither printed nor submitted before. -/
theorem Concludes.repaired {r : Ended σ} (h : e.Concludes s g r) (hlive : ¬ Ended.IsCancelled r)
    {before rest : List Event} {k : RepairKind} {c : Diagram}
    (hlog : r.2.log = before ++ .repaired k c :: rest) :
    ∃ v more, rest = .printed (e.canonical c) (e.print (e.canonical c)) ::
        .validated (e.print (e.canonical c)) v :: more ∧
      (∀ d, .printed d (e.print (e.canonical c)) ∉ before) ∧
      ∀ w, .validated (e.print (e.canonical c)) w ∉ before := by
  have hchronicle := h.log
  rw [hlog] at hchronicle
  have hnew : ∀ d, .printed d (e.print (e.canonical c)) ∉ before := by
    cases hchronicle.follows with
    | repaired _ _ hnew => exact fun d hmem => hnew (Standing.mem_texts_after.2 ⟨d, hmem⟩)
  rcases h.exists_next hlive hlog rfl with ⟨next, more, rfl, hnext⟩
  -- The build does not end with a repair, and the chronicle leaves no choice of what
  -- comes after one. The same goes for the printing that follows.
  rcases hnext.of_repaired with rfl
  rw [List.append_cons] at hlog
  rcases h.exists_next hlive hlog rfl with ⟨next, more, rfl, hnext⟩
  rcases hnext.of_printed with ⟨v, rfl⟩
  refine ⟨v, more, rfl, hnew, fun w hmem => ?_⟩
  -- What was submitted had been printed, and this text had not.
  rcases hchronicle.of_append.exists_printed hmem with ⟨d, hd⟩
  exact hnew d hd

variable (e)

/-- In a build that is not cancelled, the text of a repaired candidate is the next
    to be printed and to be submitted, and it was neither printed nor submitted
    before. Without a request in between, no more repairs are taken than a
    candidate may go through. -/
theorem solve_repaired (s : Seed) (g : Goal) (world : σ)
    (h : ¬ Ended.IsCancelled (e.solve s g world)) :
    (∀ before k c rest, (e.solve s g world).2.log = before ++ .repaired k c :: rest →
      ∃ t v more, (e.canonical c).text? e.settings.compile = some t ∧
        rest = .printed (e.canonical c) t :: .validated t v :: more ∧
        (∀ d, .printed d t ∉ before) ∧ ∀ w, .validated t w ∉ before) ∧
    ∀ before stretch rest, (e.solve s g world).2.log = before ++ stretch ++ rest →
      (∀ event ∈ stretch, event.isCall = false) →
      (stretch.filterMap Event.repair?).length ≤ e.settings.limits.maxRepairs := by
  have hconcludes := e.concludes_solve s g world
  refine ⟨fun before k c rest hlog => ?_, fun before stretch rest hlog hcall => ?_⟩
  · rcases hconcludes.repaired h hlog with ⟨v, more, hrest, hnew⟩
    exact ⟨_, v, more, e.text?_canonical c, hrest, hnew⟩
  · have hchronicle := hconcludes.log
    rw [hlog] at hchronicle
    exact (Standing.length_repairs_le before hcall).trans hchronicle.of_append.repairs_le

/-- A validator rejects the first text that it is given and accepts every other.
    The group that the node is in is dissolved, and the text without it is the
    second one. -/
theorem solve_repaired_group :
    let e : Engine Bool :=
      { ask := fun _ w => (some (.error (.unavailable [])), w)
        validate := fun _ w => (some (if w then .ok () else .error ⟨"no".toList, none⟩), true)
        isCancelled := fun _ => false
        remembers := false
        record := fun _ w => w
        recent := fun _ w => ([], w) }
    let node : Node := { id := "a".toList, label := "b".toList, group := some "g".toList }
    let r := e.solve (.diagram { nodes := [node] }) { direction := .down } false
    ¬ Ended.IsCancelled r ∧ ∃ before c t v more, (e.canonical c).text? {} = some t ∧
      r.2.log = before ++ .repaired .block c :: .printed (e.canonical c) t ::
        .validated t v :: more ∧
      (∀ d, .printed d t ∉ before) ∧ ∀ w, .validated t w ∉ before := by
  intro e node r
  have hlive : ¬ Ended.IsCancelled r := solve_of_neverCancels
    ⟨fun _ => rfl, fun _ _ => Option.some_ne_none _, fun _ _ => Option.some_ne_none _⟩ _ _ _
  have hrounds : (e.rounds { direction := .down } 2 (e.opening (.diagram { nodes := [node] })
      { direction := .down } false)).Holds (fun _ => False)
      fun r => .block ∈ r.2.log.filterMap Event.repair? := by
    decide +kernel
  have htaken : .block ∈ r.2.log.filterMap Event.repair? := e.solve_of_rounds hrounds
  rcases List.mem_filterMap.1 htaken with ⟨event, hmem, hrepair⟩
  have hevent : ∃ c, event = .repaired .block c := by
    cases event with
    | repaired k c => exact ⟨c, by rw [Option.some.inj hrepair]⟩
    | printed | asked | validated | recorded =>
      exact absurd hrepair (by simp only [Event.repair?, reduceCtorEq, not_false_eq_true])
  rcases hevent with ⟨c, rfl⟩
  rcases List.append_of_mem hmem with ⟨before, rest, hlog⟩
  rcases (e.solve_repaired _ _ _ hlive).1 _ _ _ _ hlog with ⟨t, v, more, htext, rfl, hnew⟩
  exact ⟨hlive, before, c, t, v, more, htext, hlog, hnew⟩

end Engine

end Flowchart
