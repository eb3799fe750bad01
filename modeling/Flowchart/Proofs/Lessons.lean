import Flowchart.Proofs.Chronicle

/-!
# What Is Learned From a Build

A build with a memory records every failure that it could not repair, just before
it asks the generator to refine. When a text is accepted later on, the failure is
recorded once more, with that text as its fix.

Between the two there may be repairs, rejections of other texts and further
requests, and the failure that waits for its fix has to be the right one when the
text is accepted. What the log says of it is the failure recorded last, as long as
no fix has been recorded after it. Since every request to refine comes with a
recording, nothing recorded after a failure means no request after the one that it
led to. So the failure that is paired with the text is that of the most recent
request, and recording the pair settles it.

## Theorems

* `Standing.pending_after`: Which failure waits for its fix.
* `Engine.IsChronicle.refined`: What comes before a request to refine.
* `Engine.IsChronicle.recorded`: What comes after a failure.
* `Engine.IsChronicle.neverRefines`: Without a recording there is no such request.
* `Engine.IsChronicle.settled`: What comes before a fix.
* `Engine.solve_recorded`: Failures, requests to refine and fixes in a build.
-/

namespace Flowchart

/-- The failure that waits for its fix was recorded without one, and nothing was
    recorded after it. -/
theorem Standing.pending_after {s : Seed} {g : Goal} {log : List Event} {x : Example}
    (h : (after s g log).pending = some x) :
    x.fixed = none ∧ ∃ earlier between, log = earlier ++ .recorded x :: between ∧
      ∀ y, .recorded y ∉ between := by
  induction log using List.reverseRecOn with
  | nil => exact absurd h (by simp only [after, List.foldl_nil, reduceCtorEq, not_false_eq_true])
  | append_singleton log event ih =>
    rw [after_concat] at h
    -- Any other event than a recording leaves the failure where it was.
    have hother : (after s g log).pending = some x → (∀ y, .recorded y ≠ event) →
        x.fixed = none ∧ ∃ earlier between, log ++ [event] = earlier ++ .recorded x :: between ∧
          ∀ y, .recorded y ∉ between := by
      intro hbefore hevent
      rcases ih hbefore with ⟨hx, earlier, between, rfl, hquiet⟩
      refine ⟨hx, earlier, between ++ [event], List.append_assoc .., fun y hy => ?_⟩
      rcases List.mem_append.1 hy with hy | hy
      · exact hquiet y hy
      · exact hevent y (List.mem_singleton.1 hy)
    cases event with
    | recorded y =>
      rw [enter] at h
      dsimp only at h
      split at h
      · rename_i hy
        rw [← Option.some.inj h]
        exact ⟨hy, log, [], rfl, fun _ => List.not_mem_nil⟩
      · exact absurd h (by simp only [reduceCtorEq, not_false_eq_true])
    | printed | asked | validated | repaired =>
      exact hother h fun _ heq => Event.noConfusion heq

namespace Engine

open Progress

variable {σ : Type} {e : Engine σ} {s : Seed} {g : Goal} {before between rest : List Event}
  {r : RefineRequest} {reply : Reply}

/-- Before a request to refine, a text was rejected and that was recorded. The
    request says what the validator had against it. -/
theorem IsChronicle.refined (hmemory : e.remembers = true)
    (h : e.IsChronicle s g (before ++ .asked (.refine r) reply :: rest)) :
    ∃ earlier t o, r.error = o.message ∧
      before = earlier ++ [.validated t (some (.error o)), .recorded (Event.failure t o)] := by
  cases h.follows with
  | @refined d t o _ _ hlast hdiagram herror =>
    rw [note, if_pos hmemory] at hlast
    rcases hlast with ⟨earlier, rfl⟩
    exact ⟨earlier ++ [.printed d t], t, o, herror, by rw [List.append_assoc]; rfl⟩

/-- A failure that was recorded is what the next request is about. -/
theorem IsChronicle.recorded (hmemory : e.remembers = true) {x : Example} {next : Event}
    (h : e.IsChronicle s g (before ++ .recorded x :: next :: rest)) (hx : x.fixed = none) :
    ∃ r reply, next = .asked (.refine r) reply ∧ r.error = x.error := by
  rw [List.append_cons] at h
  rcases h.follows.of_recorded hx with ⟨r, reply, rfl⟩
  rcases h.refined hmemory with ⟨earlier, t, o, herror, heq⟩
  have hlast : [.recorded (Event.failure t o)] <:+ before ++ [.recorded x] :=
    ⟨earlier ++ [.validated t (some (.error o))], by rw [heq, List.append_assoc]; rfl⟩
  have hfailure : Event.failure t o = x :=
    Event.recorded.inj (last_eq hlast (List.cons_ne_nil _ _))
  exact ⟨r, reply, rfl, by rw [herror, ← hfailure]; rfl⟩

/-- As long as nothing is recorded, there is no further request to refine. -/
theorem IsChronicle.neverRefines (hmemory : e.remembers = true)
    (h : e.IsChronicle s g (before ++ .asked (.refine r) reply :: between))
    (hquiet : ∀ y, .recorded y ∉ between) : NeverRefines between := by
  intro q reply' hmem
  rcases List.append_of_mem hmem with ⟨front, more, rfl⟩
  rw [← List.cons_append, ← List.append_assoc] at h
  rcases h.refined hmemory with ⟨earlier, t, o, -, heq⟩
  -- The recording before the second request would have to be between the two.
  have hlast : [.recorded (Event.failure t o)] <:+ before ++ .asked (.refine r) reply :: front :=
    ⟨earlier ++ [.validated t (some (.error o))], by rw [heq, List.append_assoc]; rfl⟩
  rcases exists_concat_of_last hlast Event.noConfusion with ⟨front, rfl⟩
  exact hquiet (Event.failure t o)
    (List.mem_append_left _ (List.mem_append_right _ (List.mem_singleton_self _)))

/-- Before a fix is recorded, its text was accepted. The failure is the one of the
    most recent request to refine, and nothing was recorded since. -/
theorem IsChronicle.settled (hmemory : e.remembers = true) {x : Example} {t : Text}
    (h : e.IsChronicle s g (before ++ .recorded x :: rest)) (hx : x.fixed = some t) :
    ∃ earlier r reply between,
      before = earlier ++ .recorded { x with fixed := none } :: .asked (.refine r) reply :: between
        ++ [.validated t (some (.ok ()))] ∧
      r.error = x.error ∧ NeverRefines between ∧ ∀ y, .recorded y ∉ between := by
  cases h.follows with
  | noted => exact absurd hx.symm (Option.some_ne_none t)
  | @settled d t' y _ hlast hpending =>
    rw [← Option.some.inj hx]
    rcases Standing.pending_after hpending with ⟨hy, earlier, between, rfl, hquiet⟩
    have hfailure : { y with fixed := none } = y := by rw [← hy]
    -- Behind the failure there are the request that it led to and, at the end, the verdict.
    rcases exists_concat_of_last ((Event.validated_suffix_submission _ _ _).trans hlast)
      Event.noConfusion with ⟨between, rfl⟩
    rcases between with _ | ⟨next, between⟩
    · rcases h.of_append.recorded hmemory hy with ⟨r, reply, heq, -⟩
      cases heq
    · have hchronicle := h.of_append
      rw [List.cons_append] at hchronicle
      rcases hchronicle.recorded hmemory hy with ⟨r, reply, rfl, herror⟩
      have hsince : ∀ z, .recorded z ∉ between := fun z hz =>
        hquiet z (List.mem_append_left _ (List.mem_cons_of_mem _ hz))
      rw [List.append_cons, ← List.cons_append, ← List.append_assoc] at hchronicle
      refine ⟨earlier, r, reply, between, ?_, herror,
        hchronicle.of_append.neverRefines hmemory hsince, hsince⟩
      rw [hfailure, List.append_assoc]
      rfl

variable (e)

/-- In a build with a memory that is not cancelled, every request to refine comes
    right after the recording of the failure that leads to it, and every recording
    of a failure right before such a request: what was recorded is the text that
    had just been rejected and what the validator had against it. A fix is recorded
    only right after its text was accepted. What it fixes is the failure of the most
    recent request to refine, and nothing has been recorded since, so there is no
    second fix. -/
theorem solve_recorded (s : Seed) (g : Goal) (world : σ)
    (h : ¬ Ended.IsCancelled (e.solve s g world)) (hmemory : e.remembers = true) :
    (∀ before r reply rest,
      (e.solve s g world).2.log = before ++ .asked (.refine r) reply :: rest →
      ∃ earlier t o, r.error = o.message ∧ before = earlier ++
        [.validated t (some (.error o)), .recorded { error := o.message, invalid := t }]) ∧
    (∀ before x rest, (e.solve s g world).2.log = before ++ .recorded x :: rest →
      x.fixed = none → ∃ r reply more, rest = .asked (.refine r) reply :: more) ∧
    ∀ before x t rest, (e.solve s g world).2.log = before ++ .recorded x :: rest →
      x.fixed = some t → ∃ earlier r reply between,
        before = earlier ++ .recorded { x with fixed := none } :: .asked (.refine r) reply ::
          between ++ [.validated t (some (.ok ()))] ∧
        r.error = x.error ∧ NeverRefines between ∧ ∀ y, .recorded y ∉ between := by
  have hconcludes := e.concludes_solve s g world
  refine ⟨fun before r reply rest hlog => ?_, fun before x rest hlog hx => ?_,
    fun before x t rest hlog hx => ?_⟩
  · have hchronicle := hconcludes.log
    rw [hlog] at hchronicle
    exact hchronicle.refined hmemory
  · -- A recorded failure is not what a build ends with, so something follows, and it
    -- can only be the request.
    have hpending : (Event.recorded x).isFinal = false := by rw [Event.isFinal, hx]; rfl
    rcases hconcludes.exists_next h hlog hpending with ⟨next, more, rfl, hnext⟩
    rcases hnext.of_recorded hx with ⟨r, reply, rfl⟩
    exact ⟨r, reply, more, rfl⟩
  · have hchronicle := hconcludes.log
    rw [hlog] at hchronicle
    exact hchronicle.settled hmemory hx

/-- A validator rejects the first text that it is given and accepts every other. The
    diagram cannot be repaired, so it is refined, and what the generator answers
    is the fix. -/
theorem solve_recorded_refined :
    let e : Engine (Bool × Memory) :=
      { ask := fun _ w =>
          (some (.ok ⟨"\x7b\"nodes\":[\x7b\"id\":\"a\",\"label\":\"b\"\x7d]\x7d".toList, none⟩), w)
        validate := fun _ w =>
          (some (if w.1 then .ok () else .error ⟨"no".toList, none⟩), true, w.2)
        isCancelled := fun _ => false
        remembers := true
        record := fun x w => (w.1, w.2.record x)
        recent := fun n w => ((w.2.recent n).1, w.1, (w.2.recent n).2) }
    let r := e.solve (.diagram (Diagram.single "a".toList [])) { direction := .down } (false, {})
    ¬ Ended.IsCancelled r ∧ e.remembers = true ∧ ∃ earlier x q reply between t rest,
      r.2.log = earlier ++ .recorded { x with fixed := none } :: .asked (.refine q) reply ::
        between ++ [.validated t (some (.ok ()))] ++ .recorded x :: rest ∧
      x.fixed = some t ∧ q.error = x.error := by
  intro e r
  have hlive : ¬ Ended.IsCancelled r := solve_of_neverCancels
    ⟨fun _ => rfl, fun _ _ => Option.some_ne_none _, fun _ _ => Option.some_ne_none _⟩ _ _ _
  have hrounds : (e.rounds { direction := .down } 2 (e.opening
      (.diagram (Diagram.single "a".toList [])) { direction := .down } (false, {}))).Holds
      (fun _ => False) fun r => (r.2.log.any fun
        | .recorded x => x.fixed.isSome
        | _ => false) = true := by
    decide +kernel
  have hfix : (r.2.log.any fun
      | .recorded x => x.fixed.isSome
      | _ => false) = true := e.solve_of_rounds hrounds
  rcases List.any_eq_true.1 hfix with ⟨event, hmem, hevent⟩
  have hrecorded : ∃ x t, event = .recorded x ∧ x.fixed = some t := by
    cases event with
    | recorded x =>
      rcases Option.isSome_iff_exists.1 hevent with ⟨t, ht⟩
      exact ⟨x, t, rfl, ht⟩
    | printed | asked | validated | repaired => exact Bool.noConfusion hevent
  rcases hrecorded with ⟨x, t, rfl, ht⟩
  rcases List.append_of_mem hmem with ⟨before, rest, hlog⟩
  rcases (e.solve_recorded _ _ _ hlive rfl).2.2 before x t rest hlog ht with
    ⟨earlier, q, reply, between, rfl, herror, -⟩
  exact ⟨hlive, rfl, earlier, x, q, reply, between, t, rest, hlog, ht, herror⟩

end Engine

end Flowchart
