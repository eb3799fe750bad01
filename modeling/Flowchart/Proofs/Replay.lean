import Flowchart.Proofs.Round

/-!
# The Log as a Record

The properties of a build are read off its log, so the log has to be right about
those the build works with. `Engine.submit_eq` and `Engine.consult_eq` say so of a
single step: an event goes into the log together with the call that it is about.
Here the same is said of a whole run.

It is not enough that every event in the log agrees with some call that could be
made. The call has to be one that the build did make, in a world that it had come
to, and no other call may be missing from the log. Both come out of replaying the
log. Begun in the world that the build begins in, with every event made to happen
in turn, it leads to the world that the build ends in. An answer that was never
given could not be replayed, and a call that was left out would be missing from the
worlds after it.

One thing that changes the world is not logged, which is looking up examples. A
replay may do that between any two events.

## Main definitions

* `Engine.Happens`: What an event makes of a world.
* `Engine.Replays`: A log leads from one world to another.
* `Engine.IsRecorded`: The log of a build so far leads to its world.
* `Engine.Occurs`: Replaying a log comes to an event in some world.

## Theorems

* `Engine.Replays.exists_happens`: Every event of a log happens where the replay
  comes to it.
* `Engine.isRecorded_round`: A round keeps the log a record.
* `Engine.replays_solve`: Every build can be replayed.
* `Engine.exists_validate_of_mem`, `Engine.exists_ask_of_mem`: Every verdict and
  every reply in the log was given during the build.
-/

namespace Flowchart

namespace Engine

variable {σ : Type} (e : Engine σ)

/-- What an event makes of a world. Printing and repairing are nobody else's
    business and leave it as it is. -/
def Happens : Event → σ → σ → Prop
  | .printed _ _, w, w' => w' = w
  | .asked r reply, w, w' => e.ask r w = (reply, w')
  | .validated t v, w, w' => e.validate t w = (v, w')
  | .repaired _ _, w, w' => w' = w
  | .recorded x, w, w' => e.remembers = true ∧ w' = e.record x w

/-- A log leads from one world to another if its events happen in turn, where
    examples may be looked up before and after any of them. -/
inductive Replays (world : σ) : List Event → σ → Prop where
  | start : Replays world [] world
  | looked {log : List Event} {w : σ} (h : Replays world log w)
      (hmemory : e.remembers = true) : Replays world log (e.recent examplesPerRequest w).2
  | happened {log : List Event} {event : Event} {w w' : σ} (h : Replays world log w)
      (hevent : e.Happens event w w') : Replays world (log ++ [event]) w'

/-- The log of a build so far leads to the world that the build has come to. -/
def IsRecorded (world : σ) (p : Progress σ) : Prop := e.Replays world p.log p.world

/-- Replaying a log comes to an event in some world. -/
def Occurs (world : σ) (log : List Event) (event : Event) (w : σ) : Prop :=
  ∃ before, before ++ [event] <+: log ∧ e.Replays world before w

variable {e} {world : σ} {p q : Progress σ}

/-! ### What can be read off a replay -/

/-- Every event of a log happens in a world that what is before it leads to. -/
theorem Replays.exists_happens {before after : List Event} {event : Event} {w' : σ}
    (h : e.Replays world (before ++ event :: after) w') :
    ∃ w w'', e.Replays world before w ∧ e.Happens event w w'' := by
  generalize hlog : before ++ event :: after = log at h
  induction h generalizing after with
  | start => exact absurd hlog (by simp only [List.append_eq_nil_iff, reduceCtorEq, and_false,
      not_false_eq_true])
  | looked _ _ ih => exact ih hlog
  | @happened log' last w w'' h' hlast ih =>
    -- Either the event is the last one, or it is in the log without the last one.
    rcases List.eq_nil_or_concat after with rfl | ⟨after', last', rfl⟩
    · rcases List.append_inj' hlog rfl with ⟨rfl, hevent⟩
      rw [List.singleton_inj.1 hevent]
      exact ⟨w, w'', h', hlast⟩
    · rw [List.concat_eq_append, ← List.cons_append, ← List.append_assoc] at hlog
      exact ih (List.append_inj' hlog rfl).1

theorem Replays.exists_occurs {log : List Event} {event : Event} {w' : σ}
    (h : e.Replays world log w') (hevent : event ∈ log) :
    ∃ w w'', e.Occurs world log event w ∧ e.Happens event w w'' := by
  rcases List.append_of_mem hevent with ⟨before, after, rfl⟩
  rcases h.exists_happens with ⟨w, w'', hbefore, hhappens⟩
  exact ⟨w, w'', ⟨before, ⟨after, (List.append_cons _ _ _).symm⟩, hbefore⟩, hhappens⟩

/-! ### Steps -/

theorem isRecorded_submit {t : Text} {v : Verdict} (h : e.IsRecorded world p)
    (hsubmit : e.submit t p = (v, q)) : e.IsRecorded world q := by
  rcases submit_eq hsubmit with ⟨-, -, rfl⟩ | ⟨w, hvalidate, rfl⟩
  · exact h
  · exact .happened h hvalidate

theorem isRecorded_consult {r : Request} {x : Except BuildError Diagram}
    (h : e.IsRecorded world p) (hconsult : e.consult r p = (x, q)) : e.IsRecorded world q := by
  rcases consult_eq hconsult with ⟨-, -, rfl⟩ | ⟨reply, w, hask, -, rfl⟩
  · exact h
  · exact .happened h hask

/-! `Progress.Records` does not say what becomes of the world, so what the memory
does is looked at once more. -/

theorem isRecorded_remember (x : Example) (h : e.IsRecorded world p) :
    e.IsRecorded world (e.remember x p) := by
  unfold remember
  split
  · rename_i hremembers
    exact .happened h ⟨hremembers, rfl⟩
  · exact h

theorem isRecorded_settleFix (t : Text) (h : e.IsRecorded world p) :
    e.IsRecorded world (e.settleFix t p) := by
  have hsettled : e.IsRecorded world { p with pendingFix := none } := h
  unfold settleFix
  split
  · exact isRecorded_remember _ hsettled
  · exact h

/-- The one change of the world that the log does not show. -/
theorem isRecorded_examples {examples : List Example} (h : e.IsRecorded world p)
    (hexamples : e.examples p = (examples, q)) : e.IsRecorded world q := by
  unfold Engine.examples at hexamples
  split at hexamples
  · rename_i hmemory
    rw [Prod.mk.injEq] at hexamples
    rw [← hexamples.2]
    exact .looked h hmemory
  · rw [Prod.mk.injEq] at hexamples
    rw [← hexamples.2]
    exact h

/-- A step of the build itself is logged and leaves the world alone. -/
theorem isRecorded_takeRepair {k : RepairKind} {c : Diagram} {ended : Ended σ → Prop}
    (h : e.IsRecorded world p) : (takeRepair k c p).Holds (e.IsRecorded world) ended :=
  .happened h rfl

/-! ### One round -/

/-- The ways to end are not logged. -/
theorem isRecorded_stop (h : e.IsRecorded world p) (err : BuildError) :
    e.IsRecorded world (p.stop err).2 :=
  Progress.stop_cases (motive := fun r => e.IsRecorded world r.2) (fun _ _ _ _ => h)
    (fun _ _ _ => h) fun _ => h

theorem isRecorded_exhausted (h : e.IsRecorded world p) : e.IsRecorded world p.exhausted.2 :=
  Progress.exhausted_cases (motive := fun r => e.IsRecorded world r.2) (fun _ _ => h) fun _ => h

theorem isRecorded_askAgain {g : Goal} {r : Request} (h : e.IsRecorded world p) :
    (e.askAgain g r p).Holds (e.IsRecorded world) fun r => e.IsRecorded world r.2 := by
  have hcounted : e.IsRecorded world { p with iterations := p.iterations + 1 } := h
  refine e.askAgain_cases (fun d q hconsult => ?_) fun err q hconsult => ?_
  · have hq := isRecorded_consult hcounted hconsult
    exact hq
  · exact isRecorded_stop (isRecorded_consult hcounted hconsult) err

theorem isRecorded_accept {g : Goal} {d : Diagram} {t : Text} (h : e.IsRecorded world p) :
    (e.accept g d t p).Holds (e.IsRecorded world) fun r => e.IsRecorded world r.2 := by
  have hsettled : e.IsRecorded world { e.settleFix t p with accepted := some d } :=
    isRecorded_settleFix t h
  refine e.accept_cases (fun _ => ?_) fun excerpt target _ => ?_
  · exact hsettled
  · exact isRecorded_askAgain hsettled

theorem isRecorded_reject {g : Goal} {c d : Diagram} {t : Text} {report : Report} {r : Objection}
    (h : e.IsRecorded world p) :
    (e.reject g c d t report r p).Holds (e.IsRecorded world) fun r => e.IsRecorded world r.2 := by
  have hblamed : e.IsRecorded world (blameRejection r report p) := h
  refine e.reject_cases (fun k c' _ => isRecorded_takeRepair hblamed)
    (fun examples q hexamples _ => ?_) fun _ => isRecorded_exhausted hblamed
  have hnoted : e.IsRecorded world (e.noteFailure { error := r.message, invalid := t }
      (blameRejection r report p)) := isRecorded_remember _ hblamed
  exact isRecorded_askAgain (isRecorded_examples hnoted hexamples)

/-- A round keeps the log a record, whether it goes on or ends. -/
theorem isRecorded_round {g : Goal} (c : Diagram) (p : Progress σ) (h : e.IsRecorded world p) :
    (e.round g c p).Holds (e.IsRecorded world) fun r => e.IsRecorded world r.2 := by
  have hpresent : e.IsRecorded world (e.present c p) := .happened h rfl
  refine e.round_cases (fun k c' _ _ => isRecorded_takeRepair hpresent)
    (fun q hsubmit => isRecorded_accept (isRecorded_submit hpresent hsubmit))
    (fun r q hsubmit => isRecorded_reject (isRecorded_submit hpresent hsubmit))
    fun q hsubmit => isRecorded_stop (isRecorded_submit hpresent hsubmit) _

/-! ### A run -/

variable (e)

/-- Every build can be replayed from its log, up to the world that it ends in. -/
theorem replays_solve (s : Seed) (g : Goal) (world : σ) :
    e.Replays world (e.solve s g world).2.log (e.solve s g world).2.world := by
  have hstart : e.IsRecorded world { world } := .start
  have hsolve : e.IsRecorded world (e.solve s g world).2 := by
    refine e.solve_induction isRecorded_round hstart
      (fun r d q hconsult => ?_) fun r err q hconsult => ?_
    · exact isRecorded_consult hstart hconsult
    · exact isRecorded_stop (isRecorded_consult hstart hconsult) err
  exact hsolve

/-- Every verdict in the log is what the validator said of the text, when the
    build had come to that point of the log. -/
theorem exists_validate_of_mem {s : Seed} {g : Goal} {t : Text} {v : Verdict}
    (h : .validated t v ∈ (e.solve s g world).2.log) :
    ∃ w, e.Occurs world (e.solve s g world).2.log (.validated t v) w ∧
      (e.validate t w).1 = v := by
  rcases (e.replays_solve s g world).exists_occurs h with ⟨w, w', hoccurs, hvalidate⟩
  exact ⟨w, hoccurs, congrArg Prod.fst hvalidate⟩

/-- Every reply in the log is what the generator said to the request. -/
theorem exists_ask_of_mem {s : Seed} {g : Goal} {r : Request} {reply : Reply}
    (h : .asked r reply ∈ (e.solve s g world).2.log) :
    ∃ w, e.Occurs world (e.solve s g world).2.log (.asked r reply) w ∧
      (e.ask r w).1 = reply := by
  rcases (e.replays_solve s g world).exists_occurs h with ⟨w, w', hoccurs, hask⟩
  exact ⟨w, hoccurs, congrArg Prod.fst hask⟩

end Engine

end Flowchart
