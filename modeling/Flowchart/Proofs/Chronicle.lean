import Flowchart.Proofs.Account
import Flowchart.Proofs.Lineage

/-!
# The Chronicle of a Build

What a build does next can be read off its log. The log tells which candidate is
to be printed, which texts have been printed before, how many repairs the
candidate has gone through and which failure waits for its fix, and these decide
what may happen. `Engine.Follows` says so for every kind of event, and a log in
which every event follows from those before it is a chronicle.

A build keeps track of the same things in its state. Between two rounds the state
and the log agree, which is the invariant here. It makes the state superfluous:
what is to be known about the order of events is known of chronicles, and no
theorem about it has to go through the rounds of a build again.

Where the memory is missing, nothing is recorded, so the log does not tell that
a failure waits for its fix. It does not matter either.

## Main definitions

* `Standing`: Where a build stands, as far as its log tells.
* `Engine.Follows`: What may happen next.
* `Engine.IsChronicle`: A log in which every event follows from those before it.
* `Engine.IsAt`: The log is a chronicle, and it agrees with the state.
* `Engine.Concludes`: What a build that has ended leaves behind.

## Theorems

* `Engine.IsChronicle.follows`: Every event of a chronicle follows from those
  before it.
* `Engine.IsAt.leads_round`: A round continues the chronicle.
* `Engine.concludes_solve`: Every build writes a chronicle.
* `Engine.Concludes.exists_next`: An event that a build does not end with is
  followed by another.
* `Engine.Follows.last_cases`: What may come right after an event.
-/

namespace Flowchart

namespace Event

/-- A build may end with this event: somebody was asked, or a fix was recorded. -/
def isFinal : Event → Bool
  | .asked _ _ => true
  | .validated _ _ => true
  | .recorded x => x.fixed.isSome
  | .printed _ _ => false
  | .repaired _ _ => false

/-- A candidate is printed and its text submitted. -/
def submission (d : Diagram) (t : Text) (v : Verdict) : List Event :=
  [.printed d t, .validated t v]

theorem validated_suffix_submission (d : Diagram) (t : Text) (v : Verdict) :
    [.validated t v] <:+ submission d t v := ⟨[.printed d t], rfl⟩

/-- The failure that a rejection of a text amounts to. -/
def failure (t : Text) (o : Objection) : Example := { error := o.message, invalid := t }

end Event

/-! ### Where a build stands -/

/-- Where a build stands, as far as its log tells. -/
structure Standing where
  /-- The texts printed so far. -/
  texts : List Text := []
  /-- How many repairs were taken since the generator was last asked. -/
  repairs : Nat := 0
  /-- The failure that was recorded last, unless a fix was recorded after it. -/
  pending : Option Example := none
  /-- The candidate that is to be printed. -/
  candidate : Option Diagram := none

namespace Standing

/-- Where a build stands after one more event. -/
def enter (g : Goal) (w : Standing) : Event → Standing
  | .printed _ t => { w with texts := t :: w.texts, candidate := none }
  | .asked r reply =>
    { w with repairs := 0, candidate := (Event.asked r reply).answer?.map (Engine.prepare g) }
  | .validated _ _ => { w with candidate := none }
  | .repaired _ c => { w with repairs := w.repairs + 1, candidate := some c }
  | .recorded x => { w with pending := if x.fixed = none then some x else none, candidate := none }

/-- Where a build stands after some events. -/
def after (s : Seed) (g : Goal) (log : List Event) : Standing :=
  log.foldl (enter g) { candidate := s.given.head?.map (Engine.prepare g) }

theorem after_concat (s : Seed) (g : Goal) (log : List Event) (event : Event) :
    after s g (log ++ [event]) = (after s g log).enter g event := List.foldl_concat ..

end Standing

/-! ### Chronicles -/

namespace Engine

open Progress Event

variable {σ : Type} (e : Engine σ)

/-- What happens when a failure is to be recorded. -/
def note (x : Example) : List Event := if e.remembers then [.recorded x] else []

/-- What may happen next in a build from a seed to a goal, given all that has
    happened. -/
inductive Follows (s : Seed) (g : Goal) (log : List Event) : Event → Prop
  /-- An outline is asked for at the beginning. -/
  | outlined {r : OutlineRequest} {reply : Reply} (h : log = []) :
      Follows s g log (.asked (.outline r) reply)
  /-- A candidate is printed in canonical form. -/
  | printed {c : Diagram} (h : (Standing.after s g log).candidate = some c) :
      Follows s g log (.printed (e.canonical c) (e.print (e.canonical c)))
  /-- What was printed is submitted. -/
  | validated {d : Diagram} {t : Text} {v : Verdict} (h : [.printed d t] <:+ log) :
      Follows s g log (.validated t v)
  /-- A rejected candidate is repaired, if it may be and the text is a new one. -/
  | repaired {d c : Diagram} {t : Text} {o : Objection} {k : RepairKind}
      (h : submission d t (some (.error o)) <:+ log)
      (hroom : (Standing.after s g log).repairs < e.settings.limits.maxRepairs)
      (hnew : e.print (e.canonical c) ∉ (Standing.after s g log).texts) :
      Follows s g log (.repaired k c)
  /-- A rejection is recorded. -/
  | noted {d : Diagram} {t : Text} {o : Objection} (hmemory : e.remembers = true)
      (h : submission d t (some (.error o)) <:+ log) :
      Follows s g log (.recorded (failure t o))
  /-- The generator is asked to refine what was rejected. -/
  | refined {d : Diagram} {t : Text} {o : Objection} {r : RefineRequest} {reply : Reply}
      (h : submission d t (some (.error o)) ++ e.note (failure t o) <:+ log)
      (hdiagram : r.diagram = d) (herror : r.error = o.message) :
      Follows s g log (.asked (.refine r) reply)
  /-- The text that was accepted is recorded as the fix of the pending failure. -/
  | settled {d : Diagram} {t : Text} {x : Example} (hmemory : e.remembers = true)
      (h : submission d t (some (.ok ())) <:+ log)
      (hpending : (Standing.after s g log).pending = some x) :
      Follows s g log (.recorded { x with fixed := some t })
  /-- The generator is asked to expand what was accepted, if the budget has room. -/
  | expanded {d : Diagram} {t : Text} {fix : List Event} {b : Budget} {r : ExpandRequest}
      {reply : Reply} (h : submission d t (some (.ok ())) ++ fix <:+ log)
      (hfix : ∀ event ∈ fix, ∃ x : Example, event = .recorded { x with fixed := some t })
      (hdiagram : r.diagram = d) (hbudget : g.budget = some b) (hroom : b.hasHeadroom d = true)
      (htarget : r.target = b.expansionTarget d) :
      Follows s g log (.asked (.expand r) reply)

/-- Every event of a log follows from those before it. -/
inductive IsChronicle (s : Seed) (g : Goal) : List Event → Prop
  | nil : IsChronicle s g []
  | concat {log : List Event} {event : Event} (h : IsChronicle s g log)
      (hnext : e.Follows s g log event) : IsChronicle s g (log ++ [event])

section Chronicles

variable {e} {s : Seed} {g : Goal} {log before after : List Event} {event : Event}

theorem isChronicle_concat_iff :
    e.IsChronicle s g (log ++ [event]) ↔ e.IsChronicle s g log ∧ e.Follows s g log event := by
  constructor
  · intro h
    -- Cases on a chronicle need its log to be a variable.
    generalize hl : log ++ [event] = l at h
    cases h with
    | nil => exact absurd hl (List.concat_ne_nil event log)
    | concat h hnext =>
      rcases List.append_inj' hl rfl with ⟨rfl, hevent⟩
      rw [(List.cons.inj hevent).1]
      exact ⟨h, hnext⟩
  · rintro ⟨h, hnext⟩
    exact .concat h hnext

/-- The beginning of a chronicle is one. -/
theorem IsChronicle.of_append (h : e.IsChronicle s g (before ++ after)) :
    e.IsChronicle s g before := by
  induction after using List.reverseRecOn with
  | nil => rwa [List.append_nil] at h
  | append_singleton after event ih =>
    rw [← List.append_assoc, isChronicle_concat_iff] at h
    exact ih h.1

/-- Every event of a chronicle follows from those before it. -/
theorem IsChronicle.follows (h : e.IsChronicle s g (before ++ event :: after)) :
    e.Follows s g before event := by
  rw [List.append_cons] at h
  exact (isChronicle_concat_iff.1 h.of_append).2

end Chronicles

/-! ### A build at some point -/

/-- The log is a chronicle, and what it tells agrees with the state. -/
structure IsAt (s : Seed) (g : Goal) (x : Option Diagram) (p : Progress σ) : Prop where
  log : e.IsChronicle s g p.log
  standing : Standing.after s g p.log =
    ⟨p.seen, p.repairs, if e.remembers then p.pendingFix else none, x⟩

/-- A build that has ended leaves a chronicle behind. If it was not cancelled, it
    did not break off in the middle. -/
structure Concludes (s : Seed) (g : Goal) (r : Ended σ) : Prop where
  log : e.IsChronicle s g r.2.log
  final : ¬ Ended.IsCancelled r → ∃ event, [event] <:+ r.2.log ∧ event.isFinal = true

section Steps

variable {e} {s : Seed} {g : Goal} {p q : Progress σ} {d c : Diagram} {t : Text} {o : Objection}

/-- The next event is entered. -/
theorem IsAt.happen {x y : Option Diagram} {event : Event} (h : e.IsAt s g x p)
    (hnext : e.Follows s g p.log event) (hlog : q.log = p.log ++ [event])
    (hstanding : Standing.enter g
        ⟨p.seen, p.repairs, if e.remembers then p.pendingFix else none, x⟩ event
      = ⟨q.seen, q.repairs, if e.remembers then q.pendingFix else none, y⟩) :
    e.IsAt s g y q := by
  refine ⟨hlog ▸ .concat h.log hnext, ?_⟩
  rw [hlog, Standing.after_concat, h.standing, hstanding]

/-- The candidate is printed. -/
theorem IsAt.present (h : e.IsAt s g (some c) p) : e.IsAt s g none (e.present c p) :=
  h.happen (.printed (by rw [h.standing])) rfl rfl

/-- What was printed is submitted. -/
theorem IsAt.submit {v : Except Objection Unit} (h : e.IsAt s g none p)
    (hprinted : [.printed d t] <:+ p.log) (hsubmit : e.submit t p = (some v, q)) :
    e.IsAt s g none q ∧ submission d t (some v) <:+ q.log := by
  rcases submit_eq hsubmit with ⟨-, hv, -⟩ | ⟨world, -, rfl⟩
  · exact absurd hv (Option.some_ne_none v)
  · refine ⟨h.happen (.validated hprinted) rfl rfl, ?_⟩
    have hsubmission : [.printed d t] ++ [.validated t (some v)]
        <:+ p.log ++ [.validated t (some v)] := List.suffix_append_self_iff.2 hprinted
    exact hsubmission

theorem IsAt.isChronicle_submit {v : Verdict} (h : e.IsAt s g none p)
    (hprinted : [.printed d t] <:+ p.log) (hsubmit : e.submit t p = (v, q)) :
    e.IsChronicle s g q.log := by
  rcases submit_eq hsubmit with ⟨-, -, rfl⟩ | ⟨world, -, rfl⟩
  · exact h.log
  · exact .concat h.log (.validated hprinted)

/-- A rejected candidate is repaired. -/
theorem IsAt.takeRepair {kinds : List RepairKind} {k : RepairKind} {c' : Diagram}
    (h : e.IsAt s g none p) (hrejected : submission d t (some (.error o)) <:+ p.log)
    (hrepair : e.nextRepair? kinds c p = some (k, c')) :
    e.IsAt s g (some c') ({ p with repairs := p.repairs + 1 }.happen (.repaired k c')) := by
  refine h.happen (.repaired hrejected ?_ ?_) rfl rfl
  · rw [h.standing]
    exact e.nextRepair?_allowed hrepair
  · rw [h.standing]
    exact not_mem_seen_of_nextRepair? hrepair

/-- A rejection is recorded, and its fix is pending. -/
theorem IsAt.noteFailure (h : e.IsAt s g none p)
    (hrejected : submission d t (some (.error o)) <:+ p.log) :
    e.IsAt s g none (e.noteFailure (failure t o) p) ∧
      (e.noteFailure (failure t o) p).log = p.log ++ e.note (failure t o) := by
  unfold Engine.noteFailure remember note
  by_cases hmemory : e.remembers = true
  · rw [if_pos hmemory, if_pos hmemory]
    refine ⟨h.happen (.noted hmemory hrejected) rfl ?_, rfl⟩
    rw [if_pos hmemory, if_pos hmemory]
    rfl
  · rw [if_neg hmemory, if_neg hmemory]
    -- Without a memory nothing is recorded. The failure is pending all the same, but
    -- no chronicle looks at it.
    refine ⟨⟨h.log, ?_⟩, (List.append_nil _).symm⟩
    rw [h.standing, if_neg hmemory, if_neg hmemory]

theorem IsAt.examples {examples : List Example} (h : e.IsAt s g none p)
    (hexamples : e.examples p = (examples, q)) : e.IsAt s g none q ∧ q.log = p.log := by
  rcases examples_eq hexamples with ⟨world, rfl⟩
  exact ⟨⟨h.log, h.standing⟩, rfl⟩

/-- The fix that was pending is recorded. -/
theorem IsAt.settleFix (h : e.IsAt s g none p)
    (haccepted : submission d t (some (.ok ())) <:+ p.log) :
    e.IsAt s g none (e.settleFix t p) ∧ ∃ fix, (e.settleFix t p).log = p.log ++ fix ∧
      ∀ event ∈ fix, ∃ x : Example, event = .recorded { x with fixed := some t } := by
  unfold Engine.settleFix remember
  rcases hpending : p.pendingFix with _ | x
  · exact ⟨h, [], (List.append_nil _).symm, List.forall_mem_nil _⟩
  · dsimp only
    by_cases hmemory : e.remembers = true
    · rw [if_pos hmemory]
      -- The failure that the log knows of is the one that is pending in the state.
      refine ⟨h.happen (.settled hmemory haccepted ?_) rfl ?_, _, rfl, fun event hevent => ?_⟩
      · rw [h.standing, if_pos hmemory]
        exact hpending
      · rw [if_pos hmemory, if_pos hmemory]
        rfl
      · exact ⟨x, List.mem_singleton.1 hevent⟩
    · rw [if_neg hmemory]
      refine ⟨⟨h.log, ?_⟩, [], (List.append_nil _).symm, List.forall_mem_nil _⟩
      rw [h.standing, if_neg hmemory, if_neg hmemory]

/-- The generator is asked. If it answers, there is another candidate. -/
theorem IsAt.consult {r : Request} {x : Option Diagram} (h : e.IsAt s g x p)
    (hnext : ∀ reply, e.Follows s g p.log (.asked r reply))
    (hconsult : e.consult r p = (.ok d, q)) :
    e.IsAt s g (some (prepare g d)) { q with repairs := 0 } ∧ q.repairs = p.repairs := by
  rcases consult_spec hconsult with
    ⟨hcancelled, -⟩ | ⟨reply, hlog, hseen, hrepairs, hpending, hanswer⟩
  · -- A cancelled build has no answer to go on with.
    exact absurd hcancelled (by simp only [reduceCtorEq, not_false_eq_true])
  · refine ⟨h.happen (hnext reply) hlog ?_, hrepairs⟩
    rw [Standing.enter, hanswer d rfl, hseen, hpending]
    rfl

/-! ### The end -/

/-- A build that is cut short has been asking, unless it was cancelled. -/
theorem IsAt.concludes_stop {r : Request} {x : Option Diagram} {err : BuildError}
    (h : e.IsAt s g x p) (hnext : ∀ reply, e.Follows s g p.log (.asked r reply))
    (hconsult : e.consult r p = (.error err, q)) : e.Concludes s g (q.stop err) := by
  rcases consult_spec hconsult with ⟨hcancelled, hlog⟩ | ⟨reply, hlog, -⟩
  · rw [Except.error.inj hcancelled]
    exact ⟨hlog ▸ h.log, fun hlive => absurd ⟨_, rfl, rfl⟩ hlive⟩
  · have hstop : (q.stop err).2.log = p.log ++ [.asked r reply] := (log_stop q err).trans hlog
    refine ⟨hstop ▸ .concat h.log (hnext reply), fun _ => ⟨.asked r reply, ?_, rfl⟩⟩
    rw [hstop]
    exact List.suffix_append _ _

theorem log_exhausted (p : Progress σ) : p.exhausted.2.log = p.log :=
  exhausted_cases (fun _ _ => rfl) fun _ => rfl

/-! ### One round -/

/-- Asking again continues the chronicle. -/
theorem IsAt.leads_askAgain {r : Request} (h : e.IsAt s g none p)
    (hnext : ∀ reply, e.Follows s g p.log (.asked r reply)) :
    (e.askAgain g r p).Leads (fun c q => e.IsAt s g (some c) q) (e.Concludes s g) := by
  have hcounted : e.IsAt s g none { p with iterations := p.iterations + 1 } := ⟨h.log, h.standing⟩
  exact e.askAgain_cases (fun d q hconsult => (hcounted.consult hnext hconsult).1)
    fun err q hconsult => hcounted.concludes_stop hnext hconsult

/-- An accepted diagram is expanded only where the budget has room for it. -/
theorem expansion?_spec {excerpt : Text} {target : Budget}
    (h : e.expansion? g d p = some (excerpt, target)) :
    ∃ b, g.budget = some b ∧ b.hasHeadroom d = true ∧ target = b.expansionTarget d := by
  unfold expansion? at h
  split at h
  · rename_i excerpt' b hexcerpt hbudget
    split at h
    · rename_i hroom
      rw [Bool.and_eq_true] at hroom
      rw [Option.some.injEq, Prod.mk.injEq] at h
      exact ⟨b, hbudget, hroom.1, h.2.symm⟩
    · exact absurd h (by simp only [reduceCtorEq, not_false_eq_true])
  · exact absurd h (by simp only [reduceCtorEq, not_false_eq_true])

theorem IsAt.leads_accept (h : e.IsAt s g none p)
    (haccepted : submission d t (some (.ok ())) <:+ p.log) :
    (e.accept g d t p).Leads (fun c q => e.IsAt s g (some c) q) (e.Concludes s g) := by
  rcases h.settleFix haccepted with ⟨hsettled, fix, hlog, hfix⟩
  have hsuffix : submission d t (some (.ok ())) ++ fix <:+ (e.settleFix t p).log := by
    rw [hlog]
    exact (List.suffix_append_self_iff).2 haccepted
  refine e.accept_cases (fun hdone => ⟨hsettled.log, fun _ => ?_⟩)
    fun excerpt target hexpansion => ?_
  · -- The last event is the fix, if one was pending, and otherwise the verdict.
    rcases List.eq_nil_or_concat' fix with rfl | ⟨front, event, rfl⟩
    · exact ⟨_, (validated_suffix_submission d t _).trans hsuffix, rfl⟩
    · rcases hfix event (List.mem_append_right _ (List.mem_singleton_self _)) with ⟨x, rfl⟩
      rw [← List.append_assoc] at hsuffix
      exact ⟨_, (List.suffix_append _ _).trans hsuffix, rfl⟩
  · rcases expansion?_spec hexpansion with ⟨b, hbudget, hroom, htarget⟩
    have hkept : e.IsAt s g none { e.settleFix t p with accepted := some d } :=
      ⟨hsettled.log, hsettled.standing⟩
    exact hkept.leads_askAgain fun reply => .expanded hsuffix hfix rfl hbudget hroom htarget

theorem IsAt.leads_reject {report : Report} (h : e.IsAt s g none p)
    (hrejected : submission d t (some (.error o)) <:+ p.log) :
    (e.reject g c d t report o p).Leads (fun c q => e.IsAt s g (some c) q) (e.Concludes s g) := by
  have hblamed : e.IsAt s g none (blameRejection o report p) := ⟨h.log, h.standing⟩
  refine e.reject_cases (fun k c' hrepair => ?_) (fun examples q hexamples hroom => ?_)
    fun hspent => ?_
  · exact hblamed.takeRepair hrejected hrepair
  · rcases hblamed.noteFailure hrejected with ⟨hnoted, hnote⟩
    rcases hnoted.examples hexamples with ⟨hq, hlog⟩
    refine hq.leads_askAgain fun reply => .refined (d := d) (t := t) (o := o) ?_ rfl rfl
    -- Looking up examples adds nothing to the log, so the request comes right after the
    -- rejection and what was recorded of it.
    rw [hlog, hnote]
    exact (List.suffix_append_self_iff).2 hrejected
  · -- The build gives up after a verdict, which may well be the last event.
    have hlog := log_exhausted (blameRejection o report p)
    exact ⟨hlog ▸ hblamed.log, fun _ =>
      ⟨_, hlog ▸ (validated_suffix_submission d t _).trans hrejected, rfl⟩⟩

/-- A round continues the chronicle. -/
theorem IsAt.leads_round (c : Diagram) (p : Progress σ) (h : e.IsAt s g (some c) p) :
    (e.round g c p).Leads (fun c q => e.IsAt s g (some c) q) (e.Concludes s g) := by
  have hprinted : [.printed (e.canonical c) (e.print (e.canonical c))] <:+ (e.present c p).log :=
    List.suffix_append _ _
  refine e.round_cases (fun k c' hok hrepair => ?_) (fun q hsubmit => ?_)
    (fun o q hsubmit => ?_) fun q hsubmit => ?_
  · -- A candidate is not repaired before it is submitted, since the linter has nothing
    -- against the text of a canonical diagram.
    rw [e.ok_lint_print] at hok
    exact absurd hok (by decide)
  · rcases h.present.submit hprinted hsubmit with ⟨hq, hsubmission⟩
    exact hq.leads_accept hsubmission
  · rcases h.present.submit hprinted hsubmit with ⟨hq, hsubmission⟩
    exact hq.leads_reject hsubmission
  · -- There was no verdict, so the build was cancelled and may break off anywhere.
    have hlog : (q.stop .cancelled).2.log = q.log := rfl
    refine ⟨hlog ▸ h.present.isChronicle_submit hprinted hsubmit, fun hlive => ?_⟩
    exact absurd ⟨_, rfl, rfl⟩ hlive

end Steps

/-! ### A run -/

/-- Every build writes a chronicle. -/
theorem concludes_solve (s : Seed) (g : Goal) (world : σ) :
    e.Concludes s g (e.solve s g world) := by
  have hstart : ∀ x, s.given.head?.map (prepare g) = x → e.IsAt s g x { world } := by
    rintro x rfl
    refine ⟨.nil, ?_⟩
    rw [ite_self]
    rfl
  refine e.solve_leads IsAt.leads_round ?_
  cases s with
  | diagram d => exact hstart _ rfl
  | outline r =>
    have hempty : e.IsAt (.outline r) g none { world } := hstart none rfl
    have hnext : ∀ reply, e.Follows (.outline r) g [] (.asked (.outline r) reply) :=
      fun reply => .outlined rfl
    -- Only an outline has to be asked for, and it is the first event of all.
    rw [opening]
    rcases hconsult : e.consult (.outline r) { world } with ⟨err | d, q⟩
    · exact hempty.concludes_stop hnext hconsult
    · rcases hempty.consult hnext hconsult with ⟨hq, hrepairs⟩
      refine ⟨hq.log, ?_⟩
      rw [hrepairs]
      exact hq.standing

/-! ### What comes next -/

section Next

variable {e} {s : Seed} {g : Goal} {before rest : List Event} {event last : Event}

/-- How a log ends is how its last event is reached. -/
theorem last_eq {l : List Event} (h : l <:+ before ++ [last]) (hl : l ≠ []) :
    l.getLast hl = last := by
  have heq := h.getLast hl
  rw [List.getLast_concat] at heq
  exact heq

/-- An event that is not the last one is followed by the last one. -/
theorem exists_concat_of_last (h : [last] <:+ before ++ event :: rest) (hne : event ≠ last) :
    ∃ more, rest = more ++ [last] := by
  rcases List.eq_nil_or_concat' rest with rfl | ⟨more, event', rfl⟩
  · exact absurd (last_eq h (List.cons_ne_nil _ _)).symm hne
  · rw [← List.cons_append, ← List.append_assoc] at h
    rw [← last_eq h (List.cons_ne_nil _ _)]
    exact ⟨more, rfl⟩

/-- An event that a build does not end with is followed by another, unless the
    build is cancelled. -/
theorem Concludes.exists_next {r : Ended σ} (h : e.Concludes s g r)
    (hlive : ¬ Ended.IsCancelled r) (hlog : r.2.log = before ++ event :: rest)
    (hevent : event.isFinal = false) :
    ∃ next more, rest = next :: more ∧ e.Follows s g (before ++ [event]) next := by
  cases rest with
  | nil =>
    rcases h.final hlive with ⟨last, hlast, hfinal⟩
    rw [hlog] at hlast
    -- Nothing after it would make the event the last one, and the build does not end
    -- with it.
    rw [← last_eq hlast (List.cons_ne_nil _ _), List.getLast_singleton, hfinal] at hevent
    exact absurd hevent (by decide)
  | cons next more =>
    have hchronicle := h.log
    rw [hlog, List.append_cons] at hchronicle
    exact ⟨next, more, rfl, hchronicle.follows⟩

/-- The last event after a submission is the verdict, or it comes later. -/
theorem last_of_submission {d : Diagram} {t : Text} {v : Verdict} {more : List Event}
    (h : submission d t v ++ more <:+ before ++ [last]) : last = .validated t v ∨ last ∈ more := by
  rcases List.eq_nil_or_concat' more with rfl | ⟨front, event, rfl⟩
  · exact Or.inl (last_eq h (List.cons_ne_nil _ _)).symm
  · have heq := last_eq h (List.append_ne_nil_of_right_ne_nil _ (List.concat_ne_nil _ _))
    rw [List.getLast_append_of_right_ne_nil _ _ (List.concat_ne_nil _ _),
      List.getLast_concat] at heq
    rw [← heq]
    exact Or.inr (List.mem_append_right _ (List.mem_singleton_self _))

theorem eq_of_mem_note {x : Example} (h : event ∈ e.note x) : event = .recorded x := by
  unfold note at h
  split at h
  · exact List.mem_singleton.1 h
  · exact absurd h List.not_mem_nil

/-- What the last event allows: a new candidate is printed, what was printed is
    submitted, much may follow a verdict, and a failure that was recorded leads to
    a request to refine. -/
theorem Follows.last_cases (h : e.Follows s g (before ++ [last]) event) :
    (∃ c, ((Standing.after s g before).enter g last).candidate = some c ∧
      event = .printed (e.canonical c) (e.print (e.canonical c))) ∨
    (∃ d t v, last = .printed d t ∧ event = .validated t v) ∨
    (∃ t v, last = .validated t v) ∨
    ∃ x, last = .recorded x ∧ (x.fixed = none → ∃ r reply, event = .asked (.refine r) reply) := by
  cases h with
  | outlined hnil => exact absurd hnil (List.concat_ne_nil _ _)
  | printed hcandidate =>
    rw [Standing.after_concat] at hcandidate
    exact Or.inl ⟨_, hcandidate, rfl⟩
  | validated hlast =>
    exact Or.inr (Or.inl ⟨_, _, _, (last_eq hlast (List.cons_ne_nil _ _)).symm, rfl⟩)
  | repaired hlast | noted _ hlast | settled _ hlast =>
    exact Or.inr (Or.inr (Or.inl ⟨_, _, (last_eq hlast (List.cons_ne_nil _ _)).symm⟩))
  -- A request is right behind its verdict, unless something was recorded in between.
  | refined hlast =>
    rcases last_of_submission hlast with heq | hmem
    · exact Or.inr (Or.inr (Or.inl ⟨_, _, heq⟩))
    · exact Or.inr (Or.inr (Or.inr ⟨_, eq_of_mem_note hmem, fun _ => ⟨_, _, rfl⟩⟩))
  | expanded hlast hfix =>
    rcases last_of_submission hlast with heq | hmem
    · exact Or.inr (Or.inr (Or.inl ⟨_, _, heq⟩))
    · rcases hfix _ hmem with ⟨x, heq⟩
      exact Or.inr (Or.inr (Or.inr ⟨_, heq, fun hx => absurd hx (Option.some_ne_none _)⟩))

/-- What is printed is submitted next. -/
theorem Follows.of_printed {d : Diagram} {t : Text}
    (h : e.Follows s g (before ++ [.printed d t]) event) : ∃ v, event = .validated t v := by
  rcases h.last_cases with ⟨c, hc, -⟩ | ⟨d, t, v, heq, rfl⟩ | ⟨t, v, heq⟩ | ⟨x, heq, -⟩
  · cases hc
  · cases heq
    exact ⟨v, rfl⟩
  · cases heq
  · cases heq

/-- A candidate that comes of a repair is printed next. -/
theorem Follows.of_repaired {k : RepairKind} {c : Diagram}
    (h : e.Follows s g (before ++ [.repaired k c]) event) :
    event = .printed (e.canonical c) (e.print (e.canonical c)) := by
  rcases h.last_cases with ⟨c, hc, rfl⟩ | ⟨d, t, v, heq, -⟩ | ⟨t, v, heq⟩ | ⟨x, heq, -⟩
  · cases hc
    rfl
  · cases heq
  · cases heq
  · cases heq

/-- Once a rejection is recorded, the generator is asked to refine. -/
theorem Follows.of_recorded {x : Example} (hx : x.fixed = none)
    (h : e.Follows s g (before ++ [.recorded x]) event) :
    ∃ r reply, event = .asked (.refine r) reply := by
  rcases h.last_cases with ⟨c, hc, -⟩ | ⟨d, t, v, heq, -⟩ | ⟨t, v, heq⟩ | ⟨y, heq, hnext⟩
  · cases hc
  · cases heq
  · cases heq
  · cases heq
    exact hnext hx

end Next

end Engine

end Flowchart
