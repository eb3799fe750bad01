import Flowchart.Proofs.Chronicle
import Mathlib.Algebra.Ring.Nat

/-!
# The Tally of a Build

A build reports how often it asked for a better diagram and how many tokens all
the answers took. Both are counted on the way, and neither at the same point as
the event that it counts. An iteration is counted before its request is made, the
tokens of an answer before anyone knows whether it can be read. So it takes an
argument that no way out of the loop is left with one and not the other.

There is one such way, when the build is cancelled between the iteration and the
request. On any other, what is reported is what can be counted in the log, and
the argument is that every event is tallied as it is logged.

The log also tells what is expanded. Chronicles know that an expansion follows
the acceptance of a diagram for which the budget has room. Where there is room,
the target is larger than the diagram, however the third of the budget is rounded,
and it never leaves the budget.

## Main definitions

* `Event.usage?`: What one reply says of the tokens that it took.
* `Ended.iterations`, `Ended.usage`: What a build reports.
* `Usage.sum`: The tokens of any number of answers together.
* `Progress.IsTallied`, `Ended.IsTallied`: What was counted agrees with the log.

## Theorems

* `Usage.apply_sum`: Wrapping once is as good as wrapping at every answer.
* `Budget.lt_expansionTarget`: Where there is room, more is aimed for.
* `Progress.IsTallied.happen`: How an event is tallied.
* `Engine.holds_round_tallied`: A round keeps the tally.
* `Engine.isTallied_solve`: Every build ends with a tally.
* `Engine.IsChronicle.expanded`: What comes before a request to expand.
* `Engine.solve_counted`: What is reported agrees with the log, and expansions are
  earned.
-/

namespace Flowchart

/-- What one reply says of the tokens that it took. -/
def Event.usage? : Event → Option Usage
  | .asked _ reply => reply.usage?
  | _ => none

/-- How many iterations a build reports. -/
def Ended.iterations {σ : Type} (r : Ended σ) : Nat :=
  match r.1 with
  | .ok s => s.iterations
  | .error f => f.iterations

/-- How many tokens a build reports. -/
def Ended.usage {σ : Type} (r : Ended σ) : Usage :=
  match r.1 with
  | .ok s => s.usage
  | .error f => f.usage

/-! ### Sums of tokens -/

namespace Usage

/-- The tokens of any number of answers together. -/
def sum (l : List Usage) : Usage := l.foldl add {}

theorem sum_concat (l : List Usage) (u : Usage) : sum (l ++ [u]) = (sum l).add u :=
  List.foldl_concat ..

/-- Wrapping the sum once is as good as wrapping it at every answer. -/
theorem apply_sum (f : Usage → Nat) (hzero : f {} = 0)
    (hadd : ∀ u v, f (u.add v) = wrapWord (f u + f v)) (l : List Usage) :
    f (sum l) = wrapWord (l.map f).sum := by
  induction l using List.reverseRecOn with
  | nil => exact hzero
  | append_singleton l u ih =>
    rw [sum_concat, hadd, ih, List.map_append, List.sum_append, List.map_singleton,
      List.sum_singleton]
    -- The sum so far is wrapped already, and wrapping it once more changes nothing.
    exact Nat.mod_add_mod _ _ _

end Usage

/-! ### What is aimed for -/

namespace Budget

/-- A part of what there may be, however small, is more than nothing. -/
theorem lt_min_add_ceilDiv {n most : Nat} (h : n < most) : n < min (n + ceilDiv most 3) most := by
  have hpos : 0 < ceilDiv most 3 := Nat.div_pos (by omega) (by decide)
  exact Nat.lt_min.2 ⟨by omega, h⟩

/-- Where there is room, more is aimed for than there is. -/
theorem lt_expansionTarget {b : Budget} {d : Diagram} (h : b.hasHeadroom d = true) :
    d.nodes.length < (b.expansionTarget d).maxNodes ∨
      d.edges.length < (b.expansionTarget d).maxEdges := by
  rw [hasHeadroom, Bool.or_eq_true, decide_eq_true_eq, decide_eq_true_eq] at h
  exact h.imp lt_min_add_ceilDiv lt_min_add_ceilDiv

/-- And no more than there may be. -/
theorem expansionTarget_le (b : Budget) (d : Diagram) :
    (b.expansionTarget d).maxNodes ≤ b.maxNodes ∧ (b.expansionTarget d).maxEdges ≤ b.maxEdges :=
  ⟨Nat.min_le_right _ _, Nat.min_le_right _ _⟩

end Budget

/-! ### Tallies -/

/-- Between two rounds a build has counted its requests, and the tokens of all
    replies. -/
structure Progress.IsTallied {σ : Type} (p : Progress σ) : Prop where
  iterations : p.iterations = p.log.countP Event.isRequest
  usage : p.usage = Usage.sum (p.log.filterMap Event.usage?)

/-- So has a build that ended. Only cancellation may come between an iteration and
    its request. -/
structure Ended.IsTallied {σ : Type} (r : Ended σ) : Prop where
  iterations : ¬ Ended.IsCancelled r → r.iterations = r.2.log.countP Event.isRequest
  usage : r.usage = Usage.sum (r.2.log.filterMap Event.usage?)

namespace Progress

variable {σ : Type} {p q : Progress σ}

/-- An event is tallied: a request is one more iteration, and what an answer took is
    added to the rest. -/
theorem IsTallied.happen {event : Event} (h : p.IsTallied) (hlog : q.log = p.log ++ [event])
    (hiterations : q.iterations = p.iterations + event.isRequest.toNat)
    (husage : q.usage = (event.usage?.map p.usage.add).getD p.usage) : q.IsTallied := by
  refine ⟨?_, ?_⟩
  · rw [hiterations, hlog, List.countP_append, List.countP_singleton, ← h.iterations]
    cases event.isRequest <;> rfl
  · rw [husage, hlog, Lint.Survey.filterMap_concat, h.usage]
    -- An event that took no tokens leaves the sum as it is, as the default does.
    cases event.usage? with
    | none => exact congrArg Usage.sum (List.append_nil _).symm
    | some u => exact (Usage.sum_concat _ u).symm

theorem IsTallied.records (h : p.IsTallied) (hrecords : p.Records q) : q.IsTallied := by
  refine ⟨?_, ?_⟩
  · rw [hrecords.countP_log fun _ => rfl, ← h.iterations]
    rcases hrecords with ⟨world, examples, fix, rfl⟩
    rfl
  · rw [hrecords.filterMap_log fun _ => rfl, ← h.usage]
    rcases hrecords with ⟨world, examples, fix, rfl⟩
    rfl

/-! ### Ends -/

theorem IsTallied.succeed (h : p.IsTallied) (d : Diagram) : (p.succeed d).IsTallied :=
  ⟨fun _ => h.iterations, h.usage⟩

theorem IsTallied.fail (h : p.IsTallied) (err : BuildError) : (p.fail err).IsTallied :=
  ⟨fun _ => h.iterations, h.usage⟩

theorem IsTallied.stop (h : p.IsTallied) (err : BuildError) : (p.stop err).IsTallied := by
  have hblamed : ∀ r, (p.blame r).IsTallied := fun _ => ⟨h.iterations, h.usage⟩
  exact stop_cases (fun _ d _ _ => (hblamed _).succeed d) (fun _ _ _ => (hblamed _).fail err)
    fun _ => h.fail err

theorem IsTallied.exhausted (h : p.IsTallied) : p.exhausted.IsTallied :=
  exhausted_cases (fun d _ => h.succeed d) fun _ => h.fail _

end Progress

namespace Engine

open Progress

variable {σ : Type} {e : Engine σ} {g : Goal} {p q : Progress σ}

/-! ### One round -/

/-- An iteration is counted before its request is made, and cancellation may come
    between the two. Everything else that becomes of a request is tallied. -/
theorem isTallied_consult {r : Request} {n : Nat} {x : Except BuildError Diagram}
    (h : p.IsTallied) (hn : ∀ reply, (Event.asked r reply).isRequest.toNat = n)
    (hconsult : e.consult r { p with iterations := p.iterations + n } = (x, q)) :
    q.IsTallied ∨ (x = .error .cancelled ∧ q = { p with iterations := p.iterations + n }) := by
  rcases consult_eq hconsult with ⟨-, hx, hq⟩ | ⟨reply, world, -, -, rfl⟩
  · exact Or.inr ⟨hx, hq⟩
  · refine Or.inl (h.happen rfl ?_ rfl)
    rw [hn]
    rfl

theorem isTallied_stop_of_consult {r : Request} {n : Nat} {err : BuildError}
    (h : p.IsTallied) (hn : ∀ reply, (Event.asked r reply).isRequest.toNat = n)
    (hconsult : e.consult r { p with iterations := p.iterations + n } = (.error err, q)) :
    (q.stop err).IsTallied := by
  rcases isTallied_consult h hn hconsult with hq | ⟨hcancelled, rfl⟩
  · exact hq.stop err
  · rw [Except.error.inj hcancelled]
    exact ⟨fun hlive => absurd ⟨_, rfl, rfl⟩ hlive, h.usage⟩

theorem holds_askAgain_tallied {r : Request} (h : p.IsTallied)
    (hr : ∀ reply, (Event.asked r reply).isRequest = true) :
    (e.askAgain g r p).Holds IsTallied Ended.IsTallied := by
  have hn : ∀ reply, (Event.asked r reply).isRequest.toNat = 1 := by
    intro reply
    rw [hr reply]
    rfl
  refine e.askAgain_cases (fun d q hconsult => ?_) fun err q hconsult =>
    isTallied_stop_of_consult h hn hconsult
  -- If the build was cancelled, the iteration is counted and the request is not
  -- logged. But then there is no candidate, and the round does not go on.
  rcases isTallied_consult h hn hconsult with hq | ⟨hcancelled, -⟩
  · exact ⟨hq.iterations, hq.usage⟩
  · exact absurd hcancelled (by simp only [reduceCtorEq, not_false_eq_true])

/-- A round tallies what it does, or ends with a tally of it. -/
theorem holds_round_tallied (c : Diagram) (p : Progress σ) (h : p.IsTallied) :
    (e.round g c p).Holds IsTallied Ended.IsTallied := by
  have hpresent : (e.present c p).IsTallied := h.happen rfl rfl rfl
  have hsubmit : ∀ {t v q}, e.submit t (e.present c p) = (v, q) → q.IsTallied := by
    intro t v q hv
    rcases submit_eq hv with ⟨-, -, rfl⟩ | ⟨world, -, rfl⟩
    · exact hpresent
    · exact hpresent.happen rfl rfl rfl
  have hrepair : ∀ {k c'} {q : Progress σ}, q.IsTallied →
      (takeRepair k c' q).Holds IsTallied Ended.IsTallied := fun hq => hq.happen rfl rfl rfl
  -- Repairs, verdicts and examples are events that count for nothing here, so the
  -- requests that an accepted or rejected text leads to do all the work.
  refine e.round_cases (fun k c' _ _ => hrepair hpresent) (fun q hq => ?_) (fun r q hq => ?_)
    fun q hq => (hsubmit hq).stop _
  · have hsettled := (hsubmit hq).records (e.records_settleFix (e.print (e.canonical c)) q)
    have hkept : IsTallied { e.settleFix (e.print (e.canonical c)) q with
        accepted := some (e.canonical c) } := ⟨hsettled.iterations, hsettled.usage⟩
    exact e.accept_cases (fun _ => hkept.succeed _) fun excerpt target _ =>
      holds_askAgain_tallied hkept fun _ => rfl
  · have hblamed : (blameRejection r (Lint.lint (e.print (e.canonical c))) q).IsTallied :=
      ⟨(hsubmit hq).iterations, (hsubmit hq).usage⟩
    exact e.reject_cases (fun k c' _ => hrepair hblamed)
      (fun examples q' hexamples _ =>
        holds_askAgain_tallied (hblamed.records (records_examples hexamples)) fun _ => rfl)
      fun _ => hblamed.exhausted

/-! ### A run -/

variable (e)

/-- Every build ends with a tally of its requests and their tokens. -/
theorem isTallied_solve (s : Seed) (g : Goal) (world : σ) :
    (e.solve s g world).IsTallied := by
  have hstart : IsTallied ({ world } : Progress σ) := ⟨rfl, rfl⟩
  -- The outline is asked for before any iteration and is none of the requests.
  have houtline : ∀ r reply, (Event.asked (.outline r) reply).isRequest.toNat = 0 :=
    fun _ _ => rfl
  refine e.solve_induction holds_round_tallied hstart (fun r d q hconsult => ?_)
    fun r err q hconsult => ?_
  · rcases isTallied_consult hstart (houtline r) hconsult with hq | ⟨hcancelled, -⟩
    · exact hq
    · exact absurd hcancelled (by simp only [reduceCtorEq, not_false_eq_true])
  · exact isTallied_stop_of_consult hstart (houtline r) hconsult

/-- What is printed is a diagram that has a text. -/
theorem Follows.text?_of_printed {e : Engine σ} {s : Seed} {g : Goal} {log : List Event}
    {d : Diagram} {t : Text} (h : e.Follows s g log (.printed d t)) :
    d.text? e.settings.compile = some t := by
  cases h with
  | printed _ => exact e.text?_canonical _

/-- A request to expand comes right after the acceptance of its diagram, or after a
    fix that was recorded in between. -/
theorem IsChronicle.expanded {e : Engine σ} {s : Seed} {g : Goal} {before rest : List Event}
    {q : ExpandRequest} {reply : Reply}
    (h : e.IsChronicle s g (before ++ .asked (.expand q) reply :: rest)) :
    ∃ earlier t fix b, before = earlier ++ .printed q.diagram t ::
        .validated t (some (.ok ())) :: fix ∧
      (∀ event ∈ fix, ∃ x, event = .recorded x) ∧
      q.diagram.text? e.settings.compile = some t ∧ g.budget = some b ∧
      b.hasHeadroom q.diagram = true ∧ q.target = b.expansionTarget q.diagram := by
  -- Only one rule of the chronicle lets a request to expand follow.
  cases h.follows with
  | @expanded d t fix b _ _ haccepted hfix hdiagram hbudget hroom htarget =>
    subst hdiagram
    rcases haccepted with ⟨earlier, hbefore⟩
    refine ⟨earlier, t, fix, b, hbefore.symm, fun event hevent => ?_, ?_, hbudget, hroom, htarget⟩
    · rcases hfix event hevent with ⟨x, heq⟩
      exact ⟨_, heq⟩
    · have hearly := h.of_append
      rw [← hbefore] at hearly
      exact (IsChronicle.follows hearly).text?_of_printed

/-- A build that was not cancelled reports as many iterations as it made requests to
    refine or expand, and the tokens of all answers that it got, the one that ended
    it included, unless they are too many to count. Every request to expand hands
    over the diagram that was accepted just before, and what it aims for is within
    the budget and more than there is. -/
theorem solve_counted (s : Seed) (g : Goal) (world : σ)
    (h : ¬ Ended.IsCancelled (e.solve s g world)) :
    let r := e.solve s g world
    let usages := r.2.log.filterMap Event.usage?
    r.iterations = r.2.log.countP Event.isRequest ∧
    ((usages.map Usage.inputTokens).sum < wordLimit →
      r.usage.inputTokens = (usages.map Usage.inputTokens).sum) ∧
    ((usages.map Usage.outputTokens).sum < wordLimit →
      r.usage.outputTokens = (usages.map Usage.outputTokens).sum) ∧
    ∀ before q reply rest, r.2.log = before ++ .asked (.expand q) reply :: rest →
      ∃ earlier t fix b, before = earlier ++ .printed q.diagram t ::
          .validated t (some (.ok ())) :: fix ∧
        (∀ event ∈ fix, ∃ x, event = .recorded x) ∧
        q.diagram.text? e.settings.compile = some t ∧
        g.budget = some b ∧ q.target.maxNodes ≤ b.maxNodes ∧ q.target.maxEdges ≤ b.maxEdges ∧
        (q.diagram.nodes.length < q.target.maxNodes ∨
          q.diagram.edges.length < q.target.maxEdges) := by
  intro r usages
  have htally : r.IsTallied := e.isTallied_solve s g world
  refine ⟨htally.iterations h, fun hsum => ?_, fun hsum => ?_, fun before q reply rest hlog => ?_⟩
  · -- Below the limit the wrapped sum is the sum itself.
    rw [htally.usage, Usage.apply_sum Usage.inputTokens rfl fun _ _ => rfl]
    exact Nat.mod_eq_of_lt hsum
  · rw [htally.usage, Usage.apply_sum Usage.outputTokens rfl fun _ _ => rfl]
    exact Nat.mod_eq_of_lt hsum
  · -- The target is the one that the budget sets for the diagram, and that one is
    -- within the budget and above the diagram.
    have hchronicle : e.IsChronicle s g r.2.log := (e.concludes_solve s g world).log
    rw [hlog] at hchronicle
    rcases hchronicle.expanded with
      ⟨earlier, t, fix, b, hbefore, hfix, htext, hbudget, hroom, htarget⟩
    have hwithin := b.expansionTarget_le q.diagram
    have hmore := Budget.lt_expansionTarget hroom
    rw [← htarget] at hwithin hmore
    exact ⟨earlier, t, fix, b, hbefore, hfix, htext, hbudget, hwithin.1, hwithin.2, hmore⟩

/-- The only node of a diagram is accepted, and so is what the generator makes of it
    at first. Its second answer is of no use and ends the build, and the tokens
    that it took are reported all the same. -/
theorem solve_counted_expanded :
    let e : Engine Bool :=
      { ask := fun _ answered =>
          (some (.ok (if answered then ⟨"no".toList, some ⟨5, 6⟩⟩
            else ⟨"\x7b\"nodes\":[\x7b\"id\":\"a\",\"label\":\"b\"\x7d]\x7d".toList, some ⟨3, 4⟩⟩)),
            true)
        validate := fun _ answered => (some (.ok ()), answered)
        isCancelled := fun _ => false
        remembers := false
        record := fun _ answered => answered
        recent := fun _ answered => ([], answered) }
    let g : Goal := { direction := .down, budget := some ⟨12, 18⟩, expandFrom := some [] }
    let r := e.solve (.diagram (Diagram.single "a".toList [])) g false
    ¬ Ended.IsCancelled r ∧ r.iterations = 2 ∧ r.usage = ⟨8, 10⟩ ∧
      ∃ q reply, .asked (.expand q) reply ∈ r.2.log ∧
        q.target.maxNodes ≤ 12 ∧ q.target.maxEdges ≤ 18 ∧
        (q.diagram.nodes.length < q.target.maxNodes ∨
          q.diagram.edges.length < q.target.maxEdges) := by
  intro e g r
  have hlive : ¬ Ended.IsCancelled r := solve_of_neverCancels
    ⟨fun _ => rfl, fun _ _ => Option.some_ne_none _, fun _ _ => Option.some_ne_none _⟩ _ _ _
  have hrounds : (e.rounds g 2 (e.opening (.diagram (Diagram.single "a".toList [])) g
      false)).Holds (fun _ => False) fun r =>
        r.2.log.countP Event.isRequest = 2 ∧
        r.2.log.filterMap Event.usage? = [⟨3, 4⟩, ⟨5, 6⟩] ∧
        (r.2.log.any fun
          | .asked q _ => match q with
            | .expand _ => true
            | _ => false
          | _ => false) = true := by
    decide +kernel
  rcases (e.solve_of_rounds hrounds : _ ∧ _ ∧ _) with ⟨hrequests, husages, hexpand⟩
  rcases e.solve_counted _ g false hlive with ⟨hiterations, hinput, houtput, hexpanded⟩
  rw [husages] at hinput houtput
  refine ⟨hlive, hiterations.trans hrequests, ?_, ?_⟩
  · have hin := hinput (by decide)
    have hout := houtput (by decide)
    rw [Usage.mk.injEq]
    exact ⟨hin, hout⟩
  · rcases List.any_eq_true.1 hexpand with ⟨event, hmem, hevent⟩
    have hasked : ∃ q reply, event = .asked (.expand q) reply := by
      cases event with
      | asked request reply =>
        cases request with
        | expand q => exact ⟨q, reply, rfl⟩
        | outline | refine => exact Bool.noConfusion hevent
      | printed | validated | repaired | recorded => exact Bool.noConfusion hevent
    rcases hasked with ⟨q, reply, rfl⟩
    rcases List.append_of_mem hmem with ⟨before, rest, hlog⟩
    rcases hexpanded before q reply rest hlog with
      ⟨earlier, t, fix, b, -, -, -, hbudget, hnodes, hedges, hmore⟩
    rw [← Option.some.inj hbudget] at hnodes hedges
    exact ⟨q, reply, hmem, hnodes, hedges, hmore⟩

end Engine

end Flowchart
