import Flowchart.Proofs.Kept

/-!
# The Limits of a Build

How long a build can go on, whatever the generator and the validator do. The two
limits multiply: every request to refine or expand starts a new series of
repairs, so there are as many series as there can be requests and one for the
seed, and a series has as many rounds as there can be repairs and one more.

The rounds are counted by `Engine.rounds`, which goes on for so many of them and
no further. That a build ends is then a statement about a number: within it,
going on reaches the result. The number falls with every round because less is
left to do, which the recursion of `Engine.examine` rests on.

The calls are counted in the ledger. Between rounds a request has been made for
every iteration, and there were at most as many submissions as rounds. A round
submits a text before it decides how to go on, so in the middle of a round there
may be one more. `Ledger.IsWithin` has that one as a parameter.

## Main definitions

* `Engine.roundsLeft`: How many rounds there can still be.
* `Ledger.IsWithin`: A ledger within the limits between two rounds.
* `Ledger.IsBounded`: The bounds on the calls of a build that has ended.
* `Engine.IsBounded`: A build that ended within its limits.

## Theorems

* `Engine.exists_rounds_examine`: The rounds that are left are enough.
* `Engine.isBounded_solve`: Every build ends within its limits.
* `Engine.solve_limits`: How a build is bounded, and when it is exhausted.
-/

namespace Flowchart

namespace Engine

variable {σ : Type} (e : Engine σ)

/-! ### Rounds -/

/-- How many rounds there can still be. -/
def roundsLeft (p : Progress σ) : Nat :=
  (e.left p).1 * (e.settings.limits.maxRepairs + 1) + (e.left p).2 + 1

/-- Whatever is looked at next, there are fewer rounds left. -/
theorem roundsLeft_lt {g : Goal} {c c' : Diagram} {p q : Progress σ}
    (h : e.round g c p = .again c' q) : e.roundsLeft q < e.roundsLeft p := by
  have hless := e.round_decreases h
  have hrepairs : (e.left q).2 ≤ e.settings.limits.maxRepairs := Nat.sub_le _ _
  unfold Less at hless
  rw [Prod.lex_def] at hless
  unfold roundsLeft
  rcases hless with hfst | ⟨hfst, hsnd⟩
  · -- One iteration less makes up for all the repairs of a new candidate.
    have hmul : ((e.left q).1 + 1) * (e.settings.limits.maxRepairs + 1)
        ≤ (e.left p).1 * (e.settings.limits.maxRepairs + 1) := Nat.mul_le_mul_right _ hfst
    rw [Nat.add_mul, Nat.one_mul] at hmul
    omega
  · rw [hfst]
    omega

/-- The rounds that are left are enough to end the build. -/
theorem exists_rounds_examine (g : Goal) (c : Diagram) (p : Progress σ) :
    ∃ n ≤ e.roundsLeft p, e.rounds g n (.again c p) = .ended (e.examine g c p) := by
  fun_induction examine e g c p with
  | case1 c p r heq =>
    refine ⟨1, Nat.le_add_left _ _, ?_⟩
    rw [rounds, heq]
    rfl
  | case2 c p c' p' heq ih =>
    rcases ih with ⟨n, hn, hrounds⟩
    -- This round is one of those that were left.
    have hlt := e.roundsLeft_lt heq
    refine ⟨n + 1, by omega, ?_⟩
    rw [rounds, heq]
    exact hrounds

/-- A build ends within as many rounds as its limits allow. -/
theorem exists_rounds_solve (s : Seed) (g : Goal) (world : σ) :
    ∃ n ≤ (e.settings.limits.maxIterations + 1) * (e.settings.limits.maxRepairs + 1),
      e.rounds g n (e.opening s g world) = .ended (e.solve s g world) := by
  have hleft : ∀ p : Progress σ, e.roundsLeft p
      ≤ (e.settings.limits.maxIterations + 1) * (e.settings.limits.maxRepairs + 1) := by
    intro p
    have hiterations : (e.left p).1 ≤ e.settings.limits.maxIterations := Nat.sub_le _ _
    have hrepairs : (e.left p).2 ≤ e.settings.limits.maxRepairs := Nat.sub_le _ _
    have hmul := Nat.mul_le_mul_right (e.settings.limits.maxRepairs + 1) hiterations
    unfold roundsLeft
    rw [Nat.add_mul e.settings.limits.maxIterations, Nat.one_mul]
    omega
  -- Asking for an outline is no round, so it makes no difference to the count.
  cases s with
  | diagram d =>
    rcases e.exists_rounds_examine g (prepare g d) { world } with ⟨n, hn, hrounds⟩
    exact ⟨n, hn.trans (hleft _), hrounds⟩
  | outline r =>
    unfold opening solve
    dsimp only
    rcases e.consult (.outline r) { world } with ⟨error | d, p⟩
    · exact ⟨0, Nat.zero_le _, rfl⟩
    · rcases e.exists_rounds_examine g (prepare g d) p with ⟨n, hn, hrounds⟩
      exact ⟨n, hn.trans (hleft _), hrounds⟩

end Engine

/-! ### Calls -/

/-- A ledger within the limits, with so many submissions more than rounds that
    have gone on. -/
structure Ledger.IsWithin (limits : BuildLimits) (more : Nat) (l : Ledger) : Prop where
  requests : l.requests = l.iterations
  calls : l.calls ≤ l.requests + 1
  iterations : l.iterations ≤ limits.maxIterations
  repairs : l.repairs ≤ limits.maxRepairs
  submissions : l.submissions ≤ l.iterations * (limits.maxRepairs + 1) + l.repairs + more

/-- The bounds on the calls of a build that has ended. -/
structure Ledger.IsBounded (limits : BuildLimits) (l : Ledger) : Prop where
  requests : l.requests ≤ limits.maxIterations
  calls : l.calls ≤ limits.maxIterations + 1
  submissions : l.submissions ≤ (limits.maxIterations + 1) * (limits.maxRepairs + 1)

theorem Ledger.IsWithin.mono {limits : BuildLimits} {m n : Nat} {l : Ledger}
    (h : l.IsWithin limits m) (hmn : m ≤ n) : l.IsWithin limits n :=
  { h with submissions := h.submissions.trans (Nat.add_le_add_left hmn _) }

/-- Within the limits and at most one submission ahead, everything is
    bounded. -/
theorem Ledger.IsWithin.isBounded {limits : BuildLimits} {l : Ledger} (h : l.IsWithin limits 1) :
    l.IsBounded limits where
  requests := h.requests ▸ h.iterations
  calls := by
    have hcalls := h.calls
    have hrequests := h.requests
    have hiterations := h.iterations
    omega
  submissions := by
    have hsubmissions := h.submissions
    have hrepairs := h.repairs
    -- The last series of repairs is cut off by its limit, not by another iteration.
    have hmul := Nat.mul_le_mul_right (limits.maxRepairs + 1) h.iterations
    rw [Nat.add_mul, Nat.one_mul]
    omega

namespace Engine

variable {σ : Type} (e : Engine σ)

/-- A build that ended within its limits. If it is exhausted, it has made every
    request that it may. -/
structure IsBounded (r : Ended σ) : Prop where
  ledger : r.2.ledger.IsBounded e.settings.limits
  exhausted : ∀ f n, r.1 = .error f → f.error = .budgetExhausted n →
    n = e.settings.limits.maxIterations ∧ r.2.ledger.requests = e.settings.limits.maxIterations

/-- Success and failures of other kinds leave only the calls to be bounded. -/
theorem isBounded_succeed {p : Progress σ} (h : p.ledger.IsBounded e.settings.limits)
    (d : Diagram) : e.IsBounded (p.succeed d) where
  ledger := h
  exhausted f n hf := absurd hf (by simp only [Progress.succeed, reduceCtorEq, not_false_eq_true])

theorem isBounded_fail {p : Progress σ} (h : p.ledger.IsBounded e.settings.limits)
    {err : BuildError} (herr : ∀ n, err ≠ .budgetExhausted n) : e.IsBounded (p.fail err) where
  ledger := h
  exhausted f n hf hn := by
    rw [Progress.fail, Except.error.injEq] at hf
    rw [← hf] at hn
    exact absurd hn (herr n)

theorem isBounded_stop {p : Progress σ} (h : p.ledger.IsBounded e.settings.limits)
    {err : BuildError} (herr : err = .cancelled ∨ ∃ o, err = .oracle o) :
    e.IsBounded (p.stop err) := by
  have hother : ∀ n, err ≠ .budgetExhausted n := by
    rcases herr with rfl | ⟨o, rfl⟩
    · exact fun _ => BuildError.noConfusion
    · exact fun _ => BuildError.noConfusion
  have hblamed : ∀ r, (p.blame r).ledger.IsBounded e.settings.limits := fun _ => h
  exact Progress.stop_cases (fun _ d _ _ => e.isBounded_succeed (hblamed _) d)
    (fun _ _ _ => e.isBounded_fail (hblamed _) hother) fun _ => e.isBounded_fail h hother

/-- The build gives up only when no request is left. -/
theorem isBounded_exhausted {p : Progress σ} (h : p.ledger.IsWithin e.settings.limits 1)
    (hspent : ¬ p.iterations < e.settings.limits.maxIterations) : e.IsBounded p.exhausted := by
  refine Progress.exhausted_cases (fun d _ => e.isBounded_succeed h.isBounded d) fun _ =>
    ⟨h.isBounded, fun f n hf hn => ?_⟩
  have hle : p.iterations ≤ e.settings.limits.maxIterations := h.iterations
  have hspent' : p.iterations = e.settings.limits.maxIterations := by omega
  rw [Progress.fail, Except.error.injEq] at hf
  rw [← hf, BuildError.budgetExhausted.injEq] at hn
  exact ⟨hn.symm.trans hspent', h.requests.trans hspent'⟩

/-! ### One round -/

/-- What a request does to the ledger: one more iteration, and one more call
    unless the build was cancelled before. -/
theorem isBounded_request {r : Request} (hr : ∀ reply, (Event.asked r reply).isRequest = true)
    {p q : Progress σ} {x : Except BuildError Diagram}
    (h : p.ledger.IsWithin e.settings.limits 1)
    (hroom : p.ledger.iterations < e.settings.limits.maxIterations)
    (hconsult : e.consult r { p with iterations := p.iterations + 1 } = (x, q)) :
    q.ledger.IsBounded e.settings.limits ∧
      (∀ d, x = .ok d →
        ({ q with repairs := 0 } : Progress σ).ledger.IsWithin e.settings.limits 0) := by
  have hbounded := h.isBounded
  rcases e.consult_ledger hconsult with ⟨hx, hledger⟩ | ⟨reply, hledger⟩
  -- If the build was cancelled, nothing has changed and there is no candidate.
  · rw [hledger]
    refine ⟨⟨hbounded.requests, hbounded.calls, hbounded.submissions⟩, fun d hd => ?_⟩
    rw [hx] at hd
    exact absurd hd (by simp only [reduceCtorEq, not_false_eq_true])
  · -- The one more call is a request, and nothing was submitted with it.
    have hrequests : q.ledger.requests = p.ledger.requests + 1 := by
      rw [hledger, Ledger.enter, hr reply]
      rfl
    have hcalls : q.ledger.calls = p.ledger.calls + 1 := by rw [hledger]; rfl
    have hsubmissions : q.ledger.submissions = p.ledger.submissions := by rw [hledger]; rfl
    have hiterations : q.ledger.iterations = p.ledger.iterations + 1 := by rw [hledger]; rfl
    have hequal := h.requests
    have hcallsBefore := h.calls
    refine ⟨⟨by omega, by omega, hsubmissions ▸ hbounded.submissions⟩, fun d _ => ?_⟩
    refine ⟨?_, ?_, ?_, Nat.zero_le _, ?_⟩
    · exact hrequests.trans (by rw [hequal]; exact hiterations.symm)
    · have hcallsAfter : q.ledger.calls ≤ q.ledger.requests + 1 := by omega
      exact hcallsAfter
    · have hwithin : q.ledger.iterations ≤ e.settings.limits.maxIterations := by omega
      exact hwithin
    · -- A new series is begun, which makes up for the submissions of the last one.
      have hbefore := h.submissions
      have hrepairs := h.repairs
      have hafter : q.ledger.submissions
          ≤ q.ledger.iterations * (e.settings.limits.maxRepairs + 1) + 0 + 0 := by
        rw [hsubmissions, hiterations, Nat.add_mul, Nat.one_mul]
        omega
      exact hafter

theorem holds_askAgain_within {g : Goal} {r : Request}
    (hr : ∀ reply, (Event.asked r reply).isRequest = true) {p : Progress σ}
    (h : p.ledger.IsWithin e.settings.limits 1)
    (hroom : p.ledger.iterations < e.settings.limits.maxIterations) :
    (e.askAgain g r p).Holds (fun q => q.ledger.IsWithin e.settings.limits 0) e.IsBounded := by
  refine e.askAgain_cases (fun d q hconsult => ?_) fun err q hconsult => ?_
  · exact (e.isBounded_request hr h hroom hconsult).2 d rfl
  · have hbounded := (e.isBounded_request hr h hroom hconsult).1
    exact e.isBounded_stop hbounded ((e.consult_error hconsult).imp And.left id)

/-- A repair makes up for the submission that led to it, if there was one. -/
theorem holds_takeRepair_within {k : RepairKind} {c : Diagram} {p : Progress σ}
    (h : p.ledger.IsWithin e.settings.limits 1)
    (hroom : p.repairs < e.settings.limits.maxRepairs) :
    (takeRepair k c p).Holds (fun q => q.ledger.IsWithin e.settings.limits 0) e.IsBounded := by
  rw [takeRepair, Round.Holds, ledger_repaired]
  refine ⟨h.requests, h.calls, h.iterations, hroom, ?_⟩
  have hsubmissions := h.submissions
  have hafter : p.ledger.submissions
      ≤ p.ledger.iterations * (e.settings.limits.maxRepairs + 1) + (p.ledger.repairs + 1) + 0 := by
    omega
  exact hafter

theorem holds_accept_within {g : Goal} {d : Diagram} {t : Text} {p : Progress σ}
    (h : p.ledger.IsWithin e.settings.limits 1) :
    (e.accept g d t p).Holds (fun q => q.ledger.IsWithin e.settings.limits 0) e.IsBounded := by
  have hkept : ({ e.settleFix t p with accepted := some d } : Progress σ).ledger.IsWithin
      e.settings.limits 1 := by
    have hsettled : (e.settleFix t p).ledger.IsWithin e.settings.limits 1 := by
      rw [ledger_settleFix]
      exact h
    exact ⟨hsettled.requests, hsettled.calls, hsettled.iterations, hsettled.repairs,
      hsettled.submissions⟩
  refine e.accept_cases (fun hdone => ?_) fun excerpt target hexpansion => ?_
  · exact e.isBounded_succeed hkept.isBounded d
  · exact e.holds_askAgain_within (fun _ => rfl) hkept (e.expansion?_allowed hexpansion)

theorem holds_reject_within {g : Goal} {c d : Diagram} {t : Text} {report : Report} {r : Objection}
    {p : Progress σ} (h : p.ledger.IsWithin e.settings.limits 1) :
    (e.reject g c d t report r p).Holds (fun q => q.ledger.IsWithin e.settings.limits 0)
      e.IsBounded := by
  have hblamed : (blameRejection r report p).ledger.IsWithin e.settings.limits 1 := h
  refine e.reject_cases (fun k c' hrepair => ?_) (fun examples q hexamples hroom => ?_)
    fun hspent => ?_
  · exact e.holds_takeRepair_within hblamed (e.nextRepair?_allowed hrepair)
  · have hledger := e.examples_ledger hexamples
    refine e.holds_askAgain_within (fun _ => rfl) ?_ ?_
    · rw [hledger]
      exact hblamed
    · rw [hledger]
      exact hroom
  · exact e.isBounded_exhausted hblamed hspent

/-- Asking the validator is at most one submission. -/
theorem isWithin_submit {t : Text} {p q : Progress σ} {v : Verdict}
    (h : p.ledger.IsWithin e.settings.limits 0) (hsubmit : e.submit t p = (v, q)) :
    q.ledger.IsWithin e.settings.limits 1 := by
  rcases e.submit_ledger hsubmit with ⟨-, hledger⟩ | hledger
  · rw [hledger]
    exact h.mono (Nat.zero_le 1)
  · rw [hledger]
    exact ⟨h.requests, h.calls, h.iterations, h.repairs, Nat.succ_le_succ h.submissions⟩

/-- One round stays within the limits, or ends bounded. -/
theorem holds_round_within {g : Goal} (c : Diagram) (p : Progress σ)
    (h : p.ledger.IsWithin e.settings.limits 0) :
    (e.round g c p).Holds (fun q => q.ledger.IsWithin e.settings.limits 0) e.IsBounded := by
  have hpresent : (e.present c p).ledger.IsWithin e.settings.limits 0 := by
    rw [ledger_present]
    exact h
  refine e.round_cases (fun k c' hok hrepair => ?_) (fun q hsubmit => ?_)
    (fun r q hsubmit => ?_) fun q hsubmit => ?_
  · exact e.holds_takeRepair_within (hpresent.mono (Nat.zero_le 1)) (e.nextRepair?_allowed hrepair)
  · exact e.holds_accept_within (e.isWithin_submit hpresent hsubmit)
  · exact e.holds_reject_within (e.isWithin_submit hpresent hsubmit)
  · exact e.isBounded_stop (e.isWithin_submit hpresent hsubmit).isBounded (Or.inl rfl)

/-! ### A run -/

/-- Every build ends within its limits. -/
theorem isBounded_solve (s : Seed) (g : Goal) (world : σ) : e.IsBounded (e.solve s g world) := by
  have hstart : ({ world } : Progress σ).ledger.IsWithin e.settings.limits 0 :=
    ⟨rfl, Nat.zero_le _, Nat.zero_le _, Nat.zero_le _, Nat.zero_le _⟩
  -- The outline is a call, but no request.
  have houtline : ∀ r x q, e.consult (.outline r) { world } = (x, q) →
      q.ledger.IsWithin e.settings.limits 0 := by
    intro r x q hconsult
    rcases e.consult_ledger hconsult with ⟨-, hledger⟩ | ⟨reply, hledger⟩
    · rw [hledger]
      exact hstart
    · rw [hledger]
      exact ⟨rfl, Nat.le_refl _, Nat.zero_le _, Nat.zero_le _, Nat.zero_le _⟩
  refine e.solve_induction e.holds_round_within hstart (fun r d q hconsult => ?_)
    fun r err q hconsult => ?_
  · exact houtline r _ q hconsult
  · have hwithin := (houtline r _ q hconsult).mono (Nat.zero_le 1)
    exact e.isBounded_stop hwithin.isBounded ((e.consult_error hconsult).imp And.left id)

/-- A build ends, whatever the generator and the validator do. It has at most as
    many rounds as its limits allow, and so many submissions. It makes at most
    as many requests to refine or expand as there may be iterations, and one
    more call for the outline. It is exhausted only when it has made all those
    requests and no text was accepted. -/
theorem solve_limits (s : Seed) (g : Goal) (world : σ) :
    (∃ n ≤ (e.settings.limits.maxIterations + 1) * (e.settings.limits.maxRepairs + 1),
      e.rounds g n (e.opening s g world) = .ended (e.solve s g world)) ∧
    (e.solve s g world).2.log.countP Event.isRequest ≤ e.settings.limits.maxIterations ∧
    (e.solve s g world).2.log.countP Event.isCall ≤ e.settings.limits.maxIterations + 1 ∧
    (e.solve s g world).2.log.countP Event.isSubmission
      ≤ (e.settings.limits.maxIterations + 1) * (e.settings.limits.maxRepairs + 1) ∧
    ∀ f n, (e.solve s g world).1 = .error f → f.error = .budgetExhausted n →
      n = e.settings.limits.maxIterations ∧
      (e.solve s g world).2.log.countP Event.isRequest = e.settings.limits.maxIterations ∧
      (e.solve s g world).2.log.filterMap Event.accepted? = [] := by
  have hbounded := e.isBounded_solve s g world
  refine ⟨e.exists_rounds_solve s g world, hbounded.ledger.requests, hbounded.ledger.calls,
    hbounded.ledger.submissions, fun f n hf hn => ?_⟩
  rcases hbounded.exhausted f n hf hn with ⟨hspent, hrequests⟩
  refine ⟨hspent, hrequests, ?_⟩
  -- A build that kept anything would have ended with that.
  have hfaithful := e.isFaithful_solve s g world
  unfold IsFaithful at hfaithful
  rw [hf] at hfaithful
  rcases hfaithful with hcancelled | hnone
  · rw [hn] at hcancelled
    exact BuildError.noConfusion hcancelled
  · exact hnone

/-- With one iteration, a validator that accepts nothing and a generator that
    always has an answer, the one request is made and the build is exhausted. -/
theorem solve_limits_rejected :
    let e : Engine Unit :=
      { Engine.offline { limits := { maxIterations := 1 } } with
        ask := fun _ _ =>
          (some (.ok ⟨"\x7b\"nodes\":[\x7b\"id\":\"a\",\"label\":\"b\"\x7d]\x7d".toList, none⟩), ())
        validate := fun _ _ => (some (.error ⟨"no".toList, none⟩), ()) }
    let r := e.solve (.diagram (Diagram.single "a".toList [])) { direction := .down } ()
    (∃ f, r.1 = .error f ∧ f.error = .budgetExhausted 1) ∧
      r.2.log.countP Event.isRequest = 1 ∧ r.2.log.filterMap Event.accepted? = [] := by
  intro e r
  have hrounds : (e.rounds { direction := .down } 2 (e.opening
      (.diagram (Diagram.single "a".toList [])) { direction := .down } ())).Holds
      (fun _ => False) fun r => r.1.mapError Failure.error = .error (.budgetExhausted 1) := by
    decide +kernel
  have hexhausted : r.1.mapError Failure.error = .error (.budgetExhausted 1) :=
    e.solve_of_rounds hrounds
  rcases hr : r.1 with f | found
  · rw [hr] at hexhausted
    have hf : f.error = .budgetExhausted 1 := Except.error.inj hexhausted
    rcases e.solve_limits _ _ _ with ⟨-, -, -, -, hspent⟩
    rcases hspent f 1 hr hf with ⟨-, hrequests, haccepted⟩
    exact ⟨⟨f, rfl, hf⟩, hrequests, haccepted⟩
  · rw [hr] at hexhausted
    exact absurd hexhausted (by simp only [Except.mapError, reduceCtorEq, not_false_eq_true])

end Engine

end Flowchart
