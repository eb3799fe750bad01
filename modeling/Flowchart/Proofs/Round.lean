import Flowchart.Build.Loop

/-!
# What a Round Can Do

The control flow of a build, said once. A round takes a repair, submits a text,
asks for another candidate or ends, and each of its functions has a rule here
that lists what it comes to and under which conditions. An invariant of the
build is then shown by going through the cases of a rule, and none of its proofs
looks at the definitions again.

The state changes in few ways on the way through a round. Asking somebody logs
one event, unless the build was cancelled before, and `Engine.submit_eq` and
`Engine.consult_eq` say what the state is afterwards. Whatever has to do with the
memory does no more than `Progress.Records` allows.

`Engine.examine_leads` carries what holds of a single round to a whole run, and
`Engine.solve_cases` does the same for the first candidate. For what does not
depend on the candidate there are `Engine.examine_induction` and
`Engine.solve_induction`.

For a run on fixed inputs the recursion of `Engine.examine` is of no use, since
nothing evaluates it. `Engine.rounds` counts the rounds instead. It can be
evaluated, and `Engine.solve_of_rounds` says what it tells about the run.

## Main definitions

* `Reply.result`, `Reply.usage?`: What comes of a reply.
* `Progress.Records`: Nothing happened but that examples were recorded.
* `Round.Leads`: One thing holds of the next candidate, another if there is none.
* `Round.Holds`: One thing holds if a round goes on, another if it ends.
* `Engine.opening`: What a build begins with.
* `Engine.rounds`: So many rounds of a build and no more.

## Theorems

* `Engine.submit_eq`, `Engine.consult_eq`: What asking somebody does to the state.
* `Engine.records_remember`, `Engine.records_settleFix`, `Engine.records_examples`:
  What the memory does to it.
* `Progress.stop_cases`, `Progress.exhausted_cases`: Ways to end.
* `Engine.askAgain_cases`, `Engine.accept_cases`, `Engine.reject_cases`: The
  parts of a round.
* `Engine.round_cases`: What a round can do.
* `Engine.round_of_rejected`, `Engine.round_of_accepted`: What a round does with
  a known verdict.
* `Engine.solve_cases`: What a build can begin with.
* `Engine.examine_leads`, `Engine.solve_leads`, `Engine.rounds_leads`: From a
  round to a run, or to so many rounds of it.
* `Engine.examine_induction`, `Engine.solve_induction`: The same for what holds of
  any candidate.
* `Engine.solve_of_rounds`: From so many rounds to a run that ends in them.
-/

namespace Flowchart

/-! ### What is done to the state -/

/-- What comes of a reply: the diagram in it, or why there is none. -/
def Reply.result : Reply → Except BuildError Diagram
  | none => .error .cancelled
  | some (.error o) => .error (.oracle o)
  | some (.ok completion) => (Completion.read completion.text).mapError .oracle

/-- How many tokens a reply took, if it says so. -/
def Reply.usage? : Reply → Option Usage
  | some (.ok completion) => completion.usage
  | _ => none

namespace Progress

variable {σ : Type} {p q : Progress σ}

/-- All that happened between two states is that examples were recorded. Apart from
    what is shared, only the failure that waits for its fix may be another one. -/
def Records (p q : Progress σ) : Prop :=
  ∃ (world : σ) (examples : List Example) (pendingFix : Option Example),
    q = { p with world, log := p.log ++ examples.map Event.recorded, pendingFix }

/-- Nothing was recorded either. -/
theorem records_nil (world : σ) (pendingFix : Option Example) (p : Progress σ) :
    p.Records { p with world, pendingFix } :=
  ⟨world, [], pendingFix, by rw [List.map_nil, List.append_nil]⟩

theorem Records.trans {r : Progress σ} (h : p.Records q) (h' : q.Records r) : p.Records r := by
  rcases h with ⟨world, examples, fix, rfl⟩
  rcases h' with ⟨world', examples', fix', rfl⟩
  refine ⟨world', examples ++ examples', fix', ?_⟩
  rw [List.map_append, ← List.append_assoc]

/-- What the log says of anything but recordings is what it said before. -/
theorem Records.filterMap_log {α : Type} {f : Event → Option α}
    (hf : ∀ x, f (.recorded x) = none) (h : p.Records q) :
    q.log.filterMap f = p.log.filterMap f := by
  rcases h with ⟨world, examples, fix, rfl⟩
  have hnone : (examples.map Event.recorded).filterMap f = [] := by
    rw [List.filterMap_eq_nil_iff, List.forall_mem_map]
    exact fun x _ => hf x
  rw [List.filterMap_append, hnone, List.append_nil]

theorem Records.countP_log {f : Event → Bool} (hf : ∀ x, f (.recorded x) = false)
    (h : p.Records q) : q.log.countP f = p.log.countP f := by
  rcases h with ⟨world, examples, fix, rfl⟩
  have hnone : (examples.map Event.recorded).countP f = 0 := by
    rw [List.countP_eq_zero, List.forall_mem_map]
    exact fun x _ => by rw [hf x]; exact Bool.false_ne_true
  rw [List.countP_append, hnone, Nat.add_zero]

/-- A build that is cut short ends with what was accepted, if the generator is to
    blame and anything was. Otherwise it fails. -/
@[elab_as_elim]
theorem stop_cases {err : BuildError} {motive : Ended σ → Prop}
    (kept : ∀ o d, err = .oracle o → p.accepted = some d →
      motive ((p.blame (.of .oracleFailure o.message)).succeed d))
    (failed : ∀ o, err = .oracle o → p.accepted = none →
      motive ((p.blame (.of .oracleFailure o.message)).fail err))
    (cut : (∀ o, err ≠ .oracle o) → motive (p.fail err)) : motive (p.stop err) := by
  unfold stop
  split
  · rename_i o
    -- Putting a failure down as a reason leaves what was accepted.
    have hblamed : (p.blame (.of .oracleFailure o.message)).accepted = p.accepted := rfl
    dsimp only
    rw [hblamed]
    rcases haccepted : p.accepted with _ | d
    · exact failed o rfl haccepted
    · exact kept o d rfl haccepted
  · rename_i hother
    exact cut hother

/-- So does one that has used up its iterations. -/
@[elab_as_elim]
theorem exhausted_cases {motive : Ended σ → Prop}
    (kept : ∀ d, p.accepted = some d → motive (p.succeed d))
    (failed : p.accepted = none → motive (p.fail (.budgetExhausted p.iterations))) :
    motive p.exhausted := by
  unfold exhausted
  rcases haccepted : p.accepted with _ | d
  · exact failed haccepted
  · exact kept d haccepted

end Progress

namespace Engine

open Progress

variable {σ : Type} {e : Engine σ} {p q : Progress σ}

/-- The validator is asked, unless the build was cancelled before. -/
theorem submit_eq {t : Text} {v : Verdict} (h : e.submit t p = (v, q)) :
    (e.isCancelled p.world = true ∧ v = none ∧ q = p) ∨
      ∃ world, e.validate t p.world = (v, world) ∧
        q = { p with world }.happen (.validated t v) := by
  unfold submit at h
  split at h
  · rename_i hcancelled
    rw [Prod.mk.injEq] at h
    exact Or.inl ⟨hcancelled, h.1.symm, h.2.symm⟩
  · dsimp only at h
    rw [Prod.mk.injEq] at h
    refine Or.inr ⟨(e.validate t p.world).2, by rw [← h.1], ?_⟩
    rw [← h.2, ← h.1]

/-- The generator is asked, unless the build was cancelled before. -/
theorem consult_eq {r : Request} {x : Except BuildError Diagram}
    (h : e.consult r p = (x, q)) :
    (e.isCancelled p.world = true ∧ x = .error .cancelled ∧ q = p) ∨
      ∃ reply world, e.ask r p.world = (reply, world) ∧ x = reply.result ∧
        q = { p with world, usage := (reply.usage?.map p.usage.add).getD p.usage }.happen
          (.asked r reply) := by
  unfold consult at h
  split at h
  · rename_i hcancelled
    rw [Prod.mk.injEq] at h
    exact Or.inl ⟨hcancelled, h.1.symm, h.2.symm⟩
  · refine Or.inr ⟨(e.ask r p.world).1, (e.ask r p.world).2, rfl, ?_⟩
    dsimp only at h
    -- Whatever the reply is, it is logged, and it is only read in another way.
    split at h <;>
    · rename_i hreply
      rw [Prod.mk.injEq] at h
      rw [hreply, ← h.1, ← h.2, hreply]
      exact ⟨rfl, rfl⟩

theorem records_remember (e : Engine σ) (x : Example) (p : Progress σ) :
    p.Records (e.remember x p) := by
  unfold remember
  split
  · exact ⟨e.record x p.world, [x], p.pendingFix, rfl⟩
  · exact records_nil p.world p.pendingFix p

/-- The fix that was pending is recorded. -/
theorem records_settleFix (e : Engine σ) (t : Text) (p : Progress σ) :
    p.Records (e.settleFix t p) := by
  unfold settleFix
  split
  · exact (records_nil p.world none p).trans (e.records_remember _ _)
  · exact records_nil p.world p.pendingFix p

/-- Looking up examples changes nothing but what is shared. -/
theorem examples_eq {examples : List Example} (h : e.examples p = (examples, q)) :
    ∃ world, q = { p with world } := by
  unfold Engine.examples at h
  split at h
  · rw [Prod.mk.injEq] at h
    exact ⟨_, h.2.symm⟩
  · rw [Prod.mk.injEq] at h
    exact ⟨p.world, h.2.symm⟩

/-- A failure is recorded, and others are looked up. -/
theorem records_examples {x : Example} {examples : List Example}
    (h : e.examples (e.noteFailure x p) = (examples, q)) : p.Records q := by
  rcases examples_eq h with ⟨world, rfl⟩
  exact (e.records_remember x p).trans (records_nil world (some x) _)

end Engine

/-! ### Ways to go on -/

/-- One thing holds of the next candidate if a round goes on, another if it
    ends. -/
def Round.Leads {σ : Type} (again : Diagram → Progress σ → Prop) (ended : Ended σ → Prop) :
    Round σ → Prop
  | .again c p => again c p
  | .ended r => ended r

/-- One thing holds if a round goes on, another if it ends. -/
def Round.Holds {σ : Type} (again : Progress σ → Prop) (ended : Ended σ → Prop) : Round σ → Prop
  | .again _ p => again p
  | .ended r => ended r

instance {σ : Type} {again : Progress σ → Prop} {ended : Ended σ → Prop} [DecidablePred again]
    [DecidablePred ended] (r : Round σ) : Decidable (r.Holds again ended) :=
  match r with
  | .again _ p => inferInstanceAs (Decidable (again p))
  | .ended r => inferInstanceAs (Decidable (ended r))

namespace Engine

variable {σ : Type} (e : Engine σ)

/-! ### One round -/

/-- Asking again comes to what the generator replies: a candidate for another
    round, or the end. -/
@[elab_as_elim]
theorem askAgain_cases {g : Goal} {r : Request} {p : Progress σ} {motive : Round σ → Prop}
    (answered : ∀ d q, e.consult r { p with iterations := p.iterations + 1 } = (.ok d, q) →
      motive (.again (prepare g d) { q with repairs := 0 }))
    (failed : ∀ err q, e.consult r { p with iterations := p.iterations + 1 } = (.error err, q) →
      motive (.ended (q.stop err))) :
    motive (e.askAgain g r p) := by
  unfold askAgain
  rcases hconsult : e.consult r { p with iterations := p.iterations + 1 } with ⟨err | d, q⟩
  · exact failed err q hconsult
  · exact answered d q hconsult

/-- An accepted diagram is kept, and then it is the result or is asked to
    grow. -/
@[elab_as_elim]
theorem accept_cases {g : Goal} {d : Diagram} {t : Text} {p : Progress σ}
    {motive : Round σ → Prop}
    (done : e.expansion? g d { e.settleFix t p with accepted := some d } = none →
      motive (.ended (Progress.succeed { e.settleFix t p with accepted := some d } d)))
    (expanded : ∀ excerpt target,
      e.expansion? g d { e.settleFix t p with accepted := some d } = some (excerpt, target) →
      motive (e.askAgain g (.expand ⟨d, excerpt, target, g.mustInclude, g.exclude⟩)
        { e.settleFix t p with accepted := some d })) :
    motive (e.accept g d t p) := by
  unfold accept
  dsimp only
  rcases hexpansion : e.expansion? g d { e.settleFix t p with accepted := some d }
    with _ | ⟨excerpt, target⟩
  · exact done hexpansion
  · exact expanded excerpt target hexpansion

/-- A rejected candidate is repaired. If it cannot be, the generator is asked to
    refine it as long as iterations are left. -/
@[elab_as_elim]
theorem reject_cases {g : Goal} {c d : Diagram} {t : Text} {report : Report} {r : Objection}
    {p : Progress σ} {motive : Round σ → Prop}
    (repaired : ∀ k c', e.nextRepair? (RepairKind.forReason (.ofFailure r.message r.code)
        ++ RepairKind.forIssues report.highCodes) c (blameRejection r report p) = some (k, c') →
      motive (takeRepair k c' (blameRejection r report p)))
    (refined : ∀ examples q, e.examples (e.noteFailure { error := r.message, invalid := t }
        (blameRejection r report p)) = (examples, q) →
      p.iterations < e.settings.limits.maxIterations →
      motive (e.askAgain g (.refine ⟨d, r.message, q.reasons, examples, g.budget⟩) q))
    (spent : ¬ p.iterations < e.settings.limits.maxIterations →
      motive (.ended (blameRejection r report p).exhausted)) :
    motive (e.reject g c d t report r p) := by
  unfold reject
  dsimp only
  rcases hrepair : e.nextRepair? (RepairKind.forReason (.ofFailure r.message r.code)
    ++ RepairKind.forIssues report.highCodes) c (blameRejection r report p) with _ | ⟨k, c'⟩
  · -- The rejection added reasons and no iteration, so there is room now just if there
    -- was room before.
    by_cases hroom : p.iterations < e.settings.limits.maxIterations
    · have hblamed : (blameRejection r report p).iterations < e.settings.limits.maxIterations :=
        hroom
      rcases hexamples : e.examples (e.noteFailure { error := r.message, invalid := t }
        (blameRejection r report p)) with ⟨examples, q⟩
      simp only [if_pos hblamed]
      exact refined examples q hexamples hroom
    · have hblamed : ¬ (blameRejection r report p).iterations < e.settings.limits.maxIterations :=
        hroom
      simp only [if_neg hblamed]
      exact spent hroom
  · exact repaired k c' hrepair

/-- A round repairs a candidate that the linter finds fault with, or it submits
    the text of the candidate and does what the verdict says. -/
@[elab_as_elim]
theorem round_cases {g : Goal} {c : Diagram} {p : Progress σ} {motive : Round σ → Prop}
    (repaired : ∀ k c', (Lint.lint (e.print (e.canonical c))).ok = false →
      e.nextRepair? (RepairKind.forIssues (Lint.lint (e.print (e.canonical c))).highCodes) c
        (e.present c p) = some (k, c') →
      motive (takeRepair k c' (e.present c p)))
    (accepted : ∀ q, e.submit (e.print (e.canonical c)) (e.present c p) = (some (.ok ()), q) →
      motive (e.accept g (e.canonical c) (e.print (e.canonical c)) q))
    (rejected : ∀ r q, e.submit (e.print (e.canonical c)) (e.present c p) = (some (.error r), q) →
      motive (e.reject g c (e.canonical c) (e.print (e.canonical c))
        (Lint.lint (e.print (e.canonical c))) r q))
    (cancelled : ∀ q, e.submit (e.print (e.canonical c)) (e.present c p) = (none, q) →
      motive (.ended (q.stop .cancelled))) :
    motive (e.round g c p) := by
  unfold round
  dsimp only
  split
  · rename_i k c' hpreflight
    -- A repair at this point is one for the findings of the linter, so there were
    -- some.
    by_cases hok : (Lint.lint (e.print (e.canonical c))).ok = true
    · rw [if_pos hok] at hpreflight
      exact absurd hpreflight (by simp only [reduceCtorEq, not_false_eq_true])
    · rw [if_neg hok] at hpreflight
      exact repaired k c' (Bool.eq_false_iff.2 hok) hpreflight
  · rcases hsubmit : e.submit (e.print (e.canonical c)) (e.present c p) with ⟨_ | r | u, q⟩
    · exact cancelled q hsubmit
    · exact rejected r q hsubmit
    · exact accepted q hsubmit

/-- A round whose text is rejected takes the repair that there is. -/
theorem round_of_rejected {g : Goal} {c c' : Diagram} {p q : Progress σ} {r : Objection}
    {k : RepairKind} (hlint : (Lint.lint (e.print (e.canonical c))).ok = true)
    (hsubmit : e.submit (e.print (e.canonical c)) (e.present c p) = (some (.error r), q))
    (hrepair : e.nextRepair? (RepairKind.forReason (.ofFailure r.message r.code)
        ++ RepairKind.forIssues (Lint.lint (e.print (e.canonical c))).highCodes) c
      (blameRejection r (Lint.lint (e.print (e.canonical c))) q) = some (k, c')) :
    e.round g c p = takeRepair k c' (blameRejection r (Lint.lint (e.print (e.canonical c))) q) := by
  unfold round
  dsimp only
  rw [if_pos hlint]
  dsimp only
  rw [hsubmit]
  unfold reject
  dsimp only
  rw [hrepair]

/-- A round whose text is accepted ends unless the diagram should grow. -/
theorem round_of_accepted {g : Goal} {c : Diagram} {p q : Progress σ}
    (hlint : (Lint.lint (e.print (e.canonical c))).ok = true)
    (hsubmit : e.submit (e.print (e.canonical c)) (e.present c p) = (some (.ok ()), q))
    (hexpansion : e.expansion? g (e.canonical c)
      { e.settleFix (e.print (e.canonical c)) q with accepted := some (e.canonical c) } = none) :
    e.round g c p = .ended (Progress.succeed { e.settleFix (e.print (e.canonical c)) q with
      accepted := some (e.canonical c) } (e.canonical c)) := by
  unfold round
  dsimp only
  rw [if_pos hlint]
  dsimp only
  rw [hsubmit]
  unfold accept
  dsimp only
  rw [hexpansion]

/-! ### From a round to a run -/

section Run

variable {e} {g : Goal} {again : Diagram → Progress σ → Prop} {ended : Ended σ → Prop}

/-- What every round keeps, and what holds at the end of a round that had it,
    holds at the end of a run. -/
theorem examine_leads (hround : ∀ c p, again c p → (e.round g c p).Leads again ended)
    {c : Diagram} {p : Progress σ} (h : again c p) : ended (e.examine g c p) := by
  -- The induction follows the rounds, and the hypothesis is about the rest of them.
  fun_induction examine e g c p with
  | case1 c p r heq =>
    have hleads := hround c p h
    rw [heq] at hleads
    exact hleads
  | case2 c p c' p' heq ih =>
    have hleads := hround c p h
    rw [heq] at hleads
    exact ih hleads

end Run

/-- The same for what holds whatever the candidate is. -/
theorem examine_induction {g : Goal} {again : Progress σ → Prop} {ended : Ended σ → Prop}
    (hround : ∀ c p, again p → (e.round g c p).Holds again ended) (c : Diagram) {p : Progress σ}
    (h : again p) : ended (e.examine g c p) := by
  -- What does not depend on the candidate is a case of what does.
  have hleads : ∀ c p, again p → (e.round g c p).Leads (fun _ => again) ended := by
    intro c p hp
    have hholds := hround c p hp
    rcases hresult : e.round g c p with r | ⟨c', p'⟩
    · rw [hresult] at hholds
      exact hholds
    · rw [hresult] at hholds
      exact hholds
  exact examine_leads hleads h

/-- A build examines its diagram, or the one that the generator outlines, unless
    there is no outline. -/
@[elab_as_elim]
theorem solve_cases {s : Seed} {g : Goal} {world : σ} {motive : Ended σ → Prop}
    (given : ∀ d, s = .diagram d → motive (e.examine g (prepare g d) { world }))
    (outlined : ∀ r d q, s = .outline r → e.consult (.outline r) { world } = (.ok d, q) →
      motive (e.examine g (prepare g d) q))
    (failed : ∀ r err q, s = .outline r → e.consult (.outline r) { world } = (.error err, q) →
      motive (q.stop err)) :
    motive (e.solve s g world) := by
  cases s with
  | diagram d => exact given d rfl
  | outline r =>
    unfold solve
    dsimp only
    rcases hconsult : e.consult (.outline r) { world } with ⟨err | d, q⟩
    · exact failed r err q rfl hconsult
    · exact outlined r d q rfl hconsult

/-- What holds of a build that begins, also after an outline, and that every round
    keeps, leads to what holds of its end. -/
theorem solve_induction {s : Seed} {g : Goal} {world : σ} {again : Progress σ → Prop}
    {ended : Ended σ → Prop} (hround : ∀ c p, again p → (e.round g c p).Holds again ended)
    (hstart : again { world })
    (outlined : ∀ r d q, e.consult (.outline r) { world } = (.ok d, q) → again q)
    (failed : ∀ r err q, e.consult (.outline r) { world } = (.error err, q) →
      ended (q.stop err)) :
    ended (e.solve s g world) :=
  e.solve_cases (fun _ _ => e.examine_induction hround _ hstart)
    (fun r d q _ hconsult => e.examine_induction hround _ (outlined r d q hconsult))
    fun r err q _ hconsult => failed r err q hconsult

/-! ### Counting rounds -/

/-- What a build begins with: a candidate to look at, or the end if there is no
    outline. -/
def opening (s : Seed) (g : Goal) (world : σ) : Round σ :=
  match s with
  | .diagram d => .again (prepare g d) { world }
  | .outline r =>
    match e.consult (.outline r) { world } with
    | (.ok d, p) => .again (prepare g d) p
    | (.error error, p) => .ended (p.stop error)

/-- So many rounds and no more, fewer if the build ends before. -/
def rounds (g : Goal) : Nat → Round σ → Round σ
  | 0, r => r
  | _ + 1, .ended r => .ended r
  | n + 1, .again c p => rounds g n (e.round g c p)

/-- A build ends where examining what it begins with ends. -/
theorem solve_leads {s : Seed} {g : Goal} {world : σ} {again : Diagram → Progress σ → Prop}
    {ended : Ended σ → Prop} (hround : ∀ c p, again c p → (e.round g c p).Leads again ended)
    (h : (e.opening s g world).Leads again ended) : ended (e.solve s g world) := by
  refine e.solve_cases (fun d hs => ?_) (fun r d q hs hconsult => ?_) fun r err q hs hconsult => ?_
  · rw [hs] at h
    exact examine_leads hround h
  · rw [hs, opening, hconsult] at h
    exact examine_leads hround h
  · rw [hs, opening, hconsult] at h
    exact h

/-- What every round keeps is kept by so many of them. -/
theorem rounds_leads {g : Goal} {again : Diagram → Progress σ → Prop} {ended : Ended σ → Prop}
    (hround : ∀ c p, again c p → (e.round g c p).Leads again ended) (n : Nat) {r : Round σ}
    (h : r.Leads again ended) : (e.rounds g n r).Leads again ended := by
  induction n generalizing r with
  | zero => exact h
  | succ n ih =>
    cases r with
    | ended r => exact h
    | again c p => exact ih (hround c p h)

theorem rounds_ended (g : Goal) (n : Nat) (r : Ended σ) : e.rounds g n (.ended r) = .ended r := by
  cases n with
  | zero => rfl
  | succ n => rfl

/-- What holds at an end that some rounds lead to holds at the end of the
    run. -/
theorem examine_of_rounds {g : Goal} {n : Nat} {c : Diagram} {p : Progress σ}
    {ended : Ended σ → Prop} (h : (e.rounds g n (.again c p)).Holds (fun _ => False) ended) :
    ended (e.examine g c p) := by
  induction n generalizing c p with
  | zero => exact absurd h id
  | succ n ih =>
    -- A round counted is a round of the run, as long as there is one to count.
    unfold examine
    split
    · rename_i r heq
      rw [rounds, heq, rounds_ended] at h
      exact h
    · rename_i c' p' heq
      rw [rounds, heq] at h
      exact ih h

theorem solve_of_rounds {s : Seed} {g : Goal} {world : σ} {n : Nat} {ended : Ended σ → Prop}
    (h : (e.rounds g n (e.opening s g world)).Holds (fun _ => False) ended) :
    ended (e.solve s g world) := by
  refine e.solve_cases (fun d hs => ?_) (fun r d q hs hconsult => ?_) fun r err q hs hconsult => ?_
  · rw [hs] at h
    exact e.examine_of_rounds h
  · rw [hs, opening, hconsult] at h
    exact e.examine_of_rounds h
  · rw [hs, opening, hconsult, rounds_ended] at h
    exact h

end Engine

end Flowchart
