import Flowchart.Build.Engine
import Flowchart.Budget
import Flowchart.Diagram.Text
import Flowchart.Focus.Profile

/-!
# The Build Loop

A candidate is brought into canonical form, printed, linted and validated. If
the validator accepts it, the build is done, or asks for a richer diagram if
there is something to expand from and room to grow. If the validator rejects
it, the candidate is repaired, as long as some repair leads to a text not
printed before, and otherwise the generator is asked for a better one. A severe
finding of the linter is repaired before the validator is bothered with it.

The loop ends because there are two limits. A repair uses up one of the repairs
of the candidate, and a request uses up one of the iterations, after which the
candidate is a new one. `Engine.round_decreases` says so, in the order that looks
at iterations first, and `solve` recurses on it.

A build that ends for want of an answer keeps the last diagram that was
accepted, if there is one. Only cancellation takes that away.

## Main definitions

* `Round`: What comes of looking at a candidate once.
* `Engine.round`: Looking at a candidate once.
* `Engine.examine`: Looking at candidates until there is a result.
* `Engine.solve`: A build from its seed to its result.

## Theorems

* `Engine.round_decreases`: Whatever is looked at next, less is left to do.
-/

namespace Flowchart

/-- Where a build starts. -/
inductive Seed where
  /-- A diagram given by the caller. -/
  | diagram (d : Diagram)
  /-- A request for an outline. -/
  | outline (r : OutlineRequest)

/-- The result of a build that has ended, with all that it kept track of. -/
abbrev Ended (σ : Type) := Except Failure Solved × Progress σ

/-- What comes of looking at a candidate once: an end, or another candidate. -/
inductive Round (σ : Type) where
  | ended (e : Ended σ)
  | again (candidate : Diagram) (p : Progress σ)

namespace Progress

variable {σ : Type}

/-- The build ends with a diagram. -/
def succeed (p : Progress σ) (d : Diagram) : Ended σ :=
  (.ok ⟨d, p.reasons, p.iterations, p.usage⟩, p)

/-- The build ends without one. -/
def fail (p : Progress σ) (e : BuildError) : Ended σ :=
  (.error ⟨e, p.lastText, p.lastDiagram, p.reasons, p.iterations, p.usage⟩, p)

/-- The build is cut short. If the generator is to blame, that is a reason, and
    the last accepted diagram will do. -/
def stop (p : Progress σ) (e : BuildError) : Ended σ :=
  match e with
  | .oracle o =>
    let p := p.blame (.of .oracleFailure o.message)
    match p.accepted with
    | some d => p.succeed d
    | none => p.fail e
  | e => p.fail e

/-- The build has used up its iterations. -/
def exhausted (p : Progress σ) : Ended σ :=
  match p.accepted with
  | some d => p.succeed d
  | none => p.fail (.budgetExhausted p.iterations)

end Progress

namespace Engine

variable {σ : Type} (e : Engine σ)

/-- How a diagram is printed. -/
def print (d : Diagram) : Text := d.text e.settings.compile

/-- The canonical form of a candidate. -/
def canonical (candidate : Diagram) : Diagram := candidate.canonical e.settings.limits.policy

/-- Ask the generator and read its completion. A cancelled build asks nobody. -/
def consult (r : Request) (p : Progress σ) : Except BuildError Diagram × Progress σ :=
  if e.isCancelled p.world then (.error .cancelled, p)
  else
    let (reply, world) := e.ask r p.world
    let p := { p with world }.happen (.asked r reply)
    match reply with
    | none => (.error .cancelled, p)
    | some (.error o) => (.error (.oracle o), p)
    | some (.ok completion) =>
      ((Completion.read completion.text).mapError .oracle,
        { p with usage := (completion.usage.map p.usage.add).getD p.usage })

/-- Ask the validator. A cancelled build asks nobody. -/
def submit (t : Text) (p : Progress σ) : Verdict × Progress σ :=
  if e.isCancelled p.world then (none, p)
  else
    let (verdict, world) := e.validate t p.world
    (verdict, { p with world }.happen (.validated t verdict))

/-- Record an example if there is a memory. -/
def remember (x : Example) (p : Progress σ) : Progress σ :=
  if e.remembers then { p with world := e.record x p.world }.happen (.recorded x) else p

/-- The examples that go with a request. -/
def examples (p : Progress σ) : List Example × Progress σ :=
  if e.remembers then
    let (examples, world) := e.recent examplesPerRequest p.world
    (examples, { p with world })
  else ([], p)

/-- A candidate of the generator made fit for the goal: turned its way, with its
    nodes gathered, and pruned to its budget. -/
def prepare (g : Goal) (d : Diagram) : Diagram :=
  let d := { d with direction := g.direction }
  let d := match g.subgraphTitle with
    | some title => d.gather title g.mustInclude
    | none => d
  match g.budget with
  | some b => b.enforce g.mustInclude d
  | none => d

/-- The first repair that changes a candidate and leads to a text not printed
    before, while the candidate may still be repaired. -/
def nextRepair? (kinds : List RepairKind) (candidate : Diagram) (p : Progress σ) :
    Option (RepairKind × Diagram) :=
  if e.settings.limits.maxRepairs ≤ p.repairs then none
  else
    ((RepairKind.order.filter kinds.contains).map fun k => (k, k.apply candidate)).find?
      fun (_, repaired) =>
        !repaired.agrees candidate && !p.seen.contains (e.print (e.canonical repaired))

/-- A repair taken. -/
def takeRepair (k : RepairKind) (repaired : Diagram) (p : Progress σ) : Round σ :=
  .again repaired ({ p with repairs := p.repairs + 1 }.happen (.repaired k repaired))

/-- The generator asked once more, where its candidate is the first of a new
    series of repairs. -/
def askAgain (g : Goal) (r : Request) (p : Progress σ) : Round σ :=
  match e.consult r { p with iterations := p.iterations + 1 } with
  | (.ok d, p) => .again (prepare g d) { p with repairs := 0 }
  | (.error error, p) => .ended (p.stop error)

/-- The candidate printed, and remembered as the last one. -/
def present (candidate : Diagram) (p : Progress σ) : Progress σ :=
  let d := e.canonical candidate
  let text := e.print d
  { p with
    seen := text :: p.seen
    lastText := some text
    lastDiagram := some d }.happen (.printed d text)

/-- What an accepted diagram should be expanded to, if it should. -/
def expansion? (g : Goal) (d : Diagram) (p : Progress σ) : Option (Text × Budget) :=
  match g.expandFrom, g.budget with
  | some excerpt, some b =>
    if b.hasHeadroom d && p.iterations < e.settings.limits.maxIterations then
      some (excerpt, b.expansionTarget d)
    else none
  | _, _ => none

/-- The fix that was pending, if there was one, recorded as found. -/
def settleFix (text : Text) (p : Progress σ) : Progress σ :=
  match p.pendingFix with
  | some x => e.remember { x with fixed := some text } { p with pendingFix := none }
  | none => p

/-- An accepted text: the build is done unless the diagram should grow. -/
def accept (g : Goal) (d : Diagram) (text : Text) (p : Progress σ) : Round σ :=
  let p := { e.settleFix text p with accepted := some d }
  match e.expansion? g d p with
  | none => .ended (p.succeed d)
  | some (excerpt, target) =>
    e.askAgain g (.expand ⟨d, excerpt, target, g.mustInclude, g.exclude⟩) p

/-- The reasons that a rejection gives, with the severe findings that back it
    up. -/
def blameRejection (r : Objection) (report : Report) (p : Progress σ) : Progress σ :=
  let reasons := Reason.of (.ofFailure r.message r.code) r.message ::
    report.high.map fun i => Reason.of (.lint i.code) i.message
  { p with reasons := p.reasons.pushAll reasons }

/-- A failure recorded, whose fix is now pending. -/
def noteFailure (x : Example) (p : Progress σ) : Progress σ :=
  { e.remember x p with pendingFix := some x }

/-- A rejected text: a repair if there is one, another request if there may be
    one, and the end otherwise. -/
def reject (g : Goal) (candidate d : Diagram) (text : Text) (report : Report) (r : Objection)
    (p : Progress σ) : Round σ :=
  let p := blameRejection r report p
  let kinds := RepairKind.forReason (.ofFailure r.message r.code)
    ++ RepairKind.forIssues report.highCodes
  match e.nextRepair? kinds candidate p with
  | some (k, repaired) => takeRepair k repaired p
  | none =>
    if p.iterations < e.settings.limits.maxIterations then
      let (examples, p) := e.examples (e.noteFailure { error := r.message, invalid := text } p)
      e.askAgain g (.refine ⟨d, r.message, p.reasons, examples, g.budget⟩) p
    else .ended p.exhausted

/-- Looking at a candidate once. -/
def round (g : Goal) (candidate : Diagram) (p : Progress σ) : Round σ :=
  let d := e.canonical candidate
  let text := e.print d
  let p := e.present candidate p
  let report := Lint.lint text
  let preflight := if report.ok then none
    else e.nextRepair? (RepairKind.forIssues report.highCodes) candidate p
  match preflight with
  | some (k, repaired) => takeRepair k repaired p
  | none =>
    match e.submit text p with
    | (some (.ok ()), p) => e.accept g d text p
    | (some (.error r), p) => e.reject g candidate d text report r p
    | (none, p) => .ended (p.stop .cancelled)

/-! ### Less and less is left to do -/

/-- The iterations that are left, and the repairs that are. -/
def left (p : Progress σ) : Nat × Nat :=
  (e.settings.limits.maxIterations - p.iterations, e.settings.limits.maxRepairs - p.repairs)

/-- Less is left: fewer iterations, or as many of them and fewer repairs. -/
def Less (a b : Nat × Nat) : Prop := Prod.Lex (· < ·) (· < ·) a b

theorem consult_iterations {r : Request} {p q : Progress σ} {x : Except BuildError Diagram}
    (h : e.consult r p = (x, q)) : q.iterations = p.iterations := by
  unfold consult at h
  split at h
  · simp only [Prod.mk.injEq] at h
    rw [← h.2]
  · simp only [Progress.happen] at h
    split at h <;>
    · simp only [Prod.mk.injEq] at h
      rw [← h.2]

theorem submit_counts {t : Text} {p q : Progress σ} {v : Verdict} (h : e.submit t p = (v, q)) :
    q.iterations = p.iterations ∧ q.repairs = p.repairs := by
  unfold submit at h
  split at h
  · simp only [Prod.mk.injEq] at h
    simp [← h.2]
  · simp only [Progress.happen, Prod.mk.injEq] at h
    simp [← h.2]

theorem remember_counts (x : Example) (p : Progress σ) :
    (e.remember x p).iterations = p.iterations ∧ (e.remember x p).repairs = p.repairs := by
  unfold remember
  split <;> simp [Progress.happen]

theorem examples_counts (p : Progress σ) :
    (e.examples p).2.iterations = p.iterations ∧ (e.examples p).2.repairs = p.repairs := by
  unfold examples
  split <;> simp

theorem askAgain_decreases {g : Goal} {r : Request} {p q : Progress σ} {c : Diagram}
    (hp : p.iterations < e.settings.limits.maxIterations) (h : e.askAgain g r p = .again c q) :
    e.settings.limits.maxIterations - q.iterations
      < e.settings.limits.maxIterations - p.iterations := by
  unfold askAgain at h
  split at h
  · rename_i d p' hc
    have := e.consult_iterations hc
    simp only [Round.again.injEq] at h
    rw [← h.2]
    simp only at this ⊢
    omega
  · simp at h

theorem takeRepair_decreases {k : RepairKind} {d c : Diagram} {p q : Progress σ}
    (hp : p.repairs < e.settings.limits.maxRepairs) (h : takeRepair k d p = .again c q) :
    Less (e.left q) (e.left p) := by
  simp only [takeRepair, Progress.happen, Round.again.injEq] at h
  rw [← h.2]
  refine Prod.Lex.right _ ?_
  simp only
  omega

theorem nextRepair?_allowed {kinds : List RepairKind} {c : Diagram} {p : Progress σ}
    {x : RepairKind × Diagram} (h : e.nextRepair? kinds c p = some x) :
    p.repairs < e.settings.limits.maxRepairs := by
  unfold nextRepair? at h
  split at h
  · simp at h
  · omega

theorem settleFix_counts (t : Text) (p : Progress σ) :
    (e.settleFix t p).iterations = p.iterations ∧ (e.settleFix t p).repairs = p.repairs := by
  unfold settleFix
  split
  · exact e.remember_counts _ _
  · exact ⟨rfl, rfl⟩

theorem expansion?_allowed {g : Goal} {d : Diagram} {p : Progress σ} {x : Text × Budget}
    (h : e.expansion? g d p = some x) : p.iterations < e.settings.limits.maxIterations := by
  unfold expansion? at h
  split at h
  · split at h
    · rename_i hroom
      simp only [Bool.and_eq_true, decide_eq_true_eq] at hroom
      exact hroom.2
    · simp at h
  · simp at h

theorem accept_decreases {g : Goal} {d c : Diagram} {t : Text} {p q : Progress σ}
    (h : e.accept g d t p = .again c q) :
    e.settings.limits.maxIterations - q.iterations
      < e.settings.limits.maxIterations - p.iterations := by
  unfold accept at h
  simp only at h
  split at h
  · simp at h
  · rename_i excerpt target hx
    have hlt := e.askAgain_decreases (e.expansion?_allowed hx) h
    simp only [(e.settleFix_counts _ _).1] at hlt
    exact hlt

theorem noteFailure_counts (x : Example) (p : Progress σ) :
    (e.noteFailure x p).iterations = p.iterations ∧ (e.noteFailure x p).repairs = p.repairs :=
  e.remember_counts x p

theorem reject_decreases {g : Goal} {c d c' : Diagram} {t : Text} {report : Report} {r : Objection}
    {p q : Progress σ} (h : e.reject g c d t report r p = .again c' q) :
    Less (e.left q) (e.left p) := by
  unfold reject at h
  simp only at h
  split at h
  · rename_i k repaired hr
    exact e.takeRepair_decreases (p := blameRejection r report p) (e.nextRepair?_allowed hr) h
  · split at h
    · rename_i hroom
      have hsame : (e.examples (e.noteFailure { error := r.message, invalid := t }
          (blameRejection r report p))).2.iterations = p.iterations := by
        rw [(e.examples_counts _).1, (e.noteFailure_counts _ _).1]
        rfl
      have hlt := e.askAgain_decreases (by rw [hsame]; exact hroom) h
      rw [hsame] at hlt
      exact Prod.Lex.left _ _ hlt
    · simp at h

/-- Whatever is looked at next, less is left to do than before. -/
theorem round_decreases {g : Goal} {c c' : Diagram} {p q : Progress σ}
    (h : e.round g c p = .again c' q) : Less (e.left q) (e.left p) := by
  have hleft : e.left (e.present c p) = e.left p := rfl
  rw [← hleft]
  unfold round at h
  simp only at h
  split at h
  · rename_i k repaired hr
    refine e.takeRepair_decreases ?_ h
    split at hr
    · simp at hr
    · exact e.nextRepair?_allowed hr
  · split at h
    · rename_i p' hs
      have hc := e.submit_counts hs
      refine Prod.Lex.left _ _ ?_
      rw [← hc.1]
      exact e.accept_decreases h
    · rename_i r p' hs
      have hc := e.submit_counts hs
      have := e.reject_decreases h
      simpa only [left, hc.1, hc.2] using this
    · simp at h

/-- Looking at candidates until there is a result. -/
def examine (g : Goal) (candidate : Diagram) (p : Progress σ) : Ended σ :=
  match _h : e.round g candidate p with
  | .ended r => r
  | .again candidate p => examine g candidate p
termination_by e.left p
decreasing_by exact e.round_decreases _h

/-- A build from its seed to its result. -/
def solve (s : Seed) (g : Goal) (world : σ) : Ended σ :=
  let p : Progress σ := { world }
  match s with
  | .diagram d => e.examine g (prepare g d) p
  | .outline r =>
    match e.consult (.outline r) p with
    | (.ok d, p) => e.examine g (prepare g d) p
    | (.error error, p) => p.stop error

end Engine

end Flowchart
