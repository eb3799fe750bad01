import Flowchart.Build.Build
import Flowchart.Proofs.Ledger
import Flowchart.Proofs.Printing
import Flowchart.Proofs.Replay

/-!
# The Diagram That Is Kept

A build succeeds with the diagram that the validator accepted last, and once the
validator has accepted anything, only cancellation keeps the build from
succeeding.

Behind this is one fact about the ledger: the diagram that would be kept is
printed as the last accepted text, and there is none as long as no text was
accepted. It is stated through the text of the diagram and not through the
printing of the build, which has no text for a diagram whose labels do not wrap.
Since only canonical diagrams are kept, there always is one.

Accepting a text is the only thing that touches either side, and it changes both
at once. Every exit of the build then hands out what is kept, except for the one
taken on cancellation.

The ledger is read off the log, and so is what is said of success. That the log is
right about the validator is said along with it: the accepted text was submitted
during the build, and the validator itself had nothing against it.

## Main definitions

* `Engine.IsTextOf`: The text of a diagram under the settings of a build.
* `Ledger.IsKept`: What is kept is what was accepted last.
* `Engine.IsFaithful`: A build that ended with what was accepted last.
* `Engine.NeverCancels`: Nobody cancels the build, and everybody answers.

## Theorems

* `Engine.isFaithful_solve`: Every build is faithful to the validator.
* `Engine.exists_validate_of_mem_accepted`: What is logged as accepted was
  accepted.
* `Engine.solve_accepted`: Success and acceptance in a build that was not
  cancelled.
* `Engine.solve_of_neverCancels`: A build that nobody cancels does not end
  cancelled.
-/

namespace Flowchart

/-- What is kept is printed as the text that was accepted last. If nothing is
    kept, nothing was accepted. -/
def Ledger.IsKept (o : CompileOptions) (l : Ledger) : Prop :=
  match l.best with
  | some d => ∃ t, d.text? o = some t ∧ l.accepted.getLast? = some t
  | none => l.accepted = []

/-- Nothing but an accepted text changes anything about what is kept. -/
theorem Ledger.IsKept.enter {o : CompileOptions} {l : Ledger} (h : l.IsKept o) {event : Event}
    (hevent : event.accepted? = none) : (l.enter event).IsKept o := by
  have haccepted : (l.enter event).accepted = l.accepted := by
    rw [Ledger.enter, hevent, Option.toList_none, List.append_nil]
  unfold IsKept
  rw [haccepted]
  exact h

/-- A build that ended because it was cancelled. -/
def Ended.IsCancelled {σ : Type} (r : Ended σ) : Prop :=
  ∃ f, r.1 = .error f ∧ f.error = .cancelled

namespace Engine

variable {σ : Type} (e : Engine σ)

/-- A build that ended with what the validator accepted last, if it accepted
    anything and the build was not cancelled. -/
def IsFaithful (r : Ended σ) : Prop :=
  match r.1 with
  | .ok s => ∃ t, s.diagram.text? e.settings.compile = some t ∧
      r.2.ledger.accepted.getLast? = some t
  | .error f => f.error = .cancelled ∨ r.2.ledger.accepted = []

/-- The printing of a canonical diagram is its text. -/
theorem text?_canonical (candidate : Diagram) :
    (e.canonical candidate).text? e.settings.compile
      = some (e.print (e.canonical candidate)) := by
  rcases Diagram.IsCanonical.check_text? (Diagram.isCanonical_canonical _ candidate)
    e.settings.compile with ⟨t, ht, -⟩
  have hprint : e.print (e.canonical candidate) = t := by
    rw [print, Diagram.text, canonical, ht, Option.getD_some]
  rw [hprint]
  exact ht

/-! ### The exits -/

/-- A build that is cut short hands out what is kept, unless it was
    cancelled. -/
theorem isFaithful_stop {p : Progress σ} (h : p.ledger.IsKept e.settings.compile) {err : BuildError}
    (herr : err = .cancelled ∨ ∃ o, err = .oracle o) : e.IsFaithful (p.stop err) := by
  have hbest : p.ledger.best = p.accepted := rfl
  unfold Ledger.IsKept at h
  rw [hbest] at h
  refine Progress.stop_cases (fun o d _ hd => ?_) (fun o _ hnone => ?_) fun hother => ?_
  · rw [hd] at h
    exact h
  · rw [hnone] at h
    exact Or.inr h
  · exact Or.inl (herr.resolve_right fun ⟨o, ho⟩ => hother o ho)

theorem isFaithful_exhausted {p : Progress σ} (h : p.ledger.IsKept e.settings.compile) :
    e.IsFaithful p.exhausted := by
  have hbest : p.ledger.best = p.accepted := rfl
  unfold Ledger.IsKept at h
  rw [hbest] at h
  refine Progress.exhausted_cases (fun d hd => ?_) fun hnone => ?_
  · rw [hd] at h
    exact h
  · rw [hnone] at h
    exact Or.inr h

/-! ### One round -/

/-- Asking the generator changes nothing about what is kept. -/
theorem isKept_consult {r : Request} {p q : Progress σ} {x : Except BuildError Diagram}
    (h : p.ledger.IsKept e.settings.compile) (hconsult : e.consult r p = (x, q)) :
    q.ledger.IsKept e.settings.compile := by
  rcases e.consult_ledger hconsult with ⟨-, hledger⟩ | ⟨reply, hledger⟩
  · rw [hledger]
    exact h
  · rw [hledger]
    exact h.enter rfl

theorem holds_askAgain {g : Goal} {r : Request} {p : Progress σ}
    (h : p.ledger.IsKept e.settings.compile) :
    (e.askAgain g r p).Holds (fun q => q.ledger.IsKept e.settings.compile) e.IsFaithful := by
  have hcounted : ({ p with iterations := p.iterations + 1 } : Progress σ).ledger.IsKept
      e.settings.compile := h
  refine e.askAgain_cases (fun d q hconsult => ?_) fun err q hconsult => ?_
  · have hkept := e.isKept_consult hcounted hconsult
    exact hkept
  · have hkept := e.isKept_consult hcounted hconsult
    exact e.isFaithful_stop hkept ((e.consult_error hconsult).imp And.left id)

/-- An accepted text is the last one from then on, and its diagram is kept. -/
theorem holds_accept {g : Goal} {d : Diagram} {t : Text} {p : Progress σ}
    (ht : d.text? e.settings.compile = some t) (hlast : p.ledger.accepted.getLast? = some t) :
    (e.accept g d t p).Holds (fun q => q.ledger.IsKept e.settings.compile) e.IsFaithful := by
  have haccepted : (e.settleFix t p).ledger.accepted.getLast? = some t := by
    rw [ledger_settleFix]
    exact hlast
  refine e.accept_cases (fun hdone => ?_) fun excerpt target hexpansion => ?_
  · exact ⟨t, ht, haccepted⟩
  · exact e.holds_askAgain ⟨t, ht, haccepted⟩

/-- A rejected text changes nothing about what is kept. -/
theorem holds_reject {g : Goal} {c d : Diagram} {t : Text} {report : Report} {r : Objection}
    {p : Progress σ} (h : p.ledger.IsKept e.settings.compile) :
    (e.reject g c d t report r p).Holds (fun q => q.ledger.IsKept e.settings.compile)
      e.IsFaithful := by
  have hblamed : (blameRejection r report p).ledger.IsKept e.settings.compile := h
  refine e.reject_cases (fun k c' hrepair => ?_) (fun examples q hexamples hroom => ?_)
    fun hspent => ?_
  · rw [takeRepair, Round.Holds, ledger_repaired]
    exact hblamed
  · refine e.holds_askAgain ?_
    rw [e.examples_ledger hexamples]
    exact hblamed
  · exact e.isFaithful_exhausted hblamed

/-- One round keeps what was accepted last, or ends faithfully. -/
theorem holds_round {g : Goal} (c : Diagram) (p : Progress σ)
    (h : p.ledger.IsKept e.settings.compile) :
    (e.round g c p).Holds (fun q => q.ledger.IsKept e.settings.compile) e.IsFaithful := by
  have hpresent : (e.present c p).ledger.IsKept e.settings.compile := by
    rw [ledger_present]
    exact h
  refine e.round_cases (fun k c' hok hrepair => ?_) (fun q hsubmit => ?_)
    (fun r q hsubmit => ?_) fun q hsubmit => ?_
  · rw [takeRepair, Round.Holds, ledger_repaired]
    exact hpresent
  · rcases e.submit_ledger hsubmit with ⟨hnone, -⟩ | hledger
    · exact absurd hnone (by simp only [reduceCtorEq, not_false_eq_true])
    · -- The text that was accepted is that of the canonical candidate.
      refine e.holds_accept (e.text?_canonical c) ?_
      rw [hledger]
      exact List.getLast?_concat
  · rcases e.submit_ledger hsubmit with ⟨hnone, -⟩ | hledger
    · exact absurd hnone (by simp only [reduceCtorEq, not_false_eq_true])
    · refine e.holds_reject ?_
      rw [hledger]
      exact hpresent.enter rfl
  · exact Or.inl rfl

/-! ### A run -/

/-- Every build is faithful to the validator. -/
theorem isFaithful_solve (s : Seed) (g : Goal) (world : σ) : e.IsFaithful (e.solve s g world) := by
  have hstart : ({ world } : Progress σ).ledger.IsKept e.settings.compile := rfl
  refine e.solve_induction e.holds_round hstart (fun r d q hconsult => ?_)
    fun r err q hconsult => ?_
  · exact e.isKept_consult hstart hconsult
  · have hkept := e.isKept_consult hstart hconsult
    exact e.isFaithful_stop hkept ((e.consult_error hconsult).imp And.left id)

/-! ### Builds that nobody cancels -/

/-- Nobody cancels the build, and whoever is asked answers. -/
structure NeverCancels : Prop where
  token : ∀ world, e.isCancelled world = false
  replies : ∀ r world, (e.ask r world).1 ≠ none
  verdicts : ∀ t world, (e.validate t world).1 ≠ none

variable {e}

theorem NeverCancels.consult (h : e.NeverCancels) {r : Request} {p q : Progress σ}
    {err : BuildError} (hconsult : e.consult r p = (.error err, q)) : ∃ o, err = .oracle o := by
  rcases e.consult_error hconsult with ⟨-, hcancelled | hreply⟩ | horacle
  · rw [h.token] at hcancelled
    exact absurd hcancelled (by decide)
  · exact absurd hreply (h.replies r p.world)
  · exact horacle

theorem not_isCancelled_succeed (p : Progress σ) (d : Diagram) :
    ¬ Ended.IsCancelled (p.succeed d) := by
  rintro ⟨f, hf, -⟩
  exact absurd hf (by simp only [Progress.succeed, reduceCtorEq, not_false_eq_true])

theorem not_isCancelled_fail {p : Progress σ} {err : BuildError} (h : err ≠ .cancelled) :
    ¬ Ended.IsCancelled (p.fail err) := by
  rintro ⟨f, hf, hcancelled⟩
  rw [Progress.fail, Except.error.injEq] at hf
  rw [← hf] at hcancelled
  exact h hcancelled

theorem not_isCancelled_stop (p : Progress σ) (o : OracleError) :
    ¬ Ended.IsCancelled (p.stop (.oracle o)) :=
  Progress.stop_cases (fun _ d _ _ => not_isCancelled_succeed _ d)
    (fun _ _ _ => not_isCancelled_fail BuildError.noConfusion)
    fun hother => absurd rfl (hother o)

theorem not_isCancelled_exhausted (p : Progress σ) : ¬ Ended.IsCancelled p.exhausted :=
  Progress.exhausted_cases (fun d _ => not_isCancelled_succeed p d)
    fun _ => not_isCancelled_fail BuildError.noConfusion

theorem NeverCancels.holds_askAgain (h : e.NeverCancels) (g : Goal) (r : Request)
    (p : Progress σ) :
    (e.askAgain g r p).Holds (fun _ => True) fun r => ¬ Ended.IsCancelled r := by
  refine e.askAgain_cases (fun d q hconsult => trivial) fun err q hconsult => ?_
  rcases h.consult hconsult with ⟨o, rfl⟩
  exact not_isCancelled_stop q o

theorem NeverCancels.holds_round (h : e.NeverCancels) (g : Goal) (c : Diagram)
    (p : Progress σ) : (e.round g c p).Holds (fun _ => True) fun r => ¬ Ended.IsCancelled r := by
  refine e.round_cases (fun k c' hok hrepair => trivial) (fun q hsubmit => ?_)
    (fun r q hsubmit => ?_) fun q hsubmit => ?_
  · refine e.accept_cases (fun hdone => not_isCancelled_succeed _ _) fun excerpt target _ => ?_
    exact h.holds_askAgain g _ _
  · refine e.reject_cases (fun k c' hrepair => trivial) (fun examples q' _ _ => ?_)
      fun hspent => not_isCancelled_exhausted _
    exact h.holds_askAgain g _ _
  · -- There was no verdict, although nobody cancels and everybody answers.
    rcases e.submit_none hsubmit with hcancelled | hverdict
    · rw [h.token] at hcancelled
      exact absurd hcancelled (by decide)
    · exact absurd hverdict (h.verdicts _ _)

/-- A build that nobody cancels does not end cancelled. -/
theorem solve_of_neverCancels (h : e.NeverCancels) (s : Seed) (g : Goal) (world : σ) :
    ¬ Ended.IsCancelled (e.solve s g world) := by
  have hround : ∀ c p, True → (e.round g c p).Holds (fun _ => True) fun r =>
      ¬ Ended.IsCancelled r := fun c p _ => h.holds_round g c p
  refine e.solve_induction hround trivial (fun r d q hconsult => trivial)
    fun r err q hconsult => ?_
  rcases h.consult hconsult with ⟨o, rfl⟩
  exact not_isCancelled_stop q o

theorem neverCancels_offline (settings : Settings) : (Engine.offline settings).NeverCancels where
  token _ := rfl
  replies _ _ := by simp [offline]
  verdicts _ _ := by simp [offline]

/-! ### Success and acceptance -/

/-- What is logged as accepted was submitted during the build, and the validator
    had nothing against it. -/
theorem exists_validate_of_mem_accepted {s : Seed} {g : Goal} {world : σ} {t : Text}
    (h : t ∈ (e.solve s g world).2.log.filterMap Event.accepted?) :
    ∃ w, e.Occurs world (e.solve s g world).2.log (.validated t (some (.ok ()))) w ∧
      (e.validate t w).1 = some (.ok ()) := by
  rcases List.mem_filterMap.1 h with ⟨event, hevent, haccepted⟩
  rw [Event.accepted?_eq_some_iff] at haccepted
  rw [haccepted] at hevent
  exact e.exists_validate_of_mem hevent

/-- A build that was not cancelled. If it succeeds, the text of its diagram is
    the last one that the validator accepted, when it was asked during the build.
    If the validator accepted any text, the build succeeds, whatever happened
    after that. The log that this is read off can be replayed, so it has all that
    the validator was asked and nothing else. -/
theorem solve_accepted (s : Seed) (g : Goal) (world : σ)
    (h : ¬ Ended.IsCancelled (e.solve s g world)) :
    (∀ found, (e.solve s g world).1 = .ok found →
      ∃ t, found.diagram.text? e.settings.compile = some t ∧
        ((e.solve s g world).2.log.filterMap Event.accepted?).getLast? = some t ∧
        ∃ w, e.Occurs world (e.solve s g world).2.log (.validated t (some (.ok ()))) w ∧
          (e.validate t w).1 = some (.ok ())) ∧
    ((e.solve s g world).2.log.filterMap Event.accepted? ≠ [] →
      ∃ found, (e.solve s g world).1 = .ok found) ∧
    e.Replays world (e.solve s g world).2.log (e.solve s g world).2.world := by
  have hfaithful := e.isFaithful_solve s g world
  unfold IsFaithful at hfaithful
  rcases hresult : (e.solve s g world).1 with f | found
  -- A failure was not cancelled, so nothing can have been accepted.
  · rw [hresult] at hfaithful
    refine ⟨fun found hfound => absurd hfound ?_, fun haccepted => ?_, e.replays_solve s g world⟩
    · simp only [reduceCtorEq, not_false_eq_true]
    · rcases hfaithful with hcancelled | hnone
      · exact absurd ⟨f, hresult, hcancelled⟩ h
      · exact absurd hnone haccepted
  · rw [hresult] at hfaithful
    refine ⟨fun found' hfound => ?_, fun _ => ⟨found, rfl⟩, e.replays_solve s g world⟩
    rcases hfaithful with ⟨t, htext, hlast⟩
    have hvalidate := exists_validate_of_mem_accepted (List.mem_of_getLast? hlast)
    rw [← Except.ok.inj hfound]
    exact ⟨t, htext, hlast, hvalidate⟩

/-- The only node of a diagram is accepted. The generator is asked to expand the
    diagram and has nothing to say, and the build succeeds all the same. -/
theorem solve_accepted_offline :
    let g : Goal := { direction := .down, budget := some ⟨12, 18⟩, expandFrom := some [] }
    let r := (Engine.offline {}).solve (.diagram (Diagram.single "a".toList [])) g ()
    ¬ Ended.IsCancelled r ∧ r.2.log.filterMap Event.accepted? ≠ [] ∧
      ∃ found t, r.1 = .ok found ∧ found.diagram.text? {} = some t ∧
        (r.2.log.filterMap Event.accepted?).getLast? = some t ∧
        ((Engine.offline {}).validate t ()).1 = some (.ok ()) := by
  intro g r
  -- One round accepts the diagram and fails to have it expanded.
  have hlive : ¬ Ended.IsCancelled r := solve_of_neverCancels (neverCancels_offline {}) _ _ _
  have hrounds : ((Engine.offline {}).rounds g 1 ((Engine.offline {}).opening
      (.diagram (Diagram.single "a".toList [])) g ())).Holds (fun _ => False)
      fun r => r.2.log.filterMap Event.accepted? ≠ [] := by
    decide +kernel
  have haccepted : r.2.log.filterMap Event.accepted? ≠ [] := solve_of_rounds _ hrounds
  rcases solve_accepted _ _ _ hlive with ⟨hlast, hsuccess, -⟩
  rcases hsuccess haccepted with ⟨found, hfound⟩
  rcases hlast found hfound with ⟨t, htext, hgot, w, -, hvalidate⟩
  exact ⟨hlive, haccepted, found, t, hfound, htext, hgot, hvalidate⟩

end Engine

end Flowchart
