import Flowchart.Proofs.Round
import Mathlib.Data.List.Count

/-!
# The Ledger of a Build

A build keeps track of much more than its limits and its result depend on. The
ledger is the part that they do depend on: what the log says of the generator
and the validator, the diagram that would be kept, and the two counters.

Every function of the build is described here by what it does to the ledger, and
most of them do nothing to it. An invariant of the build that is stated on the
ledger then only has to look at the few that do.

## Main definitions

* `Event.accepted?`, `Event.isSubmission`, `Event.isCall`, `Event.isRequest`:
  What an event says of the validator and the generator.
* `Ledger`: What a build has done, and what it counts.
* `Progress.ledger`: The ledger of a build so far.
* `Ledger.enter`: One more event in a ledger.

## Theorems

* `Progress.ledger_happen`: An event is entered into the ledger.
* `Engine.submit_ledger`, `Engine.consult_ledger`: What asking somebody does.
* `Engine.submit_none`, `Engine.consult_error`: Why nobody answers.
-/

namespace Flowchart

namespace Event

/-- The text that the validator accepted, if that is what happened. -/
def accepted? : Event → Option Text
  | .validated text (some (.ok ())) => some text
  | _ => none

/-- The only event that says so is the verdict itself. -/
theorem accepted?_eq_some_iff {event : Event} {t : Text} :
    event.accepted? = some t ↔ event = .validated t (some (.ok ())) := by
  constructor
  · intro h
    unfold accepted? at h
    split at h
    · rw [Option.some.inj h]
    · exact absurd h (by simp only [reduceCtorEq, not_false_eq_true])
  · intro h
    rw [h, accepted?]

/-- The validator was asked. -/
def isSubmission : Event → Bool
  | .validated _ _ => true
  | _ => false

/-- The generator was asked. -/
def isCall : Event → Bool
  | .asked _ _ => true
  | _ => false

/-- The generator was asked to refine or to expand. -/
def isRequest : Event → Bool
  | .asked (.refine _) _ => true
  | .asked (.expand _) _ => true
  | _ => false

end Event

/-- What a build has done, and what it counts. -/
structure Ledger where
  /-- The texts that the validator accepted, in order. -/
  accepted : List Text
  /-- How often the validator was asked. -/
  submissions : Nat
  /-- How often the generator was asked. -/
  calls : Nat
  /-- How often it was asked to refine or expand. -/
  requests : Nat
  /-- The diagram that would be kept. -/
  best : Option Diagram
  iterations : Nat
  repairs : Nat

/-- One more event in a ledger. -/
def Ledger.enter (l : Ledger) (event : Event) : Ledger :=
  { l with
    accepted := l.accepted ++ event.accepted?.toList
    submissions := l.submissions + event.isSubmission.toNat
    calls := l.calls + event.isCall.toNat
    requests := l.requests + event.isRequest.toNat }

/-- An event that says nothing of the validator or the generator leaves no trace
    in a ledger. -/
theorem Ledger.enter_of_silent (l : Ledger) {event : Event} (haccepted : event.accepted? = none)
    (hsubmission : event.isSubmission = false) (hcall : event.isCall = false)
    (hrequest : event.isRequest = false) : l.enter event = l := by
  rw [enter, haccepted, hsubmission, hcall, hrequest, Option.toList_none, List.append_nil]
  rfl

namespace Progress

variable {σ : Type}

/-- The ledger of a build so far. -/
def ledger (p : Progress σ) : Ledger where
  accepted := p.log.filterMap Event.accepted?
  submissions := p.log.countP Event.isSubmission
  calls := p.log.countP Event.isCall
  requests := p.log.countP Event.isRequest
  best := p.accepted
  iterations := p.iterations
  repairs := p.repairs

/-- An event is entered into the ledger. -/
@[simp]
theorem ledger_happen (p : Progress σ) (event : Event) :
    (p.happen event).ledger = p.ledger.enter event := by
  have hcount : ∀ f : Event → Bool,
      (p.log ++ [event]).countP f = p.log.countP f + (f event).toNat := by
    intro f
    rw [List.countP_append, List.countP_singleton]
    cases f event <;> rfl
  have haccepted : (p.log ++ [event]).filterMap Event.accepted?
      = p.log.filterMap Event.accepted? ++ event.accepted?.toList := by
    rw [List.filterMap_append]
    cases h : event.accepted? with
    | none => rw [List.filterMap_cons_none h]; rfl
    | some t => rw [List.filterMap_cons_some h]; rfl
  -- All four columns read the log, and the event is at the end of it.
  rw [ledger, happen]
  simp only [hcount, haccepted]
  rfl

/-- Recordings leave no trace in the ledger. -/
theorem Records.ledger {p q : Progress σ} (h : p.Records q) : q.ledger = p.ledger := by
  have haccepted := h.filterMap_log (f := Event.accepted?) fun _ => rfl
  have hsubmissions := h.countP_log (f := Event.isSubmission) fun _ => rfl
  have hcalls := h.countP_log (f := Event.isCall) fun _ => rfl
  have hrequests := h.countP_log (f := Event.isRequest) fun _ => rfl
  rw [Progress.ledger, haccepted, hsubmissions, hcalls, hrequests]
  rcases h with ⟨world, examples, fix, rfl⟩
  rfl

end Progress

namespace Engine

variable {σ : Type} (e : Engine σ)

/-! ### What leaves the ledger alone -/

@[simp]
theorem ledger_present (c : Diagram) (p : Progress σ) : (e.present c p).ledger = p.ledger := by
  unfold present
  rw [Progress.ledger_happen, Ledger.enter_of_silent _ rfl rfl rfl rfl]
  rfl

@[simp]
theorem ledger_settleFix (t : Text) (p : Progress σ) : (e.settleFix t p).ledger = p.ledger :=
  (e.records_settleFix t p).ledger

theorem examples_ledger {x : Example} {examples : List Example} {p q : Progress σ}
    (h : e.examples (e.noteFailure x p) = (examples, q)) : q.ledger = p.ledger :=
  (records_examples h).ledger

/-! ### What does not -/

/-- A repair taken is counted. -/
theorem ledger_repaired (k : RepairKind) (c : Diagram) (p : Progress σ) :
    ({ p with repairs := p.repairs + 1 }.happen (.repaired k c)).ledger
      = { p.ledger with repairs := p.ledger.repairs + 1 } := by
  rw [Progress.ledger_happen, Ledger.enter_of_silent _ rfl rfl rfl rfl]
  rfl

/-- Asking the validator is an event, unless the build was cancelled before. -/
theorem submit_ledger {t : Text} {p q : Progress σ} {v : Verdict} (h : e.submit t p = (v, q)) :
    (v = none ∧ q.ledger = p.ledger) ∨ q.ledger = p.ledger.enter (.validated t v) := by
  rcases submit_eq h with ⟨-, hv, rfl⟩ | ⟨world, -, rfl⟩
  · exact Or.inl ⟨hv, rfl⟩
  · exact Or.inr (Progress.ledger_happen _ _)

/-- Asking the generator is an event, unless the build was cancelled before. -/
theorem consult_ledger {r : Request} {p q : Progress σ} {x : Except BuildError Diagram}
    (h : e.consult r p = (x, q)) :
    (x = .error .cancelled ∧ q.ledger = p.ledger) ∨
      ∃ reply, q.ledger = p.ledger.enter (.asked r reply) := by
  rcases consult_eq h with ⟨-, hx, rfl⟩ | ⟨reply, world, -, -, rfl⟩
  · exact Or.inl ⟨hx, rfl⟩
  · exact Or.inr ⟨reply, Progress.ledger_happen _ _⟩

/-- The generator fails for its own reasons, unless the build was cancelled or
    the reply never came. -/
theorem consult_error {r : Request} {p q : Progress σ} {err : BuildError}
    (h : e.consult r p = (.error err, q)) :
    (err = .cancelled ∧ (e.isCancelled p.world = true ∨ (e.ask r p.world).1 = none)) ∨
      ∃ o, err = .oracle o := by
  rcases consult_eq h with ⟨hcancelled, herr, -⟩ | ⟨reply, world, hask, herr, -⟩
  · exact Or.inl ⟨Except.error.inj herr, Or.inl hcancelled⟩
  · rcases reply with _ | o | completion
    · exact Or.inl ⟨Except.error.inj herr, Or.inr (congrArg Prod.fst hask)⟩
    · exact Or.inr ⟨o, Except.error.inj herr⟩
    · rw [Reply.result] at herr
      -- A completion that cannot be read is put down to the generator.
      rcases hread : Completion.read completion.text with o | d
      · rw [hread] at herr
        exact Or.inr ⟨o, Except.error.inj herr⟩
      · rw [hread] at herr
        exact absurd herr (by simp only [Except.mapError, reduceCtorEq, not_false_eq_true])

/-- There is no verdict only if the build was cancelled or none ever came. -/
theorem submit_none {t : Text} {p q : Progress σ} (h : e.submit t p = (none, q)) :
    e.isCancelled p.world = true ∨ (e.validate t p.world).1 = none := by
  rcases submit_eq h with ⟨hcancelled, -⟩ | ⟨world, hvalidate, -⟩
  · exact Or.inl hcancelled
  · exact Or.inr (congrArg Prod.fst hvalidate)

end Engine

end Flowchart
