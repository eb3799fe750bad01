import Flowchart.Build.Build

/-!
# Scripted Engines

An engine whose generator and validator follow a script. Replies and verdicts
are given in advance and used up one by one, the build may be cancelled at any
of them, and any of them may never come. What is left of the script, whether the
build has been cancelled, and the memory make up the state of the engine, so one
script can run through several builds.

When the verdicts of the script are used up, rules decide by what occurs in the
text, and after them everything is accepted, or the grammar decides.

## Main definitions

* `Script`: What is left of a script.
* `Script.reply`: The next reply.
* `Script.judge`: The next verdict.
* `Script.engine`: The engine that follows a script.
-/

namespace Flowchart

/-- What one step of a script answers. -/
inductive Answer (α : Type) where
  | gives (a : α)
  /-- The answer never comes. -/
  | hangs
deriving Repr

/-- One step of a script: it may cancel the build, and then answers. -/
structure ScriptStep (α : Type) where
  cancels : Bool := false
  answer : Answer α
deriving Repr

/-- A text that holds a pattern is rejected. -/
structure ScriptRule where
  pattern : Text
  objection : Objection
deriving Repr

/-- What is left of a script. -/
structure Script where
  /-- There is a generator. -/
  hasGenerator : Bool := true
  replies : List (ScriptStep (Except OracleError Completion)) := []
  /-- What is replied when the replies are used up. -/
  fallback : Option (ScriptStep (Except OracleError Completion)) := none
  /-- Verdicts in order, where none leaves the text to the rules. -/
  verdicts : List (ScriptStep (Option (Except Objection Unit))) := []
  rules : List ScriptRule := []
  /-- Texts that no rule rejects are accepted without looking at the grammar. -/
  acceptsRest : Bool := false
  cancelled : Bool := false
  memory : Option Memory := none
deriving Repr

namespace Script

/-- A script after a step that may cancel the build. -/
def after {α : Type} (step : ScriptStep α) (s : Script) : Script :=
  { s with cancelled := s.cancelled || step.cancels }

/-- The reply that a step gives, if it ever comes. -/
def replyOf (step : ScriptStep (Except OracleError Completion)) : Reply :=
  match step.answer with
  | .gives r => some r
  | .hangs => none

/-- The next reply. -/
def reply (s : Script) : Reply × Script :=
  if !s.hasGenerator then (some (.error (.unavailable "no oracle configured".toList)), s)
  else match s.replies with
    | step :: more => (replyOf step, { s with replies := more }.after step)
    | [] => match s.fallback with
      | some step => (replyOf step, s.after step)
      | none => (some (.error (.unavailable "script exhausted".toList)), s)

/-- What rules say of a text. -/
def ruled (s : Script) (t : Text) : Except Objection Unit :=
  match s.rules.find? fun r => Text.hasInfix r.pattern t with
  | some r => .error r.objection
  | none => if s.acceptsRest then .ok () else Grammar.verdict t

/-- The next verdict on a text. -/
def judge (s : Script) (t : Text) : Verdict × Script :=
  match s.verdicts with
  | [] => (some (s.ruled t), s)
  | step :: more =>
    let s := { s with verdicts := more }.after step
    match step.answer with
    | .hangs => (none, s)
    | .gives (some verdict) => (some verdict, s)
    | .gives none => (some (s.ruled t), s)

/-- The engine that follows a script. -/
def engine (settings : Settings) (remembers : Bool) : Engine Script where
  settings
  ask _ s := s.reply
  validate t s := s.judge t
  isCancelled s := s.cancelled
  remembers
  record x s := { s with memory := s.memory.map (·.record x) }
  recent n s :=
    match s.memory with
    | some m => ((m.recent n).1, { s with memory := some (m.recent n).2 })
    | none => ([], s)

end Script

end Flowchart
