import Flowchart.Proofs.Delivery
import Flowchart.Proofs.Repairs

/-!
# Where Candidates Come From

Every diagram that a build prints, hands to the generator or ends with is the
canonical form of a candidate. A candidate is a diagram that the generator
answered with, or the one that the caller gave, made fit for the goal and then
repaired any number of times.

The order of requests and repairs is of no interest to most of what is to be
known about such diagrams. It is enough to know that a property is there once a
diagram has been made fit, that no repair takes it away, and that canonical form
keeps it. Lineage is what allows that: an induction over it replaces one over
the run.

Answers and repairs are found in the log, which only grows, so what descends
from them at some point of the build does so at its end.

## Main definitions

* `Event.diagrams`: The diagrams that an event shows.
* `Progress.answers`: The diagrams that the generator answered with.
* `Progress.taken`: The repairs that were taken.
* `IsCandidate`: A diagram that descends from others by repairs.
* `Engine.IsForm`: The canonical form of a candidate.
* `Engine.Descends`: All that a build has shown and kept is such a form.
* `Engine.Yields`: So is what it ends with.

## Theorems

* `Engine.consult_spec`: What becomes of the state when the generator is asked.
* `Engine.Carries.leads_round`: A round turns candidates into candidates.
* `Engine.yields_solve`: The lineage of what a build shows and ends with.
* `Engine.isCandidate_rounds`: The lineage of what it looks at.
-/

namespace Flowchart

/-- The diagrams that a request hands over. -/
def Request.diagrams : Request → List Diagram
  | .outline _ => []
  | .refine r => [r.diagram]
  | .expand r => [r.diagram]

namespace Event

/-- The diagrams that an event shows, in canonical form. -/
def diagrams : Event → List Diagram
  | .printed d _ => [d]
  | .asked r _ => r.diagrams
  | _ => []

/-- The diagram that the generator answered with. -/
def answer? : Event → Option Diagram
  | .asked _ (some (.ok c)) => (Completion.read c.text).toOption
  | _ => none

/-- The repair that was taken. -/
def repair? : Event → Option RepairKind
  | .repaired k _ => some k
  | _ => none

/-- A diagram that comes of a reply is an answer. -/
theorem answer?_of_result {r : Request} {reply : Reply} {d : Diagram}
    (h : reply.result = .ok d) : (asked r reply).answer? = some d := by
  rcases reply with _ | o | c
  · exact absurd h (by simp only [Reply.result, reduceCtorEq, not_false_eq_true])
  · exact absurd h (by simp only [Reply.result, reduceCtorEq, not_false_eq_true])
  · rw [Reply.result] at h
    rw [answer?]
    -- Only a completion that can be read has a diagram as its result.
    cases hread : Completion.read c.text with
    | error o =>
      rw [hread] at h
      exact absurd h (by simp only [Except.mapError, reduceCtorEq, not_false_eq_true])
    | ok d' =>
      rw [hread] at h
      exact congrArg some (Except.ok.inj h)

end Event

/-- The diagrams that the generator answered with so far. -/
def Progress.answers {σ : Type} (p : Progress σ) : List Diagram := p.log.filterMap Event.answer?

/-- The repairs taken so far. -/
def Progress.taken {σ : Type} (p : Progress σ) : List RepairKind := p.log.filterMap Event.repair?

/-- Between two states, events are logged that show no other diagrams than some,
    and what is kept stays the same. -/
structure Progress.Adds {σ : Type} (ds : List Diagram) (p q : Progress σ) : Prop where
  log : ∃ more, q.log = p.log ++ more ∧ ∀ event ∈ more, event.diagrams ⊆ ds
  kept : q.accepted = p.accepted

namespace Progress

variable {σ : Type} {p q : Progress σ} {ds : List Diagram}

theorem adds_of_log_eq (hlog : q.log = p.log) (hkept : q.accepted = p.accepted) :
    p.Adds ds q :=
  ⟨⟨[], by rw [hlog, List.append_nil], fun _ hevent => absurd hevent List.not_mem_nil⟩, hkept⟩

theorem adds_of_log_concat {event : Event} (hlog : q.log = p.log ++ [event])
    (hkept : q.accepted = p.accepted) (hevent : event.diagrams ⊆ ds) : p.Adds ds q :=
  ⟨⟨[event], hlog, fun _ h => List.mem_singleton.1 h ▸ hevent⟩, hkept⟩

/-- Examples show no diagrams. -/
theorem Records.adds (h : p.Records q) : p.Adds ds q := by
  rcases h with ⟨world, examples, fix, rfl⟩
  refine ⟨⟨_, rfl, fun event hevent => ?_⟩, rfl⟩
  rcases List.mem_map.1 hevent with ⟨x, -, rfl⟩
  exact List.nil_subset _

/-- What is read off the log so far can be read off it from then on. -/
theorem Adds.filterMap_subset {α : Type} (h : p.Adds ds q) (f : Event → Option α) :
    p.log.filterMap f ⊆ q.log.filterMap f := by
  rcases h.log with ⟨more, hlog, -⟩
  rw [hlog, List.filterMap_append]
  exact List.subset_append_left _ _

end Progress

/-- The diagram that the caller gave. -/
def Seed.given : Seed → List Diagram
  | .diagram d => [d]
  | .outline _ => []

/-- A candidate that descends from some diagrams by some repairs: one of the
    diagrams made fit for a goal, or such a candidate after one of the repairs. -/
inductive IsCandidate (g : Goal) (sources : List Diagram) (kinds : List RepairKind) :
    Diagram → Prop where
  | prepared {d : Diagram} (h : d ∈ sources) : IsCandidate g sources kinds (Engine.prepare g d)
  | repaired {k : RepairKind} {c : Diagram} (hk : k ∈ kinds) (h : IsCandidate g sources kinds c) :
      IsCandidate g sources kinds (k.apply c)

theorem IsCandidate.mono {g : Goal} {sources more : List Diagram} {kinds others : List RepairKind}
    (hsources : sources ⊆ more) (hkinds : kinds ⊆ others) {c : Diagram}
    (h : IsCandidate g sources kinds c) : IsCandidate g more others c := by
  induction h with
  | prepared hd => exact .prepared (hsources hd)
  | repaired hk _ ih => exact .repaired (hkinds hk) ih

/-- The candidates that there can be so far, where the caller gave some diagrams. -/
def Progress.Reaches {σ : Type} (g : Goal) (given : List Diagram) (p : Progress σ) :
    Diagram → Prop :=
  IsCandidate g (given ++ p.answers) p.taken

namespace Engine

open Progress

variable {σ : Type} (e : Engine σ)

/-- The canonical form of a candidate. -/
def IsForm (g : Goal) (given : List Diagram) (p : Progress σ) (d : Diagram) : Prop :=
  ∃ c, p.Reaches g given c ∧ d = e.canonical c

/-- All that a build has shown, and what it keeps, are canonical forms of
    candidates. -/
structure Descends (g : Goal) (given : List Diagram) (p : Progress σ) : Prop where
  shown : ∀ event ∈ p.log, ∀ d ∈ event.diagrams, e.IsForm g given p d
  kept : ∀ d, p.accepted = some d → e.IsForm g given p d

/-- What is to be looked at next is a candidate as well. -/
def Carries (g : Goal) (given : List Diagram) (c : Diagram) (p : Progress σ) : Prop :=
  p.Reaches g given c ∧ e.Descends g given p

/-- The diagram that a build ends with, if it does, is the canonical form of a
    candidate as well. -/
def Yields (g : Goal) (given : List Diagram) (r : Ended σ) : Prop :=
  e.Descends g given r.2 ∧ ∀ s, r.1 = .ok s → e.IsForm g given r.2 s.diagram

/-! ### What is logged -/

section Log

variable {e} {p q : Progress σ}

theorem adds_submit {t : Text} {v : Verdict} (h : e.submit t p = (v, q)) : p.Adds [] q := by
  rcases submit_eq h with ⟨-, -, rfl⟩ | ⟨world, -, rfl⟩
  · exact adds_of_log_eq rfl rfl
  · exact adds_of_log_concat rfl rfl (List.nil_subset _)

theorem adds_consult {r : Request} {x : Except BuildError Diagram}
    (h : e.consult r p = (x, q)) : p.Adds r.diagrams q := by
  have hkept := accepted_consult h
  rcases e.log_consult h with hlog | ⟨reply, hlog⟩
  · exact adds_of_log_eq hlog hkept
  · exact adds_of_log_concat hlog hkept (List.Subset.refl _)

/-- What becomes of the state when the generator is asked. -/
theorem consult_spec {r : Request} {x : Except BuildError Diagram}
    (h : e.consult r p = (x, q)) :
    (x = .error .cancelled ∧ q.log = p.log) ∨
      ∃ reply, q.log = p.log ++ [.asked r reply] ∧ q.seen = p.seen ∧ q.repairs = p.repairs ∧
        q.pendingFix = p.pendingFix ∧ ∀ d, x = .ok d → (Event.asked r reply).answer? = some d := by
  rcases consult_eq h with ⟨-, hx, rfl⟩ | ⟨reply, world, -, rfl, rfl⟩
  · exact Or.inl ⟨hx, rfl⟩
  · exact Or.inr ⟨reply, rfl, rfl, rfl, rfl, fun d => Event.answer?_of_result⟩

/-- A diagram that comes of a request is among the answers from then on. -/
theorem mem_answers_consult {r : Request} {d : Diagram} (h : e.consult r p = (.ok d, q)) :
    d ∈ q.answers := by
  rcases consult_spec h with ⟨hcancelled, -⟩ | ⟨reply, hlog, -, -, -, hanswer⟩
  · exact absurd hcancelled (by simp only [reduceCtorEq, not_false_eq_true])
  · rw [Progress.answers, hlog]
    exact List.mem_filterMap.2
      ⟨_, List.mem_append_right _ (List.mem_singleton_self _), hanswer d rfl⟩

end Log

/-! ### Lineage is kept -/

section Steps

variable {e} {g : Goal} {given : List Diagram} {p q : Progress σ}

/-- What is a candidate stays one. -/
theorem reaches_adds {ds : List Diagram} (hadds : p.Adds ds q) {c : Diagram}
    (h : p.Reaches g given c) : q.Reaches g given c := by
  have hanswers : p.answers ⊆ q.answers := hadds.filterMap_subset Event.answer?
  have hsources : given ++ p.answers ⊆ given ++ q.answers :=
    List.append_subset.2 ⟨List.subset_append_left _ _,
      List.Subset.trans hanswers (List.subset_append_right _ _)⟩
  exact h.mono hsources (hadds.filterMap_subset Event.repair?)

theorem IsForm.adds {ds : List Diagram} (hadds : p.Adds ds q) {d : Diagram}
    (h : e.IsForm g given p d) : e.IsForm g given q d :=
  h.imp fun _ hc => ⟨reaches_adds hadds hc.1, hc.2⟩

theorem Descends.adds {ds : List Diagram} (h : e.Descends g given p) (hadds : p.Adds ds q)
    (hds : ∀ d ∈ ds, e.IsForm g given p d) : e.Descends g given q where
  shown event hevent d hd := by
    rcases hadds.log with ⟨more, hlog, hmore⟩
    refine IsForm.adds hadds ?_
    rw [hlog, List.mem_append] at hevent
    rcases hevent with hevent | hevent
    · exact h.shown event hevent d hd
    · exact hds d (hmore event hevent hd)
  kept d hd := (h.kept d (hadds.kept.symm.trans hd)).adds hadds

/-- Nothing is shown, so nothing has to be checked. -/
theorem Descends.quiet (h : e.Descends g given p) (hadds : p.Adds [] q) : e.Descends g given q :=
  h.adds hadds fun _ hd => absurd hd List.not_mem_nil

theorem Descends.keep (h : e.Descends g given p) {d : Diagram} (hd : e.IsForm g given p d) :
    e.Descends g given { p with accepted := some d } where
  shown := h.shown
  kept _ heq := Option.some.inj heq ▸ hd

/-! ### Ends -/

theorem Descends.yields_succeed (h : e.Descends g given p) {d : Diagram}
    (hd : e.IsForm g given p d) : e.Yields g given (p.succeed d) := by
  refine ⟨h, fun s hs => ?_⟩
  rw [Progress.succeed, Except.ok.injEq] at hs
  rw [← hs]
  exact hd

theorem Descends.yields_fail (h : e.Descends g given p) (err : BuildError) :
    e.Yields g given (p.fail err) :=
  ⟨h, fun _ hs => absurd hs (by simp only [Progress.fail, reduceCtorEq, not_false_eq_true])⟩

theorem Descends.yields_stop (h : e.Descends g given p) (err : BuildError) :
    e.Yields g given (p.stop err) := by
  have hblamed : ∀ r, e.Descends g given (p.blame r) := fun _ => ⟨h.shown, h.kept⟩
  -- A failure of the generator leaves what has been kept to end with.
  exact stop_cases (fun _ d _ hd => (hblamed _).yields_succeed (h.kept d hd))
    (fun _ _ _ => (hblamed _).yields_fail err) fun _ => h.yields_fail err

theorem Descends.yields_exhausted (h : e.Descends g given p) : e.Yields g given p.exhausted :=
  exhausted_cases (fun d hd => h.yields_succeed (h.kept d hd)) fun _ => h.yields_fail _

/-! ### One round -/

/-- What the generator answers is a candidate once it is made fit. -/
theorem Descends.carries_consult {r : Request} {d : Diagram} (h : e.Descends g given p)
    (hr : ∀ d ∈ r.diagrams, e.IsForm g given p d)
    (hconsult : e.consult r p = (.ok d, q)) : e.Carries g given (prepare g d) q :=
  ⟨.prepared (List.mem_append_right _ (mem_answers_consult hconsult)),
    h.adds (adds_consult hconsult) hr⟩

theorem Descends.leads_askAgain {r : Request} (h : e.Descends g given p)
    (hr : ∀ d ∈ r.diagrams, e.IsForm g given p d) :
    (e.askAgain g r p).Leads (e.Carries g given) (e.Yields g given) := by
  -- Counting iterations and repairs changes neither the log nor what is kept.
  have hcounted : e.Descends g given { p with iterations := p.iterations + 1 } :=
    ⟨h.shown, h.kept⟩
  refine e.askAgain_cases (fun d q hconsult => ?_) fun err q hconsult => ?_
  · have hq := hcounted.carries_consult hr hconsult
    exact ⟨hq.1, hq.2.shown, hq.2.kept⟩
  · exact (hcounted.adds (adds_consult hconsult) hr).yields_stop err

/-- The repair that is taken is one of the candidate. -/
theorem eq_apply_of_nextRepair? {kinds : List RepairKind} {c c' : Diagram} {k : RepairKind}
    (h : e.nextRepair? kinds c p = some (k, c')) : c' = k.apply c := by
  unfold nextRepair? at h
  split at h
  · exact absurd h (by simp only [reduceCtorEq, not_false_eq_true])
  · exact RepairKind.eq_apply_of_mem (List.mem_of_find?_eq_some h)

/-- And its text is a new one. -/
theorem not_mem_seen_of_nextRepair? {kinds : List RepairKind} {c c' : Diagram} {k : RepairKind}
    (h : e.nextRepair? kinds c p = some (k, c')) : e.print (e.canonical c') ∉ p.seen := by
  unfold nextRepair? at h
  split at h
  · exact absurd h (by simp only [reduceCtorEq, not_false_eq_true])
  · have hfound := List.find?_some h
    rw [Bool.and_eq_true, Bool.not_eq_true', Bool.not_eq_true', List.contains_eq_mem,
      decide_eq_false_iff_not] at hfound
    exact hfound.2

theorem Carries.leads_takeRepair {kinds : List RepairKind} {c c' : Diagram} {k : RepairKind}
    (h : e.Carries g given c p) (hrepair : e.nextRepair? kinds c p = some (k, c')) :
    (takeRepair k c' p).Leads (e.Carries g given) (e.Yields g given) := by
  have hadds : p.Adds [] ({ p with repairs := p.repairs + 1 }.happen (.repaired k c')) :=
    adds_of_log_concat rfl rfl (List.nil_subset _)
  have htaken : k ∈ ({ p with repairs := p.repairs + 1 }.happen (.repaired k c')).taken :=
    List.mem_filterMap.2
      ⟨.repaired k c', List.mem_append_right _ (List.mem_singleton_self _), rfl⟩
  rw [eq_apply_of_nextRepair? hrepair] at hadds htaken ⊢
  exact ⟨.repaired htaken (reaches_adds hadds h.1), h.2.quiet hadds⟩

theorem Carries.leads_accept {c : Diagram} {t : Text} (h : e.Carries g given c p) :
    (e.accept g (e.canonical c) t p).Leads (e.Carries g given) (e.Yields g given) := by
  have hsettled : p.Adds [] (e.settleFix t p) := (e.records_settleFix t p).adds
  have hform : e.IsForm g given (e.settleFix t p) (e.canonical c) :=
    ⟨c, reaches_adds hsettled h.1, rfl⟩
  have hkept : e.Descends g given { e.settleFix t p with accepted := some (e.canonical c) } :=
    (h.2.quiet hsettled).keep hform
  refine e.accept_cases (fun _ => hkept.yields_succeed hform) fun excerpt target _ => ?_
  exact hkept.leads_askAgain fun d hd => List.mem_singleton.1 hd ▸ hform

theorem Carries.leads_reject {c : Diagram} {t : Text} {report : Report} {r : Objection}
    (h : e.Carries g given c p) :
    (e.reject g c (e.canonical c) t report r p).Leads (e.Carries g given) (e.Yields g given) := by
  have hblamed : e.Carries g given c (blameRejection r report p) := ⟨h.1, h.2.shown, h.2.kept⟩
  refine e.reject_cases (fun k c' hrepair => hblamed.leads_takeRepair hrepair)
    (fun examples q hexamples _ => ?_) fun _ => hblamed.2.yields_exhausted
  have hadds : Adds [] _ q := (records_examples hexamples).adds
  refine (hblamed.2.quiet hadds).leads_askAgain fun d hd => ?_
  rw [List.mem_singleton.1 hd]
  exact ⟨c, reaches_adds hadds hblamed.1, rfl⟩

/-- A round turns candidates into candidates, and what it shows or ends with is the
    canonical form of one. -/
theorem Carries.leads_round {c : Diagram} (h : e.Carries g given c p) :
    (e.round g c p).Leads (e.Carries g given) (e.Yields g given) := by
  have hadds : p.Adds [e.canonical c] (e.present c p) :=
    adds_of_log_concat rfl rfl (List.Subset.refl _)
  -- Before anything else the candidate is printed, which shows its canonical form.
  have hpresent : e.Carries g given c (e.present c p) := by
    refine ⟨reaches_adds hadds h.1, h.2.adds hadds fun d hd => ?_⟩
    exact ⟨c, h.1, List.mem_singleton.1 hd⟩
  have hsubmit : ∀ {t v q}, e.submit t (e.present c p) = (v, q) → e.Carries g given c q :=
    fun hq => ⟨reaches_adds (adds_submit hq) hpresent.1, hpresent.2.quiet (adds_submit hq)⟩
  refine e.round_cases (fun k c' _ hrepair => hpresent.leads_takeRepair hrepair)
    (fun q hq => (hsubmit hq).leads_accept) (fun r q hq => (hsubmit hq).leads_reject)
    fun q hq => (hsubmit hq).2.yields_stop _

/-! ### A whole build -/

theorem leads_opening (s : Seed) (g : Goal) (world : σ) :
    (e.opening s g world).Leads (e.Carries g s.given) (e.Yields g s.given) := by
  have hstart : ∀ given, e.Descends g given { world } := fun given =>
    ⟨fun _ hevent => absurd hevent List.not_mem_nil,
      fun _ hd => absurd hd (by simp only [reduceCtorEq, not_false_eq_true])⟩
  cases s with
  | diagram d => exact ⟨.prepared (List.mem_append_left _ (List.mem_singleton_self d)), hstart _⟩
  | outline r =>
    -- A request for an outline hands over no diagram that would have to be a form.
    have hnone : ∀ given p, ∀ d ∈ (Request.outline r).diagrams, e.IsForm g given p d :=
      fun _ _ _ hd => absurd hd List.not_mem_nil
    unfold opening
    dsimp only
    rcases hconsult : e.consult (.outline r) { world } with ⟨err | d, q⟩
    · exact ((hstart _).adds (adds_consult hconsult) (hnone _ _)).yields_stop err
    · exact (hstart _).carries_consult (hnone _ _) hconsult

variable (e)

/-- The lineage of all that a build shows and of what it ends with. -/
theorem yields_solve (s : Seed) (g : Goal) (world : σ) :
    e.Yields g s.given (e.solve s g world) :=
  e.solve_leads (fun _ _ h => h.leads_round) (leads_opening s g world)

/-- The lineage of all candidates that a build looks at. -/
theorem isCandidate_rounds {s : Seed} {g : Goal} {world : σ} {n : Nat} {c : Diagram}
    {p : Progress σ} (h : e.rounds g n (e.opening s g world) = .again c p) :
    p.Reaches g s.given c := by
  have hleads := e.rounds_leads (fun _ _ h => h.leads_round) n (leads_opening s g world)
  rw [h] at hleads
  exact hleads.1

end Steps

end Engine

end Flowchart
