import Flowchart.Build.Build
import Flowchart.Proofs.Kept
import Flowchart.Proofs.Verdict

/-!
# Builds Validated by the Grammar

What the grammar thinks of a printed candidate is known before it is asked: the
text of a canonical diagram is one that it accepts, and one that the linter has
nothing severe to say about. A build whose validator is the grammar therefore
never repairs a candidate and never asks the generator to refine one. All its
rounds are the same, and a candidate that is not asked to grow is the result
after the first of them.

A diagram given by the caller is such a candidate. Where the generator outlines
the diagram, the outline is all that can go wrong. Asking for a richer diagram
may fail as well, but only once there is a diagram to fall back on.

## Main definitions

* `Engine.ValidatesByGrammar`: Nobody cancels the build, and the validator is the
  grammar.
* `Engine.approved`: What a build keeps track of once a candidate is accepted.
* `Engine.LacksOutline`: No outline comes of a request.
* `Engine.RestsOnOutline`: A build that fails only for want of an outline.
* `Success.IsPrompt`: A diagram that was accepted as it was given.

## Theorems

* `Engine.ValidatesByGrammar.round_eq`: Every round accepts its candidate.
* `Engine.ValidatesByGrammar.solve_diagram`: A given diagram is the result.
* `Engine.ValidatesByGrammar.restsOnOutline_solve`: An outlined diagram may grow.
* `Engine.ValidatesByGrammar.builds`: Both, for builds from their beginning to
  their end.
-/

namespace Flowchart

namespace Progress

variable {σ : Type}

/-- The generator has not been asked to refine a candidate. -/
def NeverRefines (log : List Event) : Prop := ∀ q reply, Event.asked (.refine q) reply ∉ log

theorem NeverRefines.append {log more : List Event} (h : NeverRefines log)
    (hmore : NeverRefines more) : NeverRefines (log ++ more) := by
  intro q reply hmem
  rcases List.mem_append.1 hmem with hmem | hmem
  · exact h q reply hmem
  · exact hmore q reply hmem

theorem neverRefines_singleton {event : Event} (h : ∀ q reply, event ≠ .asked (.refine q) reply) :
    NeverRefines [event] := by
  intro q reply hmem
  exact h q reply (List.mem_singleton.1 hmem).symm

theorem NeverRefines.records {p q : Progress σ} (h : NeverRefines p.log) (hrecords : p.Records q) :
    NeverRefines q.log := by
  rcases hrecords with ⟨world, examples, fix, rfl⟩
  refine h.append fun q reply hmem => ?_
  rcases List.mem_map.1 hmem with ⟨x, -, heq⟩
  exact Event.noConfusion heq

/-- Cutting a build short logs nothing. -/
theorem log_stop (p : Progress σ) (err : BuildError) : (p.stop err).2.log = p.log :=
  stop_cases (fun _ _ _ _ => rfl) (fun _ _ _ => rfl) fun _ => rfl

/-- A failure of the generator costs nothing but what has not been accepted. -/
theorem stop_oracle_of_some {p : Progress σ} {d : Diagram} (h : p.accepted = some d)
    (o : OracleError) : ∃ s, (p.stop (.oracle o)).1 = .ok s :=
  stop_cases (fun _ _ _ _ => ⟨_, rfl⟩)
    (fun _ _ hnone => absurd (h.symm.trans hnone) (Option.some_ne_none d))
    fun hother => absurd rfl (hother o)

theorem stop_oracle_of_none {p : Progress σ} (h : p.accepted = none) (o : OracleError) :
    ∃ f, (p.stop (.oracle o)).1 = .error f :=
  stop_cases (fun _ d _ hd => absurd (hd.symm.trans h) (Option.some_ne_none d))
    (fun _ _ _ => ⟨_, rfl⟩) fun hother => absurd rfl (hother o)

end Progress

namespace Engine

open Progress

variable {σ : Type} (e : Engine σ)

/-! ### What is logged -/

theorem log_consult {r : Request} {p q : Progress σ} {x : Except BuildError Diagram}
    (h : e.consult r p = (x, q)) : q.log = p.log ∨ ∃ reply, q.log = p.log ++ [.asked r reply] := by
  rcases consult_eq h with ⟨-, -, rfl⟩ | ⟨reply, world, -, -, rfl⟩
  · exact Or.inl rfl
  · exact Or.inr ⟨reply, rfl⟩

theorem neverRefines_consult {r : Request} (hr : ∀ q, r ≠ .refine q) {p q : Progress σ}
    {x : Except BuildError Diagram} (hp : NeverRefines p.log) (h : e.consult r p = (x, q)) :
    NeverRefines q.log := by
  rcases e.log_consult h with hlog | ⟨reply, hlog⟩
  · rw [hlog]
    exact hp
  · rw [hlog]
    refine hp.append (neverRefines_singleton fun s reply' heq => hr s ?_)
    exact (Event.asked.inj heq).1

/-! ### One round -/

/-- Nobody cancels the build, and its validator is the grammar. -/
structure ValidatesByGrammar : Prop where
  token : ∀ world, e.isCancelled world = false
  verdicts : ∀ t world, (e.validate t world).1 = some (Grammar.verdict t)

/-- What a build keeps track of once the validator has accepted a candidate. -/
def approved (c : Diagram) (p : Progress σ) : Progress σ :=
  { e.present c p with
    world := (e.validate (e.print (e.canonical c)) p.world).2 }.happen
      (.validated (e.print (e.canonical c)) (some (.ok ())))

variable {e}

/-- The text of a candidate is accepted. -/
theorem ValidatesByGrammar.submit_eq (h : e.ValidatesByGrammar) (c : Diagram) (p : Progress σ) :
    e.submit (e.print (e.canonical c)) (e.present c p) = (some (.ok ()), e.approved c p) := by
  have hcanonical := Diagram.isCanonical_canonical e.settings.limits.policy c
  rcases hcanonical.check_text? e.settings.compile with ⟨t, ht, hcheck⟩
  have htext : e.print (e.canonical c) = t :=
    Option.some.inj ((e.text?_canonical c).symm.trans ht)
  -- The text of a canonical diagram is one that the grammar accepts.
  have hverdict : Grammar.verdict (e.print (e.canonical c)) = .ok () := by
    rw [htext, Grammar.verdict, hcheck]
    rfl
  have hworld : (e.present c p).world = p.world := rfl
  unfold submit
  rw [h.token, hworld, if_neg (by simp only [Bool.false_eq_true, not_false_eq_true])]
  dsimp only
  rw [h.verdicts, hverdict]
  rfl

/-- There is nothing to repair before the validator is asked, and nothing to do
    afterwards but what is done with an accepted diagram. -/
theorem ValidatesByGrammar.round_eq (h : e.ValidatesByGrammar) (g : Goal) (c : Diagram)
    (p : Progress σ) :
    e.round g c p = e.accept g (e.canonical c) (e.print (e.canonical c)) (e.approved c p) := by
  have hcanonical := Diagram.isCanonical_canonical e.settings.limits.policy c
  rcases hcanonical.lint_text? e.settings.compile with ⟨t, ht, hok, -⟩
  have htext : e.print (e.canonical c) = t :=
    Option.some.inj ((e.text?_canonical c).symm.trans ht)
  -- The linter has nothing against the text, so no repair comes before the validator.
  have hlint : (Lint.lint (e.print (e.canonical c))).ok = true := by
    rw [htext]
    exact hok
  unfold round
  dsimp only
  rw [if_pos hlint]
  dsimp only
  rw [h.submit_eq]

/-! ### Diagrams given by the caller -/

/-- Where nothing is to be expanded, a given diagram is the result of the first
    round. -/
theorem ValidatesByGrammar.solve_diagram (h : e.ValidatesByGrammar) (d : Diagram) (g : Goal)
    (hg : g.expandFrom = none) (world : σ) :
    e.solve (.diagram d) g world =
      Progress.succeed { e.approved (prepare g d) { world } with
        accepted := some (e.canonical (prepare g d)) } (e.canonical (prepare g d)) := by
  have hsettle : e.settleFix (e.print (e.canonical (prepare g d)))
      (e.approved (prepare g d) { world }) = e.approved (prepare g d) { world } := rfl
  have hround : e.round g (prepare g d) { world } =
      .ended (Progress.succeed { e.approved (prepare g d) { world } with
        accepted := some (e.canonical (prepare g d)) } (e.canonical (prepare g d))) := by
    rw [h.round_eq, accept, hsettle]
    dsimp only
    rw [expansion?, hg]
  -- One round is enough, so the run can be evaluated up to its end.
  have hrounds : (e.rounds g 1 (.again (prepare g d) { world })).Holds (fun _ => False)
      fun r => r = Progress.succeed { e.approved (prepare g d) { world } with
        accepted := some (e.canonical (prepare g d)) } (e.canonical (prepare g d)) := by
    rw [rounds, rounds, hround]
    rfl
  exact e.examine_of_rounds hrounds

/-! ### Diagrams that are outlined -/

variable (e)

/-- No outline comes of a request: asking for it fails, or the completion is of
    no use. -/
def LacksOutline (r : OutlineRequest) (world : σ) : Prop :=
  (∃ o, (e.ask (.outline r) world).1 = some (.error o)) ∨
    ∃ c o, (e.ask (.outline r) world).1 = some (.ok c) ∧ Completion.read c.text = .error o

/-- The generator is never asked to refine, and if it answers whatever it is
    asked, then only a missing outline makes the build fail. -/
def RestsOnOutline {α : Type} (r : OutlineRequest) (world : σ)
    (result : Except Failure α × Progress σ) : Prop :=
  NeverRefines result.2.log ∧
    ((∀ q w, (e.ask q w).1 ≠ none) → ((∃ f, result.1 = .error f) ↔ e.LacksOutline r world))

/-- A build that ended without a request to refine. It ended with a diagram if the
    generator answers whatever it is asked. -/
def IsSmooth (r : Ended σ) : Prop :=
  NeverRefines r.2.log ∧ ((∀ q w, (e.ask q w).1 ≠ none) → ∃ s, r.1 = .ok s)

variable {e}

/-- Where nobody cancels, a generator that answers fails for its own reasons. -/
theorem ValidatesByGrammar.consult_error (h : e.ValidatesByGrammar)
    (hreplies : ∀ q w, (e.ask q w).1 ≠ none) {r : Request} {p q : Progress σ} {err : BuildError}
    (hconsult : e.consult r p = (.error err, q)) : ∃ o, err = .oracle o := by
  refine NeverCancels.consult (e := e) ⟨h.token, hreplies, fun t w => ?_⟩ hconsult
  rw [h.verdicts]
  exact Option.some_ne_none _

/-- Asking the generator takes nothing away from what has been accepted. -/
theorem accepted_consult {r : Request} {p q : Progress σ} {x : Except BuildError Diagram}
    (h : e.consult r p = (x, q)) : q.accepted = p.accepted := by
  rcases consult_eq h with ⟨-, -, rfl⟩ | ⟨reply, world, -, -, rfl⟩
  · rfl
  · rfl

/-- Asking for a richer diagram can fail, but the diagram that was to be expanded
    is there to fall back on. -/
theorem ValidatesByGrammar.holds_expand (h : e.ValidatesByGrammar) {g : Goal} {r : ExpandRequest}
    {d : Diagram} {p : Progress σ} (hlog : NeverRefines p.log) (hkept : p.accepted = some d) :
    (e.askAgain g (.expand r) p).Holds (fun q => NeverRefines q.log) e.IsSmooth := by
  have hcounted : NeverRefines ({ p with iterations := p.iterations + 1 } : Progress σ).log := hlog
  have hexpand : ∀ q, Request.expand r ≠ .refine q := fun q heq => Request.noConfusion heq
  refine e.askAgain_cases (fun d' q hconsult => ?_) fun err q hconsult => ?_
  · have hafter := e.neverRefines_consult hexpand hcounted hconsult
    exact hafter
  · refine ⟨?_, fun hreplies => ?_⟩
    · rw [log_stop]
      exact e.neverRefines_consult hexpand hcounted hconsult
    · -- The generator is to blame, and the build ends with what it kept.
      rcases h.consult_error hreplies hconsult with ⟨o, rfl⟩
      exact stop_oracle_of_some ((accepted_consult hconsult).trans hkept) o

/-- So every round either goes on or ends smoothly. -/
theorem ValidatesByGrammar.holds_round (h : e.ValidatesByGrammar) {g : Goal} (c : Diagram)
    (p : Progress σ) (hp : NeverRefines p.log) :
    (e.round g c p).Holds (fun q => NeverRefines q.log) e.IsSmooth := by
  have hsilent : ∀ event, event.isCall = false → NeverRefines [event] := by
    intro event hcall
    refine neverRefines_singleton fun q reply heq => ?_
    rw [heq, Event.isCall] at hcall
    exact absurd hcall (by decide)
  have happroved : NeverRefines (e.approved c p).log := by
    have hlog : (e.approved c p).log = p.log ++ [.printed (e.canonical c) (e.print (e.canonical c))]
        ++ [.validated (e.print (e.canonical c)) (some (.ok ()))] := rfl
    rw [hlog]
    exact (hp.append (hsilent _ rfl)).append (hsilent _ rfl)
  have hsettled : NeverRefines
      (e.settleFix (e.print (e.canonical c)) (e.approved c p)).log :=
    happroved.records (e.records_settleFix _ _)
  -- With every text accepted there is no rejection to refine after.
  rw [h.round_eq]
  refine e.accept_cases (fun hdone => ?_) fun excerpt target hexpansion => ?_
  · exact ⟨hsettled, fun _ => ⟨_, rfl⟩⟩
  · exact h.holds_expand hsettled rfl

/-- Where nobody cancels and the generator answers, an outline is lacking exactly
    if the first diagram is. -/
theorem ValidatesByGrammar.lacksOutline_iff (h : e.ValidatesByGrammar)
    (hreplies : ∀ q w, (e.ask q w).1 ≠ none) (r : OutlineRequest) (world : σ) :
    e.LacksOutline r world ↔ ∃ err, (e.consult (.outline r) { world }).1 = .error err := by
  unfold LacksOutline consult
  rw [h.token]
  simp only [Bool.false_eq_true, if_false]
  -- Either there is no reply, which was excluded, or the generator failed, or it has
  -- to be read.
  rcases hreply : (e.ask (.outline r) world).1 with _ | o | c
  · exact absurd hreply (hreplies _ _)
  · simp
  · rcases hread : Completion.read c.text with o | d
    · simp [hread, Except.mapError]
    · simp [hread, Except.mapError]

/-- A build from an outline rests on that alone. -/
theorem ValidatesByGrammar.restsOnOutline_solve (h : e.ValidatesByGrammar) (r : OutlineRequest)
    (g : Goal) (world : σ) : e.RestsOnOutline r world (e.solve (.outline r) g world) := by
  have hstart : NeverRefines ({ world } : Progress σ).log := fun _ _ hmem =>
    absurd hmem List.not_mem_nil
  have houtline : ∀ q, Request.outline r ≠ .refine q := fun q heq => Request.noConfusion heq
  have hlacks := fun hreplies => h.lacksOutline_iff hreplies r world
  unfold solve
  dsimp only
  rcases hasked : e.consult (.outline r) { world } with ⟨err | d, q⟩
  · have hlog := e.neverRefines_consult houtline hstart hasked
    refine ⟨by rw [log_stop]; exact hlog, fun hreplies => ?_⟩
    rw [hlacks hreplies, hasked]
    -- Nothing has been accepted yet, so there is nothing to fall back on.
    rcases h.consult_error hreplies hasked with ⟨o, rfl⟩
    exact ⟨fun _ => ⟨_, rfl⟩, fun _ => stop_oracle_of_none (accepted_consult hasked) o⟩
  · have hlog := e.neverRefines_consult houtline hstart hasked
    have hsmooth : e.IsSmooth (e.examine g (prepare g d) q) :=
      e.examine_induction h.holds_round _ hlog
    refine ⟨hsmooth.1, fun hreplies => ?_⟩
    rw [hlacks hreplies, hasked]
    rcases hsmooth.2 hreplies with ⟨s, hs⟩
    rw [hs]
    simp only [reduceCtorEq, exists_false]

/-! ### From the beginning to the end -/

variable (e)

theorem RestsOnOutline.conclude {r : OutlineRequest} {world : σ} {result : Ended σ}
    (h : e.RestsOnOutline r world result) (split : Partition.Options) :
    e.RestsOnOutline r world (e.conclude split result) := by
  refine ⟨h.1, fun hreplies => ?_⟩
  rw [← h.2 hreplies, Engine.conclude]
  rcases result.1 with f | s
  · simp [Except.map]
  · simp [Except.map]

/-- The request to outline what a text says on a focus. -/
def focusRequest (source : Text) (f : Focus) : OutlineRequest where
  source := (Excerpt.select source f e.settings.limits.excerptSize).text
  direction := f.direction.getD .down
  topic := some f.topic
  mustInclude := f.mustInclude
  exclude := f.exclude
  budget := e.settings.sizes.outlineBudget (f.budget e.settings.sizes)

/-- What a build on a focus aims for. -/
def focusGoal (source : Text) (f : Focus) : Goal where
  direction := f.direction.getD .down
  budget := some (f.budget e.settings.sizes)
  mustInclude := f.mustInclude
  exclude := f.exclude
  expandFrom := some (Excerpt.select source f e.settings.limits.excerptSize).text
  subgraphTitle := f.subgraphTitle

theorem focused_eq (source : Text) (f : Focus) (split : Partition.Options) (world : σ) :
    e.focused source f split world =
      e.conclude split (e.solve (.outline (e.focusRequest source f)) (e.focusGoal source f) world) :=
  rfl

/-- A specification that is a diagram with nodes is what the build starts from. -/
theorem fromSpec_of_diagram {spec : Text} {d : Diagram} (hd : Diagram.parse? spec = .ok d)
    (hnodes : d.nodes ≠ []) (direction : Direction) (split : Partition.Options) (world : σ) :
    e.fromSpec spec direction split world =
      e.conclude split (e.solve (.diagram d) { direction } world) := by
  have hseed : e.seedOf spec direction = .ok (.diagram d) := by
    unfold seedOf
    rw [hd]
    dsimp only
    rw [if_neg (by rwa [List.isEmpty_iff])]
  unfold fromSpec
  rw [hseed]

/-- Any other specification is outlined, unless it is a diagram of a kind that is
    not supported. -/
theorem fromSpec_of_outline {spec : Text} (hempty : ∀ d, Diagram.parse? spec = .ok d → d.nodes = [])
    (hkind : ∀ kind, Diagram.parse? spec ≠ .error (.unsupportedKind kind)) (direction : Direction)
    (split : Partition.Options) (world : σ) :
    e.fromSpec spec direction split world =
      e.conclude split (e.solve (.outline (e.sourceRequest spec direction)) { direction } world) := by
  -- Neither a diagram without nodes nor a text that is no diagram keeps the
  -- specification from being outlined.
  have hseed : e.seedOf spec direction = .ok (.outline (e.sourceRequest spec direction)) := by
    unfold seedOf
    split
    · rename_i d hd
      rw [if_pos (by rw [hempty d hd]; rfl)]
    · rename_i kind hkind'
      exact absurd hkind' (hkind kind)
    · rfl
  unfold fromSpec
  rw [hseed]

end Engine

/-- A diagram that was built as it was given: nothing was asked for, nothing went
    wrong, and every unit was printed as a text that the grammar accepts. -/
structure Success.IsPrompt (settings : Settings) (d : Diagram) (s : Success) : Prop where
  diagram : s.diagram = d.canonical settings.limits.policy
  iterations : s.iterations = 0
  reasons : s.reasons = []
  usage : s.usage = {}
  printed : s.pack.pieces.map (fun u => u.diagram.text? settings.compile) = s.texts.map some
  accepted : ∀ t ∈ s.texts, Grammar.check t = .ok ()

/-- Every unit of a pack is canonical. -/
theorem Partition.isCanonical_of_mem_split {o : Options} {p : LabelPolicy} {d : Diagram} {u : Piece}
    (h : u ∈ (split o p d).pieces) : u.diagram.IsCanonical p := by
  -- Whichever way it is split, every unit is brought into canonical form at last.
  have hpiece : ∀ i subgraphs part, (piece p i subgraphs part).diagram.IsCanonical p :=
    fun i subgraphs part => Diagram.isCanonical_canonical p _
  unfold split at h
  dsimp only at h
  split at h
  · rw [List.mem_singleton.1 h]
    exact hpiece _ _ _
  · rcases List.mem_map.1 h with ⟨i, -, rfl⟩
    exact hpiece _ _ _

namespace Engine

variable {σ : Type} {e : Engine σ}

/-- A result that took no request is prompt once it is split and printed. -/
theorem isPrompt_finish {s : Solved} {d : Diagram}
    (hdiagram : s.diagram = d.canonical e.settings.limits.policy) (hiterations : s.iterations = 0)
    (hreasons : s.reasons = []) (husage : s.usage = {}) (split : Partition.Options) :
    (e.finish split s).IsPrompt e.settings d := by
  -- The units are printed as they are, and each is canonical.
  have htext : ∀ u ∈ (Partition.split split e.settings.limits.policy s.diagram).pieces,
      u.diagram.text? e.settings.compile = some (e.print u.diagram) ∧
        Grammar.check (e.print u.diagram) = .ok () := by
    intro u hu
    rcases (Partition.isCanonical_of_mem_split hu).check_text? e.settings.compile
      with ⟨t, ht, hcheck⟩
    have hprint : e.print u.diagram = t := by rw [print, Diagram.text, ht, Option.getD_some]
    rw [hprint]
    exact ⟨ht, hcheck⟩
  refine ⟨hdiagram, hiterations, hreasons, husage, ?_, fun t ht => ?_⟩
  · rw [finish, List.map_map]
    exact List.map_congr_left fun u hu => (htext u hu).1
  · rcases List.mem_map.1 ht with ⟨u, hu, rfl⟩
    exact (htext u hu).2

/-- A build that nobody cancels and that is validated by the grammar. If the
    specification is a diagram with nodes, the build succeeds with its canonical
    form and asks for nothing. Any other build rests on its outline. -/
theorem ValidatesByGrammar.builds (h : e.ValidatesByGrammar) :
    (∀ spec direction split world d, Diagram.parse? spec = .ok d → d.nodes ≠ [] →
      ∃ s, (e.fromSpec spec direction split world).1 = .ok s ∧
        s.IsPrompt e.settings { d with direction } ∧
        ∀ q reply, Event.asked q reply ∉ (e.fromSpec spec direction split world).2.log) ∧
    (∀ spec direction split world, (∀ d, Diagram.parse? spec = .ok d → d.nodes = []) →
      (∀ kind, Diagram.parse? spec ≠ .error (.unsupportedKind kind)) →
      e.RestsOnOutline (e.sourceRequest spec direction) world
        (e.fromSpec spec direction split world)) ∧
    ∀ source f split world, e.RestsOnOutline (e.focusRequest source f) world
      (e.focused source f split world) := by
  refine ⟨fun spec direction split world d hd hnodes => ?_,
    fun spec direction split world hempty hkind => ?_, fun source f split world => ?_⟩
  · rw [e.fromSpec_of_diagram hd hnodes, h.solve_diagram d { direction } rfl]
    refine ⟨_, rfl, isPrompt_finish rfl rfl rfl rfl split, fun q reply hmem => ?_⟩
    -- The diagram was printed and validated, and that is all.
    rcases List.mem_cons.1 hmem with heq | hmem
    · exact Event.noConfusion heq
    · exact Event.noConfusion (List.mem_singleton.1 hmem)
  · rw [e.fromSpec_of_outline hempty hkind]
    exact (h.restsOnOutline_solve _ _ world).conclude e split
  · rw [e.focused_eq]
    exact (h.restsOnOutline_solve _ _ world).conclude e split

/-- With a generator that answers everything with one small diagram, a diagram is
    built as it is given, and a sentence is outlined. -/
theorem builds_answered :
    let reply : Text := "\x7b\"nodes\":[\x7b\"id\":\"a\",\"label\":\"b\"\x7d]\x7d".toList
    let e : Engine Unit := { Engine.offline {} with ask := fun _ _ => (some (.ok ⟨reply, none⟩), ()) }
    (∃ s, (e.fromSpec reply .down {} ()).1 = .ok s ∧
        s.IsPrompt {} (Diagram.single "a".toList "b".toList)) ∧
      (∃ s, (e.fromSpec "from a to b".toList .down {} ()).1 = .ok s) ∧
      ∃ s, (e.focused "from a to b".toList {} {} ()).1 = .ok s := by
  intro reply e
  have hgrammar : e.ValidatesByGrammar := ⟨fun _ => rfl, fun _ _ => rfl⟩
  have hreplies : ∀ q w, (e.ask q w).1 ≠ none := fun _ _ => Option.some_ne_none _
  have hparse : Diagram.parse? reply = .ok (Diagram.single "a".toList "b".toList) := by
    decide +kernel
  have hread : Completion.read reply = .ok (Diagram.single "a".toList "b".toList) := by
    decide +kernel
  have hsentence : Diagram.parse? "from a to b".toList = .error .syntaxError := by
    decide +kernel
  -- The reply is a diagram, so it is as good an outline as any.
  have houtline : ∀ r w, ¬ e.LacksOutline r w := by
    rintro r w (⟨o, ho⟩ | ⟨c, o, hc, ho⟩)
    · exact absurd (Option.some.inj ho) (by simp only [reduceCtorEq, not_false_eq_true])
    · rw [← Except.ok.inj (Option.some.inj hc), hread] at ho
      exact absurd ho (by simp only [reduceCtorEq, not_false_eq_true])
  have hsuccess : ∀ {r : OutlineRequest} {result : Except Failure Success × Progress Unit},
      e.RestsOnOutline r () result → ∃ s, result.1 = .ok s := by
    intro r result hrests
    rcases hresult : result.1 with f | s
    · exact absurd ((hrests.2 hreplies).1 ⟨f, hresult⟩) (houtline r ())
    · exact ⟨s, rfl⟩
  rcases hgrammar.builds with ⟨hgiven, hspec, hfocus⟩
  rcases hgiven reply .down {} () _ hparse (List.cons_ne_nil _ _) with ⟨s, hs, hprompt, -⟩
  refine ⟨⟨s, hs, hprompt⟩, hsuccess (hspec _ .down {} () (fun d hd => ?_) fun kind hkind => ?_),
    hsuccess (hfocus _ {} {} ())⟩
  · rw [hsentence] at hd
    exact absurd hd (by simp only [reduceCtorEq, not_false_eq_true])
  · rw [hsentence, Except.error.injEq] at hkind
    exact absurd hkind (by simp only [reduceCtorEq, not_false_eq_true])

end Engine

end Flowchart
