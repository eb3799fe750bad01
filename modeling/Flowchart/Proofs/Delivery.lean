import Flowchart.Proofs.Approval
import Flowchart.Proofs.Conservation
import Flowchart.Proofs.Settled

/-!
# What Is Shipped

The validator accepts the text of a diagram, and then the diagram is split and
its units are printed once more. A diagram that is not split has a single unit,
and its text was meant to be the one that was accepted. Whether it is depends on
the diagram alone: on the way it is brought into canonical form twice more, once
before it is cut and once as a unit.

That changes nothing about a settled diagram, and something about any other. A
text with an entity, or an id that stands in for a label and is too long for
one, is printed in one way for the validator and in another for the caller.

A pack has a single unit only if the diagram was not cut, since runs are never
as long as the whole.

## Main definitions

* `Commission`: What a build is made from.
* `Engine.build`: A build.

## Theorems

* `Partition.pieces_of_length_eq_one`: The unit of a pack that has only one.
* `Engine.endsCanonical_solve`: The result of a build is canonical.
* `Engine.shipped_iff`: When the text that is shipped was accepted.
-/

namespace Flowchart

/-! ### Packs of one unit -/

namespace Partition

/-- Several runs leave none that is as long as the whole. -/
theorem one_lt_ceilDiv {n k : Nat} (hk : 1 < k) (hn : k ≤ max n 1) :
    1 < ceilDiv n (max (ceilDiv n k) 1) := by
  have hn2 : 2 ≤ n := by omega
  have hshort : ceilDiv n k < n := by
    unfold ceilDiv
    rw [Nat.div_lt_iff_lt_mul (by omega)]
    have hmul : n + k ≤ n * k := Nat.add_le_mul hn2 hk
    omega
  have hrun : max (ceilDiv n k) 1 < n := by omega
  rwa [lt_ceilDiv_iff (by omega), Nat.one_mul]

/-- The whole of a canonical diagram as a unit has been brought into canonical
    form once more, and no subgraph is lost. -/
theorem diagram_piece_whole {p : LabelPolicy} {c : Diagram} (hc : c.IsCanonical p) (i : Nat) :
    (piece p i c.subgraphs c).diagram = c.canonical p := by
  -- All members are nodes of the unit, and no subgraph has fewer than two of them.
  have hmembers : c.subgraphs.map (fun s => { s with members := s.members.filter c.hasNode })
      = c.subgraphs := by
    refine map_eq_self_iff.2 fun s hs => ?_
    rw [List.filter_eq_self.2 fun m hm => ((hc.subgraphs s hs).members m hm).2]
  have hkept : (c.subgraphs.map (fun s => { s with members := s.members.filter c.hasNode })).filter
      (2 ≤ ·.members.length) = c.subgraphs := by
    rw [hmembers]
    exact List.filter_eq_self.2 fun s hs => decide_eq_true (hc.subgraphs s hs).several
  unfold piece
  dsimp only
  rw [hkept]

/-- A pack has a single unit only if its diagram was not cut. -/
theorem pieces_of_length_eq_one {o : Options} {p : LabelPolicy} {d : Diagram}
    (h : (split o p d).pieces.length = 1) :
    ∃ u, (split o p d).pieces = [u] ∧ u.diagram = (d.canonical p).canonical p := by
  unfold split at h ⊢
  dsimp only at h ⊢
  split at h
  · rename_i hone
    rw [if_pos hone]
    exact ⟨_, rfl, diagram_piece_whole (Diagram.isCanonical_canonical p d) 0⟩
  · rename_i hseveral
    -- There are as many units as runs, so there are several.
    rw [List.length_map, List.length_range] at h
    have hruns := one_lt_ceilDiv (Nat.lt_of_not_le hseveral) (Nat.min_le_right _ _)
    omega

end Partition

/-! ### The result of a build is canonical -/

namespace Engine

variable {σ : Type} (e : Engine σ)

/-- What is kept for the case that nothing better comes is canonical. -/
def KeepsCanonical (p : Progress σ) : Prop :=
  ∀ d, p.accepted = some d → d.IsCanonical e.settings.limits.policy

/-- If there is a result, it is canonical. -/
def EndsCanonical (r : Ended σ) : Prop :=
  ∀ s, r.1 = .ok s → s.diagram.IsCanonical e.settings.limits.policy

theorem endsCanonical_fail (p : Progress σ) (err : BuildError) : e.EndsCanonical (p.fail err) :=
  fun _ hs => absurd hs (by simp only [Progress.fail, reduceCtorEq, not_false_eq_true])

theorem endsCanonical_succeed {p : Progress σ} {d : Diagram}
    (hd : d.IsCanonical e.settings.limits.policy) : e.EndsCanonical (p.succeed d) := by
  intro s hs
  rw [Progress.succeed, Except.ok.injEq] at hs
  rw [← hs]
  exact hd

theorem endsCanonical_stop {p : Progress σ} (h : e.KeepsCanonical p) (err : BuildError) :
    e.EndsCanonical (p.stop err) :=
  Progress.stop_cases (fun _ d _ hd => e.endsCanonical_succeed (h d hd))
    (fun _ _ _ => e.endsCanonical_fail _ err) fun _ => e.endsCanonical_fail p err

theorem endsCanonical_exhausted {p : Progress σ} (h : e.KeepsCanonical p) :
    e.EndsCanonical p.exhausted :=
  Progress.exhausted_cases (fun d hd => e.endsCanonical_succeed (h d hd))
    fun _ => e.endsCanonical_fail p _

theorem holds_askAgain_canonical {g : Goal} {r : Request} {p : Progress σ}
    (h : e.KeepsCanonical p) :
    (e.askAgain g r p).Holds e.KeepsCanonical e.EndsCanonical := by
  have hafter : ∀ {x q}, e.consult r { p with iterations := p.iterations + 1 } = (x, q) →
      e.KeepsCanonical q := by
    intro x q hconsult d hd
    exact h d ((accepted_consult hconsult).symm.trans hd)
  refine e.askAgain_cases (fun d q hconsult => ?_) fun err q hconsult => ?_
  · have hkept := hafter hconsult
    exact hkept
  · exact e.endsCanonical_stop (hafter hconsult) err

/-- Asking the validator accepts nothing yet. -/
theorem accepted_submit {t : Text} {p q : Progress σ} {v : Verdict} (h : e.submit t p = (v, q)) :
    q.accepted = p.accepted := by
  rcases submit_eq h with ⟨-, -, rfl⟩ | ⟨world, -, rfl⟩
  · rfl
  · rfl

/-- Only canonical forms are ever accepted. -/
theorem holds_round_canonical {g : Goal} (c : Diagram) (p : Progress σ) (h : e.KeepsCanonical p) :
    (e.round g c p).Holds e.KeepsCanonical e.EndsCanonical := by
  have hd : (e.canonical c).IsCanonical e.settings.limits.policy :=
    Diagram.isCanonical_canonical _ c
  have hsubmit : ∀ {v q}, e.submit (e.print (e.canonical c)) (e.present c p) = (v, q) →
      e.KeepsCanonical q := by
    intro v q hsubmit d hd
    exact h d ((e.accepted_submit hsubmit).symm.trans hd)
  refine e.round_cases (fun k c' hok hrepair => ?_) (fun q hq => ?_) (fun r q hq => ?_)
    fun q hq => ?_
  · exact h
  · refine e.accept_cases (fun hdone => e.endsCanonical_succeed hd) fun excerpt target _ => ?_
    refine e.holds_askAgain_canonical fun d' hd' => ?_
    rw [← Option.some.inj hd']
    exact hd
  · have hkept := hsubmit hq
    have hblamed : e.KeepsCanonical (blameRejection r
        (Lint.lint (e.print (e.canonical c))) q) := hkept
    refine e.reject_cases (fun k c' hrepair => hblamed) (fun examples q' hexamples _ => ?_)
      fun hspent => e.endsCanonical_exhausted hblamed
    refine e.holds_askAgain_canonical fun d hd' => hblamed d ?_
    -- Neither recording the failure nor looking up others changes what is kept.
    exact (congrArg Ledger.best (e.examples_ledger hexamples)).symm.trans hd'
  · exact e.endsCanonical_stop (hsubmit hq) .cancelled

/-- The result of a build is canonical. -/
theorem endsCanonical_solve (s : Seed) (g : Goal) (world : σ) :
    e.EndsCanonical (e.solve s g world) := by
  have hstart : e.KeepsCanonical { world } := fun d hd =>
    absurd hd (by simp only [reduceCtorEq, not_false_eq_true])
  have hafter : ∀ {r x q}, e.consult r { world } = (x, q) → e.KeepsCanonical q :=
    fun hconsult d hd => hstart d ((accepted_consult hconsult).symm.trans hd)
  refine e.solve_induction e.holds_round_canonical hstart (fun r d q hconsult => ?_)
    fun r err q hconsult => ?_
  · exact hafter hconsult
  · exact e.endsCanonical_stop (hafter hconsult) err

/-! ### Builds -/

end Engine

/-- What a build is made from. -/
inductive Commission where
  /-- A specification, and the way its diagram should run. -/
  | spec (spec : Text) (direction : Direction)
  /-- A long text with a focus. -/
  | focus (source : Text) (f : Focus)

namespace Engine

variable {σ : Type} (e : Engine σ)

/-- A build. -/
def build (split : Partition.Options) (world : σ) : Commission → Except Failure Success × Progress σ
  | .spec spec direction => e.fromSpec spec direction split world
  | .focus source f => e.focused source f split world

/-- Splitting and printing cannot fail. -/
theorem exists_of_conclude {split : Partition.Options} {r : Ended σ} {s : Success}
    (h : (e.conclude split r).1 = .ok s) :
    ∃ solved, r.1 = .ok solved ∧ s = e.finish split solved := by
  unfold conclude at h
  rcases hresult : r.1 with f | solved
  · rw [hresult] at h
    exact absurd h (by simp only [Except.map, reduceCtorEq, not_false_eq_true])
  · rw [hresult, Except.map, Except.ok.injEq] at h
    exact ⟨solved, rfl, h.symm⟩

/-- A build that succeeds has come to a diagram, which is split and printed. -/
theorem exists_solve_of_build {split : Partition.Options} {world : σ} {c : Commission} {s : Success}
    (h : (e.build split world c).1 = .ok s) :
    ∃ seed g solved, (e.solve seed g world).1 = .ok solved ∧ s = e.finish split solved ∧
      (e.build split world c).2 = (e.solve seed g world).2 := by
  cases c with
  | spec spec direction =>
    have hbuild : e.build split world (.spec spec direction)
        = e.fromSpec spec direction split world := rfl
    rw [hbuild] at h ⊢
    unfold fromSpec at h ⊢
    -- A kind that is not supported fails before there is a build.
    rcases hseed : e.seedOf spec direction with kind | seed
    · rw [hseed] at h
      exact absurd h (by simp only [reduceCtorEq, not_false_eq_true])
    · rw [hseed] at h
      rcases e.exists_of_conclude h with ⟨solved, hsolved, hfinish⟩
      exact ⟨seed, { direction }, solved, hsolved, hfinish, rfl⟩
  | focus source f =>
    have hbuild : e.build split world (.focus source f) = e.focused source f split world := rfl
    rw [hbuild, e.focused_eq] at h ⊢
    rcases e.exists_of_conclude h with ⟨solved, hsolved, hfinish⟩
    exact ⟨_, _, solved, hsolved, hfinish, rfl⟩

/-- A build that succeeds with a single unit ships one text, that of its result
    brought into canonical form twice more. Those passes leave the result alone if
    and only if none of its texts is too long or holds an entity, and then what is
    shipped is the last text that the validator accepted. -/
theorem shipped_iff {split : Partition.Options} {world : σ} {c : Commission} {s : Success}
    (h : (e.build split world c).1 = .ok s) (hone : s.pack.pieces.length = 1) :
    ∃ u t, s.pack.pieces = [u] ∧ s.texts = [t] ∧
      u.diagram.text? e.settings.compile = some t ∧
      (u.diagram = s.diagram ↔
        ∀ x ∈ s.diagram.texts, x.length ≤ maxNodeLabel ∧ ¬ Markup.HasEntity x) ∧
      (u.diagram = s.diagram →
        ((e.build split world c).2.log.filterMap Event.accepted?).getLast? = some t) := by
  rcases e.exists_solve_of_build h with ⟨seed, g, solved, hsolved, rfl, hprogress⟩
  -- The result is canonical already, and the unit is its canonical form taken twice more.
  have hcanonical : solved.diagram.IsCanonical e.settings.limits.policy :=
    e.endsCanonical_solve seed g world solved hsolved
  have hpack : (e.finish split solved).pack
      = Partition.split split e.settings.limits.policy solved.diagram := rfl
  have htexts : (e.finish split solved).texts
      = (e.finish split solved).pack.pieces.map fun u => e.print u.diagram := rfl
  have hresult : (e.finish split solved).diagram = solved.diagram := rfl
  rw [htexts, hresult]
  rw [hpack] at hone ⊢
  rcases Partition.pieces_of_length_eq_one hone with ⟨u, hpieces, hu⟩
  have hunit : u.diagram.IsCanonical e.settings.limits.policy := by
    rw [hu]
    exact Diagram.isCanonical_canonical _ _
  rcases hunit.check_text? e.settings.compile with ⟨t, ht, -⟩
  have hprint : e.print u.diagram = t := by rw [print, Diagram.text, ht, Option.getD_some]
  refine ⟨u, t, hpieces, ?_, ht, ?_, fun hsame => ?_⟩
  · rw [hpieces, List.map_singleton, hprint]
  · have hsettled := hcanonical.canonical_canonical_eq_iff_isSettled.trans hcanonical.isSettled_iff
    rw [hu]
    exact hsettled
  · -- The result was printed as the last accepted text, and the unit is the result.
    have hfaithful := e.isFaithful_solve seed g world
    unfold IsFaithful at hfaithful
    rw [hsolved] at hfaithful
    rcases hfaithful with ⟨t', ht', hlast⟩
    rw [hsame, ht'] at ht
    rw [hprogress, ← Option.some.inj ht]
    exact hlast

/-- A specification of one node with a label. -/
def labelled (label : String) : Text :=
  "\x7b\"nodes\":[\x7b\"id\":\"a\",\"label\":\"".toList ++ label.toList ++ "\"\x7d]\x7d".toList

theorem validatesByGrammar_offline (settings : Settings) :
    (Engine.offline settings).ValidatesByGrammar :=
  ⟨fun _ => rfl, fun _ _ => rfl⟩

/-- What is built from a node with a label, offline. -/
theorem build_labelled (label : String)
    (h : Diagram.parse? (labelled label) = .ok (Diagram.single "a".toList label.toList)) :
    let d := (Diagram.single "a".toList label.toList).canonical .strict
    let r := (Engine.offline {}).build {} () (.spec (labelled label) .down)
    r.1 = .ok ((Engine.offline {}).finish {} ⟨d, [], 0, {}⟩) ∧
      r.2.log.filterMap Event.accepted? = [d.text {}] := by
  intro d r
  have hr : r = (Engine.offline {}).conclude {}
      ((Engine.offline {}).solve (.diagram (Diagram.single "a".toList label.toList))
        { direction := .down } ()) :=
    (Engine.offline {}).fromSpec_of_diagram h (List.cons_ne_nil _ _) .down {} ()
  rw [hr, (validatesByGrammar_offline {}).solve_diagram _ _ rfl]
  exact ⟨rfl, rfl⟩

theorem shipped_iff_labelled :
    let r := (Engine.offline {}).build {} () (.spec (labelled "b") .down)
    ∃ s t, r.1 = .ok s ∧ s.pack.pieces.length = 1 ∧ s.texts = [t] ∧
      (r.2.log.filterMap Event.accepted?).getLast? = some t := by
  intro r
  rcases build_labelled "b" (by decide +kernel) with ⟨hs, -⟩
  have hone : ((Engine.offline {}).finish {}
      ⟨(Diagram.single "a".toList "b".toList).canonical .strict, [], 0, {}⟩).pack.pieces.length
        = 1 := by
    decide +kernel
  rcases (Engine.offline {}).shipped_iff hs hone with ⟨u, t, hpieces, htexts, -, hiff, hlast⟩
  have hsettled : ((Diagram.single "a".toList "b".toList).canonical .strict).IsSettled .strict := by
    decide +kernel
  have hcanonical := Diagram.isCanonical_canonical .strict (Diagram.single "a".toList "b".toList)
  exact ⟨_, t, hs, hone, htexts, hlast (hiff.2 (hcanonical.isSettled_iff.1 hsettled))⟩

/-- The validator sees the label that is left when the angle bracket is taken out,
    an entity. Splitting takes out the entity, and what is shipped has the id in
    its place. -/
theorem shipped_notMem_accepted :
    let r := (Engine.offline {}).build {} () (.spec (labelled "&am<p;") .down)
    ∃ s t, r.1 = .ok s ∧ s.pack.pieces.length = 1 ∧ s.texts = [t] ∧
      t ∉ r.2.log.filterMap Event.accepted? := by
  intro r
  rcases build_labelled "&am<p;" (by decide +kernel) with ⟨hs, haccepted⟩
  refine ⟨_, "flowchart TB\na[\"a\"]".toList, hs, by decide +kernel, by decide +kernel, ?_⟩
  have hr : r.2.log.filterMap Event.accepted?
      = [((Diagram.single "a".toList "&am<p;".toList).canonical .strict).text {}] := haccepted
  rw [hr]
  decide +kernel

end Engine

end Flowchart
