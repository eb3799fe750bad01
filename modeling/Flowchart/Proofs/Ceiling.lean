import Flowchart.Proofs.Lineage
import Flowchart.Proofs.Pruning
import Flowchart.Proofs.Repairs

/-!
# The Size of What Is Built

A focus says how many nodes and edges its diagram may have and which way it
flows. Only `Engine.prepare` looks at that, once for every diagram that the
generator answers with. Repairs come later and look at none of it, so what limits
there are in the end are there because no repair undoes them.

For the edges and the direction that is so. A candidate has no more edges than
it may, those that end nowhere included, and canonical form and repairs add none.

For the nodes it is not. Pruning drops the edges of nodes that it prunes, but an
edge to an id that no node ever had is left, and the arity repair makes up a node
for it. What repairs do not increase is the extent, which counts such ids along
with the nodes. So there can be more nodes than there may be, by as many as some
answer has missing ends, but only after an arity repair.

All of this is shown by induction on the lineage of a candidate.

## Main definitions

* `Diagram.KeepsTo`: A diagram has no more edges than it may and flows its way.
* `Diagram.IsPlain`: Nothing in a diagram is exempt from pruning.
* `Engine.grudging`: An engine that makes a dangling edge count.

## Theorems

* `IsCandidate.keepsTo`: A candidate keeps to its edges and its direction.
* `IsCandidate.extent_le`: How far a candidate can extend.
* `Engine.keepsTo_focused`: Edges and direction of all that a build looks at,
  shows and ends with.
* `Engine.length_nodes_focused_le`: How many nodes there are in the end.
-/

namespace Flowchart

/-! ### Making a diagram fit -/

/-- Gathering nodes changes nothing but subgraphs. -/
theorem Diagram.gather_eq (title : Text) (terms : List Text) (d : Diagram) :
    d.gather title terms = { d with subgraphs := (d.gather title terms).subgraphs } := by
  unfold gather
  dsimp only
  split
  · rfl
  · rfl

/-- A diagram made fit is one with its nodes and edges, pruned to the budget. -/
theorem Engine.exists_prepare_eq {g : Goal} {b : Budget} (hb : g.budget = some b) (d : Diagram) :
    ∃ turned : Diagram, prepare g d = b.enforce g.mustInclude turned ∧
      turned.direction = g.direction ∧ turned.nodes = d.nodes ∧ turned.edges = d.edges := by
  unfold prepare
  rw [hb]
  dsimp only
  -- With or without a title, pruning comes last.
  split
  · rw [Diagram.gather_eq]
    exact ⟨_, rfl, rfl, rfl, rfl⟩
  · exact ⟨_, rfl, rfl, rfl, rfl⟩

/-! ### Edges and direction -/

namespace Diagram

/-- The diagram has no more edges than it may and flows the way it should. -/
structure KeepsTo (b : Budget) (direction : Direction) (d : Diagram) : Prop where
  edges : d.edges.length ≤ b.maxEdges
  direction : d.direction = direction

variable {b : Budget} {direction : Direction} {d : Diagram}

theorem KeepsTo.canonical (h : d.KeepsTo b direction) (p : LabelPolicy) :
    (d.canonical p).KeepsTo b direction :=
  ⟨(length_edges_canonical_le p d).trans h.edges, h.direction⟩

theorem KeepsTo.apply (h : d.KeepsTo b direction) (k : RepairKind) :
    (k.apply d).KeepsTo b direction := by
  rcases k.exists_isPatch d with ⟨patched, hpatch, heq⟩
  have hpatched : patched.KeepsTo b direction :=
    ⟨hpatch.edges ▸ h.edges, hpatch.direction.trans h.direction⟩
  rw [heq]
  exact hpatched.canonical .strict

end Diagram

/-- A candidate keeps to the edges and the direction of its goal. -/
theorem IsCandidate.keepsTo {g : Goal} {b : Budget} (hb : g.budget = some b)
    {sources : List Diagram} {kinds : List RepairKind} {c : Diagram}
    (h : IsCandidate g sources kinds c) : c.KeepsTo b g.direction := by
  induction h with
  | @prepared d _ =>
    rcases Engine.exists_prepare_eq hb d with ⟨turned, heq, hdirection, -⟩
    rw [heq]
    exact ⟨Budget.length_edges_enforce_le b _ turned, hdirection⟩
  | @repaired k _ _ _ ih => exact ih.apply k

/-! ### Nodes -/

namespace Diagram

/-- No node is a decision or a hub, so where no term names a node, none is exempt
    from pruning. -/
def IsPlain (d : Diagram) : Prop :=
  ∀ n ∈ d.nodes, n.shape ≠ .decision ∧ d.degree n.id < hubDegree

instance (d : Diagram) : Decidable d.IsPlain := by
  unfold IsPlain
  infer_instance

theorem IsPlain.congr {c d : Diagram} (h : d.IsPlain) (hnodes : c.nodes = d.nodes)
    (hedges : c.edges = d.edges) : c.IsPlain := by
  unfold IsPlain degree ends at h ⊢
  rw [hnodes, hedges]
  exact h

theorem IsPlain.countP_isProtected {d : Diagram} (h : d.IsPlain) :
    d.nodes.countP (Budget.isProtected [] d) = 0 := by
  refine List.countP_eq_zero.2 fun n hn hprotected => ?_
  have hnamed : n.isNamedBy [] = false := rfl
  rcases h n hn with ⟨hshape, hdegree⟩
  rw [Budget.isProtected, hnamed, Bool.false_or, Bool.or_eq_true, beq_iff_eq,
    decide_eq_true_eq] at hprotected
  rcases hprotected with hdecision | hhub
  · exact hshape hdecision
  · omega

end Diagram

/-- Pruning makes no end missing: an edge that is left keeps its nodes. -/
theorem Budget.missingEnds_enforce_subset (b : Budget) (terms : List Text) (d : Diagram) :
    (b.enforce terms d).missingEnds ⊆ d.missingEnds := by
  intro id hid
  rw [Diagram.mem_missingEnds] at hid ⊢
  rcases List.mem_flatMap.1 hid.1 with ⟨e, he, hend⟩
  rcases of_mem_edges_enforce he with ⟨hedge, hsource, htarget⟩
  refine ⟨List.mem_flatMap.2 ⟨e, hedge, hend⟩, ?_⟩
  have hspared : id ∉ b.pruned terms d := by
    rcases List.mem_cons.1 hend with rfl | hend
    · exact hsource
    · rw [List.mem_singleton.1 hend]
      exact htarget
  -- A node of that id would have stayed along with the edge.
  by_contra hnode
  rw [Bool.not_eq_false, Diagram.hasNode_iff] at hnode
  rcases List.mem_map.1 hnode with ⟨n, hn, rfl⟩
  have hleft : (b.enforce terms d).hasNode n.id = true :=
    Diagram.hasNode_iff.2 (List.mem_map_of_mem (mem_nodes_enforce.2 ⟨hn, hspared⟩))
  rw [hleft] at hid
  exact Bool.noConfusion hid.2

/-- A plain diagram made fit is within its budget, and it misses no more ends than
    before. -/
theorem Diagram.IsPlain.prepare {g : Goal} {b : Budget} (hb : g.budget = some b)
    (hterms : g.mustInclude = []) {d : Diagram} (h : d.IsPlain) :
    (Engine.prepare g d).nodes.length ≤ b.maxNodes ∧
      (Engine.prepare g d).missingEnds.length ≤ d.missingEnds.length := by
  rcases Engine.exists_prepare_eq hb d with ⟨turned, heq, -, hnodes, hedges⟩
  rw [heq, hterms]
  constructor
  · have hlength := b.length_nodes_enforce_le [] turned
    rw [(h.congr hnodes hedges).countP_isProtected] at hlength
    omega
  · rw [← Diagram.missingEnds_congr hnodes hedges]
    exact (List.subperm_of_subset (Diagram.nodup_missingEnds _)
      (b.missingEnds_enforce_subset [] turned)).length_le

/-- A candidate that descends from plain diagrams extends no further than its
    budget and the missing ends of one of them, and without an arity repair it is
    within the budget. -/
theorem IsCandidate.extent_le {g : Goal} {b : Budget} (hb : g.budget = some b)
    (hterms : g.mustInclude = []) {sources : List Diagram} (hplain : ∀ d ∈ sources, d.IsPlain)
    {kinds : List RepairKind} {c : Diagram} (h : IsCandidate g sources kinds c) :
    (∃ d ∈ sources, c.extent ≤ b.maxNodes + d.missingEnds.length) ∧
      (.arity ∉ kinds → c.nodes.length ≤ b.maxNodes) := by
  induction h with
  | @prepared d hd =>
    rcases (hplain d hd).prepare hb hterms with ⟨hnodes, hmissing⟩
    exact ⟨⟨d, hd, Nat.add_le_add hnodes hmissing⟩, fun _ => hnodes⟩
  | @repaired k c hk _ ih =>
    -- It is the extent that repairs keep, since the arity repair adds nodes.
    rcases ih with ⟨⟨d, hd, hextent⟩, hwithin⟩
    refine ⟨⟨d, hd, (k.extent_apply_le c).trans hextent⟩, fun hnone => ?_⟩
    have hother : k ≠ .arity := fun heq => hnone (heq ▸ hk)
    exact (RepairKind.length_nodes_apply_le hother c).trans (hwithin hnone)

namespace Engine

variable {σ : Type} (e : Engine σ)

/-! ### From a candidate to a build -/

/-- The result of a build on a focus is the canonical form of a candidate that
    descends from the answers by the repairs that were taken. -/
theorem exists_candidate_focused {source : Text} {f : Focus} {split : Partition.Options} {world : σ}
    {s : Success} (h : (e.focused source f split world).1 = .ok s) :
    ∃ c, IsCandidate (e.focusGoal source f) (e.focused source f split world).2.answers
      (e.focused source f split world).2.taken c ∧ s.diagram = e.canonical c := by
  rw [focused_eq] at h
  rcases e.exists_of_conclude h with ⟨solved, hsolved, rfl⟩
  exact (e.yields_solve (.outline (e.focusRequest source f)) (e.focusGoal source f) world).2
    solved hsolved

/-- In a build on a focus, all diagrams that are printed, that the generator is
    asked to refine or expand, or that come out in the end have no more edges
    than they may and flow the way that was asked for. So have all candidates, and
    all that any repair makes of them. -/
theorem keepsTo_focused (source : Text) (f : Focus) (split : Partition.Options) (world : σ) :
    (∀ event ∈ (e.focused source f split world).2.log, ∀ d ∈ event.diagrams,
      d.KeepsTo (f.budget e.settings.sizes) (f.direction.getD .down)) ∧
    (∀ s, (e.focused source f split world).1 = .ok s →
      s.diagram.KeepsTo (f.budget e.settings.sizes) (f.direction.getD .down)) ∧
    ∀ n c p, e.rounds (e.focusGoal source f) n (e.opening (.outline (e.focusRequest source f))
        (e.focusGoal source f) world) = .again c p →
      c.KeepsTo (f.budget e.settings.sizes) (f.direction.getD .down) ∧
      ∀ k : RepairKind, (e.canonical (k.apply c)).KeepsTo (f.budget e.settings.sizes)
        (f.direction.getD .down) := by
  have hb : (e.focusGoal source f).budget = some (f.budget e.settings.sizes) := rfl
  have hyields := e.yields_solve (.outline (e.focusRequest source f)) (e.focusGoal source f) world
  refine ⟨fun event hevent d hd => ?_, fun s hs => ?_, fun n c p hrounds => ?_⟩
  · rcases hyields.1.shown event hevent d hd with ⟨c, hc, rfl⟩
    exact (hc.keepsTo hb).canonical _
  · rcases e.exists_candidate_focused hs with ⟨c, hc, hform⟩
    rw [hform]
    exact (hc.keepsTo hb).canonical _
  · have hc := (e.isCandidate_rounds hrounds).keepsTo hb
    exact ⟨hc, fun k => (hc.apply k).canonical _⟩

/-- In a build on a focus that names no terms, and whose generator answers with
    plain diagrams only, the result has no more nodes than it may. The only
    exception is that an arity repair was taken, and then the excess is at most
    the number of ids that edges of one answer end at and none of its nodes has. -/
theorem length_nodes_focused_le (source : Text) (f : Focus) (split : Partition.Options) (world : σ)
    (hterms : f.mustInclude = [])
    (hplain : ∀ d ∈ (e.focused source f split world).2.answers, d.IsPlain) {s : Success}
    (hs : (e.focused source f split world).1 = .ok s) :
    s.diagram.nodes.length ≤ (f.budget e.settings.sizes).maxNodes ∨
      .arity ∈ (e.focused source f split world).2.taken ∧
      ∃ d ∈ (e.focused source f split world).2.answers,
        s.diagram.nodes.length ≤ (f.budget e.settings.sizes).maxNodes + d.missingEnds.length := by
  have hb : (e.focusGoal source f).budget = some (f.budget e.settings.sizes) := rfl
  rcases e.exists_candidate_focused hs with ⟨c, hc, hform⟩
  have hcanonical : s.diagram.nodes.length ≤ c.nodes.length := by
    rw [hform]
    exact Diagram.length_nodes_canonical_le _ c
  rcases hc.extent_le hb hterms hplain with ⟨⟨d, hd, hextent⟩, hwithin⟩
  -- Only an arity repair adds nodes, and it adds one for each missing end.
  by_cases harity : .arity ∈ (e.focused source f split world).2.taken
  · have hnodes : c.nodes.length ≤ c.extent := Nat.le_add_right _ _
    exact Or.inr ⟨harity, d, hd, hcanonical.trans (hnodes.trans hextent)⟩
  · exact Or.inl (hcanonical.trans (hwithin harity))

end Engine

/-! ### A ceiling that gives way -/

namespace Diagram

/-- A node with an edge to an id that no node has. -/
def dangling : Diagram :=
  { single "a".toList "A".toList with edges := [{ source := "a".toList, target := "b".toList }] }

/-- The same with a node of that id. -/
def mended : Diagram := { dangling with nodes := dangling.nodes ++ [placeholder "b".toList] }

theorem canonical_mended : mended.canonical .strict = mended := by
  have hsorted : (mended.mergedNodes .strict).Pairwise (Node.precedes · ·) := by decide +kernel
  rw [canonical_eq_of_pairwise hsorted]
  decide +kernel

end Diagram

namespace Engine

open Diagram

/-- How a generator answers with the dangling edge. -/
def danglingReply : Text :=
  ("\x7b\"nodes\":[\x7b\"id\":\"a\",\"label\":\"A\"\x7d]," ++
    "\"edges\":[\x7b\"from\":\"a\",\"to\":\"b\"\x7d]\x7d").toList

/-- An engine whose generator has this one answer and whose validator rejects the
    first text that it is shown. -/
def grudging : Engine Bool where
  ask _ world := (some (.ok ⟨danglingReply, none⟩), world)
  validate _ world := (some (if world then .ok () else .error ⟨"no".toList, none⟩), true)
  isCancelled _ := false
  remembers := false
  record _ world := world
  recent _ world := ([], world)

/-- A focus on a diagram of one node. -/
def narrow : Focus := { maxNodes := some 1, maxEdges := some 1 }

/-- The outline is made fit for the focus as it is. -/
theorem opening_grudging (source : Text) :
    ∃ log, grudging.opening (.outline (grudging.focusRequest source narrow))
        (grudging.focusGoal source narrow) false = .again dangling { world := false, log } ∧
      log.filterMap Event.answer? = [dangling] := by
  have hread : Completion.read danglingReply = .ok dangling := by decide +kernel
  have hfit : Budget.enforce ⟨1, 1⟩ [] dangling = dangling := by decide +kernel
  have hprepare : prepare (grudging.focusGoal source narrow) dangling = dangling := hfit
  -- The first call is answered, and nothing cancels the build.
  have hconsult : grudging.consult (.outline (grudging.focusRequest source narrow)) { world := false }
      = ((Completion.read danglingReply).mapError .oracle,
        { world := false
          log := [.asked (.outline (grudging.focusRequest source narrow))
            (some (.ok ⟨danglingReply, none⟩))] }) := rfl
  rw [hread] at hconsult
  refine ⟨[.asked (.outline (grudging.focusRequest source narrow))
    (some (.ok ⟨danglingReply, none⟩))], ?_, ?_⟩
  · unfold opening
    dsimp only
    rw [hconsult]
    exact congrArg (Round.again · _) hprepare
  · rw [List.filterMap_cons_some (b := dangling)]
    · rfl
    · rw [Event.answer?, hread]
      rfl

/-- The token repair leads to the same text, so the arity repair is taken. -/
theorem nextRepair?_dangling {kinds : List RepairKind} {p : Progress Bool}
    (hkinds : RepairKind.order.filter kinds.contains = RepairKind.order) (hrepairs : p.repairs = 0)
    (hseen : p.seen = [grudging.print (grudging.canonical dangling)]) :
    grudging.nextRepair? kinds dangling p = some (.arity, mended) := by
  have hmended : dangling.fixArity = mended := canonical_mended
  have hform : grudging.canonical mended = mended := canonical_mended
  have htried : RepairKind.order.map (fun k => (k, k.apply dangling))
      = [(.token, dangling.fixTokens), (.arity, mended), (.block, dangling.fixBlocks)] := by
    rw [← hmended]
    rfl
  unfold nextRepair?
  -- Without the edge there is the text that has been printed, and with it another.
  rw [hrepairs, if_neg (by decide), hkinds, htried, hseen,
    List.find?_cons_of_neg (by decide +kernel), List.find?_cons_of_pos]
  dsimp only
  rw [hform]
  decide +kernel

/-- The text without the edge is rejected, and any repair may help. -/
theorem round_dangling (g : Goal) (log : List Event) :
    ∃ p, grudging.round g dangling { world := false, log } = .again mended p ∧ p.world = true ∧
      p.pendingFix = none ∧ p.answers = log.filterMap Event.answer? := by
  have hlint : (Lint.lint (grudging.print (grudging.canonical dangling))).ok = true := by
    decide +kernel
  refine ⟨_, grudging.round_of_rejected hlint rfl (nextRepair?_dangling ?_ rfl rfl), rfl, rfl, ?_⟩
  · decide +kernel
  · simp [Progress.answers, blameRejection, Progress.happen, present, Event.answer?]

/-- The text with the edge is accepted, and there is no room to grow. -/
theorem round_mended (source : Text) {p : Progress Bool} (hworld : p.world = true)
    (hfix : p.pendingFix = none) :
    ∃ r, grudging.round (grudging.focusGoal source narrow) mended p = .ended r ∧
      r.2.answers = p.answers ∧ ∃ s, r.1 = .ok s ∧ s.diagram = mended := by
  have hform : grudging.canonical mended = mended := canonical_mended
  have hlint : (Lint.lint (grudging.print (grudging.canonical mended))).ok = true := by
    rw [hform]
    decide +kernel
  have hverdict : (if (grudging.present mended p).world then .ok () else
      .error ⟨"no".toList, none⟩ : Except Objection Unit) = .ok () := if_pos hworld
  have hsubmit : grudging.submit (grudging.print (grudging.canonical mended))
      (grudging.present mended p) = (some (.ok ()),
        { grudging.present mended p with world := true }.happen
          (.validated (grudging.print (grudging.canonical mended)) (some (.ok ())))) := by
    rw [← hverdict]
    rfl
  refine ⟨_, grudging.round_of_accepted hlint hsubmit ?_, ?_, _, rfl, hform⟩
  · rw [hform]
    rfl
  · simp [Progress.answers, Progress.happen, Progress.succeed, settleFix, present, Event.answer?,
      hfix]

/-- So the build ends with the mended edge. -/
theorem focused_grudging (source : Text) (split : Partition.Options) :
    (grudging.focused source narrow split false).2.answers = [dangling] ∧
      ∃ s, (grudging.focused source narrow split false).1 = .ok s ∧ s.diagram = mended := by
  rcases opening_grudging source with ⟨log, hopening, hanswers⟩
  rcases round_dangling (grudging.focusGoal source narrow) log with
    ⟨p, hfirst, hworld, hfix, hkept⟩
  rcases round_mended source hworld hfix with ⟨r, hsecond, hsame, s, hs, hdiagram⟩
  -- The first round mends the edge, and the second one ends the build.
  have hrounds : (grudging.rounds (grudging.focusGoal source narrow) 2 (grudging.opening
      (.outline (grudging.focusRequest source narrow)) (grudging.focusGoal source narrow)
      false)).Holds (fun _ => False) (· = r) := by
    rw [hopening, rounds, hfirst, rounds, hsecond]
    rfl
  have hsolve := grudging.solve_of_rounds hrounds
  rw [focused_eq, hsolve]
  refine ⟨hsame.trans (hkept.trans hanswers), grudging.finish split s, ?_, hdiagram⟩
  rw [conclude, hs]
  rfl

/-- The one answer is plain, and no term is named. -/
theorem isPlain_grudging (source : Text) (split : Partition.Options) :
    ∀ d ∈ (grudging.focused source narrow split false).2.answers, d.IsPlain := by
  intro d hd
  rw [(focused_grudging source split).1, List.mem_singleton] at hd
  rw [hd]
  decide +kernel

/-- With room for one node, the bound allows for the one that is made up. -/
theorem length_nodes_focused_le_grudging :
    narrow.mustInclude = [] ∧
      (∀ d ∈ (grudging.focused "a to b".toList narrow {} false).2.answers, d.IsPlain) ∧
      ∃ s, (grudging.focused "a to b".toList narrow {} false).1 = .ok s ∧
        (s.diagram.nodes.length ≤ 1 ∨
          .arity ∈ (grudging.focused "a to b".toList narrow {} false).2.taken ∧
          ∃ d ∈ (grudging.focused "a to b".toList narrow {} false).2.answers,
            s.diagram.nodes.length ≤ 1 + d.missingEnds.length) := by
  have hplain := isPlain_grudging "a to b".toList {}
  rcases (focused_grudging "a to b".toList {}).2 with ⟨s, hs, -⟩
  exact ⟨rfl, hplain, s, hs, grudging.length_nodes_focused_le _ narrow {} false rfl hplain hs⟩

/-- Nobody cancels the build, it names no terms and its answers are plain, and it
    ends with more nodes than it may. -/
theorem maxNodes_lt_length_nodes_focused :
    (∀ world, grudging.isCancelled world = false) ∧ narrow.mustInclude = [] ∧
      (∀ d ∈ (grudging.focused "a to b".toList narrow {} false).2.answers, d.IsPlain) ∧
      ∃ s, (grudging.focused "a to b".toList narrow {} false).1 = .ok s ∧
        (narrow.budget grudging.settings.sizes).maxNodes < s.diagram.nodes.length := by
  refine ⟨fun _ => rfl, rfl, isPlain_grudging _ _, ?_⟩
  rcases (focused_grudging "a to b".toList {}).2 with ⟨s, hs, hdiagram⟩
  refine ⟨s, hs, ?_⟩
  rw [hdiagram]
  decide +kernel

end Engine

end Flowchart
