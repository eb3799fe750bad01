import Flowchart.Proofs.Ceiling

/-!
# What Repairs Retain

A repair may rename nodes, merge those that then have one name, drop edges that
say the same, dissolve blocks and clean labels. It never loses a node or a
connection. What it does to ids is what canonical form does to them, so a
diagram is measured here by the names that its nodes get and by the pairs of
names that its edges then connect. Canonical form changes neither, whatever the
policy is: an edge that it drops ended nowhere or has the same ends as one that
it keeps.

So it does not matter that repairs clean strictly while the build may not, nor
in which order a validator provokes them. A candidate that descends from a
diagram by repairs has all of its names and links, and if the generator was
never asked then every candidate descends from the diagram that was given.

## Main definitions

* `Diagram.names`: The names of the nodes of a diagram.
* `Diagram.links`: The pairs of nodes that its edges connect.
* `Diagram.Covers`: One diagram has all the names and links of another.
* `Ledger.IsUnaided`: Without an iteration, the generator was not asked.

## Theorems

* `Diagram.mem_names_canonical`, `Diagram.mem_links_canonical`: Canonical form
  keeps names and links.
* `RepairKind.covers_apply`: So does every repair.
* `IsCandidate.covers`: So do any number of repairs.
* `Engine.answers_of_iterations_eq_zero`: A result without iterations owes
  nothing to the generator.
* `Engine.retains_fromSpec`: Such a result has all the nodes and connections of
  the diagram that was given.
-/

namespace Flowchart

open Identifier

/-- A name made into a name is itself. -/
theorem Identifier.ofText_ofText (t : Text) : ofText (ofText t) = ofText t :=
  ofText_of_isName (isName_ofText t)

namespace Diagram

/-! ### Names and links -/

/-- The names that the nodes of a diagram get. -/
def names (d : Diagram) : List Text := d.nodes.map fun n => ofText n.id

/-- The names that the edges of a diagram connect, where both ends exist. -/
def links (d : Diagram) : List (Text × Text) :=
  (d.edges.map fun e => (ofText e.source, ofText e.target)).filter
    fun l => d.names.contains l.1 && d.names.contains l.2

/-- One diagram has all the names and links of another. -/
structure Covers (c d : Diagram) : Prop where
  names : d.names ⊆ c.names
  links : d.links ⊆ c.links

theorem Covers.refl (d : Diagram) : d.Covers d := ⟨List.Subset.refl _, List.Subset.refl _⟩

theorem Covers.trans {b c d : Diagram} (hbc : b.Covers c) (hcd : c.Covers d) : b.Covers d :=
  ⟨List.Subset.trans hcd.names hbc.names, List.Subset.trans hcd.links hbc.links⟩

theorem mem_links {d : Diagram} {l : Text × Text} :
    l ∈ d.links ↔
      (∃ e ∈ d.edges, (ofText e.source, ofText e.target) = l) ∧
        l.1 ∈ d.names ∧ l.2 ∈ d.names := by
  rw [links, List.mem_filter, List.mem_map, Bool.and_eq_true, List.contains_iff_mem,
    List.contains_iff_mem]

/-- With the edges of another diagram and all of its names, a diagram has all of
    its links. -/
theorem covers_of_edges_eq {c d : Diagram} (hnames : d.names ⊆ c.names)
    (hedges : c.edges = d.edges) : c.Covers d := by
  refine ⟨hnames, fun l hl => ?_⟩
  rw [mem_links] at hl ⊢
  rw [hedges]
  exact ⟨hl.1, hnames hl.2.1, hnames hl.2.2⟩

/-! ### Canonical form -/

/-- The ids of a canonical diagram are its names. -/
theorem mem_names_canonical {p : LabelPolicy} {d : Diagram} {id : Text} :
    id ∈ (d.canonical p).names ↔ id ∈ d.names := by
  have hids : ∀ id, (∃ n ∈ (d.canonical p).nodes, n.id = id) ↔ ∃ n ∈ d.nodes, ofText n.id = id := by
    intro id
    rw [← hasNode_canonical_iff (p := p), hasNode_iff, List.mem_map]
  rw [names, names, List.mem_map, List.mem_map]
  constructor
  · rintro ⟨n, hn, rfl⟩
    rcases (hids n.id).1 ⟨n, hn, rfl⟩ with ⟨m, hm, hid⟩
    exact ⟨m, hm, by rw [← hid, ofText_ofText]⟩
  · rintro ⟨n, hn, rfl⟩
    rcases (hids _).2 ⟨n, hn, rfl⟩ with ⟨m, hm, hid⟩
    exact ⟨m, hm, by rw [hid, ofText_ofText]⟩

theorem mem_names_iff_hasNode {p : LabelPolicy} {d : Diagram} {id : Text} :
    (d.canonical p).hasNode id = true ↔ id ∈ d.names := by
  rw [hasNode_canonical_iff, names, List.mem_map]

/-- An edge of a canonical diagram connects its ends, and every link comes of
    such an edge. -/
theorem mem_links_iff_edge {p : LabelPolicy} {d : Diagram} {s t : Text} :
    (∃ e ∈ (d.canonical p).edges, e.source = s ∧ e.target = t) ↔ (s, t) ∈ d.links := by
  rw [mem_links, edges_canonical]
  constructor
  · rintro ⟨e, he, rfl, rfl⟩
    have hkept := List.mem_filter.1 (mem_of_mem_firsts he)
    rw [Bool.and_eq_true, mem_names_iff_hasNode, mem_names_iff_hasNode] at hkept
    rcases List.mem_map.1 hkept.1 with ⟨f, hf, rfl⟩
    exact ⟨⟨f, hf, rfl⟩, hkept.2⟩
  · rintro ⟨⟨e, he, hends⟩, hs, ht⟩
    have hsource : ofText e.source = s := congrArg Prod.fst hends
    have htarget : ofText e.target = t := congrArg Prod.snd hends
    have hkept : e.canonical ∈ (d.edges.map Edge.canonical).filter fun e =>
        (d.canonical p).hasNode e.source && (d.canonical p).hasNode e.target := by
      rw [List.mem_filter, Bool.and_eq_true, mem_names_iff_hasNode, mem_names_iff_hasNode]
      rw [← hsource] at hs
      rw [← htarget] at ht
      exact ⟨List.mem_map_of_mem he, hs, ht⟩
    -- The edge itself may have been dropped for an earlier one with the same signature.
    rcases List.mem_map.1 (mem_map_firsts.2 (List.mem_map_of_mem (f := Edge.signature) hkept))
      with ⟨f, hf, hsignature⟩
    refine ⟨f, hf, ?_, ?_⟩
    · exact (congrArg Prod.fst hsignature).trans hsource
    · exact (congrArg (fun x => x.2.1) hsignature).trans htarget

/-- Canonical form keeps the links. -/
theorem mem_links_canonical {p : LabelPolicy} {d : Diagram} {l : Text × Text} :
    l ∈ (d.canonical p).links ↔ l ∈ d.links := by
  rcases l with ⟨s, t⟩
  rw [mem_links, mem_names_canonical, mem_names_canonical, ← mem_links_iff_edge (p := p)]
  constructor
  · rintro ⟨⟨e, he, hends⟩, -⟩
    -- The ends of a canonical edge are names, so they stay what they are.
    have hcanonical := (isCanonical_canonical p d).edges e he
    rw [ofText_of_isName hcanonical.source.1, ofText_of_isName hcanonical.target.1,
      Prod.mk.injEq] at hends
    exact ⟨e, he, hends⟩
  · rintro ⟨e, he, rfl, rfl⟩
    have hcanonical := (isCanonical_canonical p d).edges e he
    refine ⟨⟨e, he, ?_⟩, mem_names_iff_hasNode.1 hcanonical.source.2,
      mem_names_iff_hasNode.1 hcanonical.target.2⟩
    rw [ofText_of_isName hcanonical.source.1, ofText_of_isName hcanonical.target.1]

/-- Canonical form covers what it is made from. -/
theorem covers_canonical (p : LabelPolicy) (d : Diagram) : (d.canonical p).Covers d :=
  ⟨fun _ => mem_names_canonical.2, fun _ => mem_links_canonical.2⟩

end Diagram

/-! ### Repairs -/

/-- No repair loses a name or a link. -/
theorem RepairKind.covers_apply (k : RepairKind) (d : Diagram) : (k.apply d).Covers d := by
  cases k with
  | token => exact Diagram.covers_canonical .strict d
  | arity =>
    refine (Diagram.covers_canonical .strict _).trans (Diagram.covers_of_edges_eq ?_ rfl)
    -- Nodes are only added.
    rw [Diagram.names, Diagram.names, List.map_append]
    exact List.subset_append_left _ _
  | block =>
    refine (Diagram.covers_canonical .strict _).trans ?_
    split
    · exact Diagram.covers_of_edges_eq (List.Subset.refl _) rfl
    · split
      · -- A node that leaves its group keeps its id.
        refine Diagram.covers_of_edges_eq (fun id hid => ?_) rfl
        rcases List.mem_map.1 hid with ⟨n, hn, rfl⟩
        refine List.mem_map.2 ⟨_, List.mem_map_of_mem hn, ?_⟩
        split <;> rfl
      · exact Diagram.Covers.refl d

/-- Where nothing is gathered or pruned, a diagram that is made fit is only
    turned. -/
theorem Engine.covers_prepare (direction : Direction) (d : Diagram) :
    (prepare { direction } d).Covers d :=
  Diagram.covers_of_edges_eq (List.Subset.refl _) rfl

/-- A candidate that descends from a single diagram has all of its names and
    links. -/
theorem IsCandidate.covers {direction : Direction} {d : Diagram} {kinds : List RepairKind}
    {c : Diagram} (h : IsCandidate { direction } [d] kinds c) : c.Covers d := by
  induction h with
  | prepared hd =>
    rw [List.mem_singleton.1 hd]
    exact Engine.covers_prepare direction d
  | repaired _ _ ih => exact (RepairKind.covers_apply _ _).trans ih

/-! ### Builds without the generator -/

/-- Every call so far was one of an iteration, so without an iteration the
    generator was not asked. -/
def Ledger.IsUnaided (l : Ledger) : Prop := l.calls ≤ l.iterations

/-- The generator was not asked for its first outline, and if there is a result
    then it has counted the iterations. -/
def Ended.IsUnaided {σ : Type} (r : Ended σ) : Prop :=
  r.2.ledger.IsUnaided ∧ ∀ s, r.1 = .ok s → s.iterations = r.2.iterations

/-- Who was not asked has not answered. -/
theorem Progress.answers_of_calls_eq_zero {σ : Type} {p : Progress σ}
    (h : p.ledger.calls = 0) : p.answers = [] := by
  have hcalls : ∀ event ∈ p.log, ¬ event.isCall = true := List.countP_eq_zero.1 h
  refine List.filterMap_eq_nil_iff.2 fun event hevent => ?_
  have hcall := hcalls event hevent
  cases event with
  | asked r reply => exact absurd rfl hcall
  | printed | validated | repaired | recorded => rfl

namespace Engine

variable {σ : Type} (e : Engine σ)

section Ends

variable {p : Progress σ}

theorem isUnaided_succeed (h : p.ledger.IsUnaided) (d : Diagram) :
    Ended.IsUnaided (p.succeed d) := by
  refine ⟨h, fun s hs => ?_⟩
  rw [Progress.succeed, Except.ok.injEq] at hs
  rw [← hs]
  rfl

theorem isUnaided_fail (h : p.ledger.IsUnaided) (err : BuildError) :
    Ended.IsUnaided (p.fail err) :=
  ⟨h, fun _ hs => absurd hs (by simp only [Progress.fail, reduceCtorEq, not_false_eq_true])⟩

theorem isUnaided_stop (h : p.ledger.IsUnaided) (err : BuildError) :
    Ended.IsUnaided (p.stop err) := by
  have hblamed : ∀ r, (p.blame r).ledger.IsUnaided := fun _ => h
  exact Progress.stop_cases (fun _ d _ _ => isUnaided_succeed (hblamed _) d)
    (fun _ _ _ => isUnaided_fail (hblamed _) err) fun _ => isUnaided_fail h err

theorem isUnaided_exhausted (h : p.ledger.IsUnaided) : Ended.IsUnaided p.exhausted :=
  Progress.exhausted_cases (fun d _ => isUnaided_succeed h d) fun _ => isUnaided_fail h _

end Ends

variable {e}

/-- A request to refine or expand is at most one call, and one iteration. -/
theorem holds_askAgain_unaided {g : Goal} {r : Request} {p : Progress σ}
    (h : p.ledger.IsUnaided) :
    (e.askAgain g r p).Holds (fun q => q.ledger.IsUnaided) Ended.IsUnaided := by
  -- The iteration is counted whether or not the generator is asked in the end.
  have hafter : ∀ {x q}, e.consult r { p with iterations := p.iterations + 1 } = (x, q) →
      q.ledger.IsUnaided := by
    intro x q hconsult
    have hbefore : p.ledger.calls ≤ p.ledger.iterations := h
    rcases e.consult_ledger hconsult with ⟨-, hledger⟩ | ⟨reply, hledger⟩
    · rw [hledger]
      exact Nat.le_succ_of_le hbefore
    · rw [hledger]
      exact Nat.succ_le_succ hbefore
  refine e.askAgain_cases (fun d q hconsult => ?_) fun err q hconsult => ?_
  · have hq := hafter hconsult
    exact hq
  · exact isUnaided_stop (hafter hconsult) err

theorem isUnaided_submit {t : Text} {p q : Progress σ} {v : Verdict} (h : p.ledger.IsUnaided)
    (hsubmit : e.submit t p = (v, q)) : q.ledger.IsUnaided := by
  rcases e.submit_ledger hsubmit with ⟨-, hledger⟩ | hledger
  · rw [hledger]
    exact h
  · rw [hledger]
    exact h

/-- A round asks the generator only by an iteration. -/
theorem holds_round_unaided {g : Goal} (c : Diagram) (p : Progress σ) (h : p.ledger.IsUnaided) :
    (e.round g c p).Holds (fun q => q.ledger.IsUnaided) Ended.IsUnaided := by
  have hpresent : (e.present c p).ledger.IsUnaided := by
    rw [ledger_present]
    exact h
  have hrepair : ∀ {k c'} {q : Progress σ}, q.ledger.IsUnaided →
      (takeRepair k c' q).Holds (fun q => q.ledger.IsUnaided) Ended.IsUnaided := by
    intro k c' q hq
    rw [takeRepair, Round.Holds, ledger_repaired]
    exact hq
  refine e.round_cases (fun k c' _ _ => hrepair hpresent) (fun q hq => ?_) (fun r q hq => ?_)
    fun q hq => ?_
  · -- Accepting and rejecting ask nobody by themselves.
    have hsettled : (e.settleFix (e.print (e.canonical c)) q).ledger.IsUnaided := by
      rw [ledger_settleFix]
      exact isUnaided_submit hpresent hq
    refine e.accept_cases (fun _ => isUnaided_succeed ?_ _) fun excerpt target _ => ?_
    · exact hsettled
    · exact holds_askAgain_unaided hsettled
  · have hsubmitted : q.ledger.IsUnaided := isUnaided_submit hpresent hq
    have hblamed : (blameRejection r (Lint.lint (e.print (e.canonical c))) q).ledger.IsUnaided :=
      hsubmitted
    refine e.reject_cases (fun k c' _ => hrepair hblamed) (fun examples q' hexamples _ => ?_)
      fun _ => isUnaided_exhausted hblamed
    refine holds_askAgain_unaided ?_
    rw [e.examples_ledger hexamples]
    exact hblamed
  · exact isUnaided_stop (isUnaided_submit hpresent hq) .cancelled

/-- A build from a diagram asks the generator only by its iterations. -/
theorem isUnaided_solve_diagram (d : Diagram) (g : Goal) (world : σ) :
    Ended.IsUnaided (e.solve (.diagram d) g world) :=
  e.examine_induction holds_round_unaided _ (Nat.le_refl 0)

/-- If a build from a diagram comes to a result without an iteration, then the
    generator has answered nothing. -/
theorem answers_of_iterations_eq_zero {d : Diagram} {g : Goal} {world : σ} {s : Solved}
    (h : (e.solve (.diagram d) g world).1 = .ok s) (hiterations : s.iterations = 0) :
    (e.solve (.diagram d) g world).2.answers = [] := by
  rcases isUnaided_solve_diagram (e := e) d g world with ⟨hunaided, hcount⟩
  have hle : (e.solve (.diagram d) g world).2.ledger.calls ≤ 0 := by
    rw [← hiterations, hcount s h]
    exact hunaided
  exact Progress.answers_of_calls_eq_zero (Nat.le_zero.1 hle)

/-- So its result covers the diagram that was given. -/
theorem covers_solve {d : Diagram} {direction : Direction} {world : σ} {s : Solved}
    (h : (e.solve (.diagram d) { direction } world).1 = .ok s) (hiterations : s.iterations = 0) :
    s.diagram.Covers d := by
  rcases (yields_solve e (.diagram d) { direction } world).2 s h with ⟨c, hc, hform⟩
  rw [Progress.Reaches, answers_of_iterations_eq_zero h hiterations, List.append_nil] at hc
  rw [hform]
  exact (Diagram.covers_canonical _ c).trans hc.covers

/-- A build from a specification that is a diagram, which comes to a result
    without an iteration, has lost no node and no connection of that diagram. This
    holds however often and in whichever order the validator provoked repairs. -/
theorem retains_fromSpec {spec : Text} {d : Diagram} {direction : Direction}
    {split : Partition.Options} {world : σ} {s : Success} (hd : Diagram.parse? spec = .ok d)
    (h : (e.fromSpec spec direction split world).1 = .ok s) (hiterations : s.iterations = 0) :
    (∀ id, (d.canonical e.settings.limits.policy).hasNode id = true →
      s.diagram.hasNode id = true) ∧
    ∀ x ∈ (d.canonical e.settings.limits.policy).edges,
      ∃ y ∈ s.diagram.edges, y.source = x.source ∧ y.target = x.target := by
  by_cases hnodes : d.nodes = []
  · -- Without a node there is nothing to be lost.
    have hnames : d.names = [] := by rw [Diagram.names, hnodes, List.map_nil]
    refine ⟨fun id hid => ?_, fun x hx => ?_⟩
    · rw [Diagram.mem_names_iff_hasNode, hnames] at hid
      exact absurd hid List.not_mem_nil
    · have hlink := Diagram.mem_links_iff_edge.1 ⟨x, hx, rfl, rfl⟩
      rw [Diagram.mem_links, hnames] at hlink
      exact absurd hlink.2.1 List.not_mem_nil
  · rw [e.fromSpec_of_diagram hd hnodes] at h
    rcases e.exists_of_conclude h with ⟨solved, hsolved, hfinish⟩
    rw [hfinish] at hiterations ⊢
    have hcovers := covers_solve hsolved hiterations
    -- The result is the canonical form of a candidate, so its ids are names.
    rcases (yields_solve e (.diagram d) { direction } world).2 solved hsolved with ⟨c, -, hform⟩
    have hresult : (e.finish split solved).diagram = e.canonical c := hform
    rw [hform] at hcovers
    rw [hresult]
    refine ⟨fun id hid => ?_, fun x hx => ?_⟩
    · have hname := hcovers.names (Diagram.mem_names_iff_hasNode.1 hid)
      exact Diagram.mem_names_iff_hasNode.2 (Diagram.mem_names_canonical.1 hname)
    · have hlink := hcovers.links (Diagram.mem_links_iff_edge.1 ⟨x, hx, rfl, rfl⟩)
      exact Diagram.mem_links_iff_edge.2 (Diagram.mem_links_canonical.1 hlink)

/-- A specification of one node in a group, with an edge to itself. -/
def grouped : Text :=
  ("\x7b\"nodes\":[\x7b\"id\":\"a\",\"label\":\"b\",\"group\":\"g\"\x7d]," ++
    "\"edges\":[\x7b\"from\":\"a\",\"to\":\"a\"\x7d]\x7d").toList

/-- The first text is rejected and the group is dissolved, without a request. The
    node and its edge are still there. -/
theorem retains_fromSpec_grouped :
    ∃ d s, Diagram.parse? grouped = .ok d ∧
      (grudging.fromSpec grouped .down {} false).1 = .ok s ∧ s.iterations = 0 ∧
      s.reasons.codes = [.other] ∧ s.diagram.hasNode "a".toList = true ∧
      ∃ y ∈ s.diagram.edges, y.source = "a".toList ∧ y.target = "a".toList := by
  let d : Diagram :=
    { nodes := [{ id := "a".toList, label := "b".toList, group := some "g".toList }]
      edges := [{ source := "a".toList, target := "a".toList }] }
  have hd : Diagram.parse? grouped = .ok d := by decide +kernel
  have hrounds : (grudging.rounds { direction := .down } 2
      (grudging.opening (.diagram d) { direction := .down } false)).Holds (fun _ => False)
      fun r => r.1.toOption.map (fun s => (s.iterations, s.reasons.codes)) = some (0, [.other]) := by
    decide +kernel
  have hended := grudging.solve_of_rounds hrounds
  rcases hresult : (grudging.solve (.diagram d) { direction := .down } false).1 with f | solved
  · rw [hresult] at hended
    exact absurd hended (by simp only [Except.toOption, Option.map_none, reduceCtorEq,
      not_false_eq_true])
  · rw [hresult] at hended
    rcases Prod.mk.inj (Option.some.inj hended) with ⟨hiterations, hreasons⟩
    have hs : (grudging.fromSpec grouped .down {} false).1 = .ok (grudging.finish {} solved) := by
      rw [grudging.fromSpec_of_diagram hd (List.cons_ne_nil _ _), conclude, hresult]
      rfl
    rcases retains_fromSpec hd hs hiterations with ⟨hnodes, hedges⟩
    refine ⟨d, _, hd, hs, hiterations, hreasons, hnodes _ (by decide +kernel), ?_⟩
    have hloop : ({ source := "a".toList, target := "a".toList } : Edge)
        ∈ (d.canonical .strict).edges := by
      decide +kernel
    exact hedges _ hloop

end Engine

end Flowchart
