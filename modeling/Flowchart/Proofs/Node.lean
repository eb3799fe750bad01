import Flowchart.Diagram.Canonical
import Flowchart.Proofs.Identifier
import Flowchart.Proofs.Label

/-!
# Canonical Nodes

What a node in canonical form is, and when bringing it into canonical form again
does nothing.

The form is a structure of its own and not "whatever `Node.canonical` returns":
the id is a name, every segment that is drawn is either clean or the id standing
in for a label of which nothing was left, the shape closes around all of them,
and so on for the other fields. Printing and the order of nodes need these facts
and nothing else about how they came about.

A node in this form may still change when it is brought into it again, for two
reasons. A text may hold an entity that a dropped angle bracket has brought
together, and an id that stands in for a label is never cut, so it may be longer
than a label may be. `canonical_eq_self_iff` says that there are no others.

## Main definitions

* `Node.IsCanonical`: A node in canonical form under a policy.
* `Node.texts`: The texts of a node that are drawn, and its group and bridge.

## Theorems

* `Node.isCanonical_canonical`: Every node is brought into canonical form.
* `Node.canonical_eq_self_iff`: What bringing a canonical node into canonical
  form still changes.
-/

namespace Flowchart

open Identifier Label

/-! ### Names as labels -/

namespace LabelRules

/-- What the strict rules leave in a label is left in by all. -/
theorem allows_of_strict (r : LabelRules) {c : Char} (h : strict.allows c = true) :
    r.allows c = true := by
  rw [allows, isPrintable_of_allows h, not_isAngle_of_allows (r := strict) rfl h,
    not_isQuote_of_allows (r := strict) rfl h, not_isBracket_of_allows (r := strict) rfl h]
  simp only [Bool.and_false, Bool.not_false, Bool.and_self]

/-- All rules leave the characters of words in a label. -/
theorem allows_of_isWordChar (r : LabelRules) {c : Char} (h : isWordChar c = true) :
    r.allows c = true :=
  r.allows_of_strict <| forall_ascii (P := fun c => isWordChar c = true → strict.allows c = true)
    (by decide +kernel) (isAsciiChar_of_isWordChar h) h

end LabelRules

namespace Identifier

theorem IsName.isWord {t : Text} (h : IsName t) : Text.IsWord t :=
  ⟨h.ne_nil, fun c hc => not_isBlank_of_isWordChar (h.isWordChar c hc)⟩

theorem IsName.not_hasEntity {t : Text} (h : IsName t) : ¬ Markup.HasEntity t := by
  rintro ⟨body, -, hin⟩
  have hmem : '&' ∈ t := hin.mem List.mem_cons_self
  exact absurd (h.isWordChar '&' hmem) (by decide)

/-- A name is only cut by cleaning. -/
theorem IsName.clean_eq {t : Text} (h : IsName t) (r : LabelRules) :
    clean r t = t.take r.maxLength := by
  have hscrub : scrub r t = t :=
    scrub_eq_self (fun c hc => r.allows_of_isWordChar (h.isWordChar c hc)) h.isWord.isSpaced
      fun _ => h.not_hasEntity
  rw [clean, hscrub, cut, Text.trimEnd, Text.dropEndWhile_eq_self fun c hc => ?_]
  exact h.isWord.2 c ((List.take_prefix _ _).mem (List.mem_of_mem_getLast? hc))

theorem IsName.clean_ne_nil {t : Text} (h : IsName t) {r : LabelRules} (hr : 0 < r.maxLength) :
    clean r t ≠ [] := by
  rw [h.clean_eq, Ne, List.take_eq_nil_iff, not_or]
  exact ⟨by omega, h.ne_nil⟩

end Identifier

/-! ### Safe shapes -/

namespace Shape

theorem isSafe_iff {segments : List Text} {s : Shape} :
    s.isSafe segments = true ↔ ∀ t ∈ segments, s.closer ∉ t := by
  simp [isSafe]

theorem safe?_of_isSafe {segments : List Text} {s : Shape} (h : s.isSafe segments = true) :
    s.safe? segments = some s := by
  rw [safe?, if_pos h]

theorem isSafe_of_safe? {segments : List Text} {s q : Shape} (h : s.safe? segments = some q) :
    q.isSafe segments = true := by
  unfold safe? at h
  split at h
  · rename_i hs
    rw [← Option.some.inj h]
    exact hs
  · exact List.find?_some (p := fun s : Shape => s.isSafe segments) h

theorem not_isWordChar_closer (s : Shape) : isWordChar s.closer = false := by
  cases s <;> decide

theorem closer_ne_space (s : Shape) : s.closer ≠ ' ' := by
  cases s <;> decide

/-- Every shape closes around a name. -/
theorem isSafe_singleton {t : Text} (h : IsName t) (s : Shape) : s.isSafe [t] = true := by
  refine isSafe_iff.2 fun u hu hc => ?_
  rw [List.mem_singleton.1 hu] at hc
  exact absurd (h.isWordChar _ hc) (by rw [not_isWordChar_closer]; decide)

end Shape

namespace Node

/-! ### The form -/

/-- A node in canonical form under a policy. -/
structure IsCanonical (p : LabelPolicy) (n : Node) : Prop where
  name : IsName n.id
  /-- What is drawn is clean, or the id instead of a label. -/
  drawn : n.segments = [n.id] ∨ ∀ t ∈ n.segments, IsClean (.ofPolicy p) t ∧ t ≠ []
  few : n.segments.length ≤ maxLabelLines
  safe : n.shape.isSafe n.segments = true
  label : n.segments.head? = some n.label
  lines : ∀ ls, n.labelLines = some ls → n.segments = ls
  weight : n.weight.normalized = n.weight
  group : ∀ g, n.group = some g → IsClean .strict g ∧ g ≠ []
  bridge : ∀ b, n.bridge = some b →
    b.targetLabel = n.id ∨ IsClean .strict b.targetLabel ∧ b.targetLabel ≠ []

/-- The texts of a node: what is drawn of it, its group and what its bridge
    leads to. -/
def texts (n : Node) : List Text :=
  n.segments ++ n.group.toList ++ n.bridge.toList.map Bridge.targetLabel

theorem segments_ne_nil (n : Node) : n.segments ≠ [] := by
  unfold segments
  split
  · exact List.cons_ne_nil _ _
  · exact List.cons_ne_nil _ _

/-- The texts of a canonical node are made of characters that its policy
    allows. -/
theorem IsCanonical.allows {p : LabelPolicy} {n : Node} (h : n.IsCanonical p) {t : Text}
    (ht : t ∈ n.texts) {c : Char} (hc : c ∈ t) : (LabelRules.ofPolicy p).allows c = true := by
  have hname : c ∈ n.id → (LabelRules.ofPolicy p).allows c = true := fun hc =>
    LabelRules.allows_of_isWordChar _ (h.name.isWordChar c hc)
  rw [texts, List.mem_append, List.mem_append] at ht
  rcases ht with (ht | ht) | ht
  · -- A label is clean, or it is the id, which is made of characters for words.
    rcases h.drawn with hid | hclean
    · rw [hid, List.mem_singleton] at ht
      exact hname (ht ▸ hc)
    · exact (hclean t ht).1.allowed c hc
  · have hgroup := h.group t (Option.mem_toList.1 ht)
    exact LabelRules.allows_of_strict _ (hgroup.1.allowed c hc)
  · rcases List.mem_map.1 ht with ⟨b, hb, rfl⟩
    rcases h.bridge b (Option.mem_toList.1 hb) with hid | ⟨hclean, -⟩
    · exact hname (hid ▸ hc)
    · exact LabelRules.allows_of_strict _ (hclean.allowed c hc)

theorem mem_texts_of_mem_segments {n : Node} {t : Text} (h : t ∈ n.segments) : t ∈ n.texts :=
  List.mem_append_left _ (List.mem_append_left _ h)

/-! ### Cleaned segments -/

theorem mem_cleanSegments {r : LabelRules} {ss : List Text} {t : Text}
    (h : t ∈ cleanSegments r ss) : t ≠ [] ∧ ∃ s ∈ ss, t = clean r s := by
  have hf := (List.take_sublist _ _).mem h
  rw [List.mem_filter, decide_eq_true_eq] at hf
  rcases List.mem_map.1 hf.1 with ⟨s, hs, rfl⟩
  exact ⟨hf.2, s, hs, rfl⟩

theorem length_cleanSegments_le (r : LabelRules) (ss : List Text) :
    (cleanSegments r ss).length ≤ maxLabelLines := List.length_take_le _ _

/-- Segments that cleaning leaves alone are their own cleaned segments. -/
theorem cleanSegments_eq_self {r : LabelRules} {ss : List Text}
    (h : ∀ t ∈ ss, clean r t = t ∧ t ≠ []) (hfew : ss.length ≤ maxLabelLines) :
    cleanSegments r ss = ss := by
  have hmap : ss.map (clean r) = ss := map_eq_self_iff.2 fun t ht => (h t ht).1
  rw [cleanSegments, hmap, List.filter_eq_self.2 fun t ht => decide_eq_true (h t ht).2,
    List.take_of_length_le hfew]

/-- If no segment is lost or changed, cleaning leaves each of them alone. -/
theorem clean_eq_self_of_cleanSegments {r : LabelRules} {ss : List Text}
    (h : cleanSegments r ss = ss) {t : Text} (ht : t ∈ ss) : clean r t = t := by
  -- No step drops a segment, as there are as many in the end as at the start.
  have hlen : ss.length ≤ ((ss.map (clean r)).filter (· ≠ [])).length := by
    calc ss.length = (cleanSegments r ss).length := by rw [h]
      _ ≤ ((ss.map (clean r)).filter (· ≠ [])).length := (List.take_sublist _ _).length_le
  have hfilter : (ss.map (clean r)).filter (· ≠ []) = ss.map (clean r) :=
    List.filter_sublist.eq_of_length_le (by rwa [List.length_map])
  have hmap : ss.map (clean r) = ss := by
    have htake : (ss.map (clean r)).take maxLabelLines = ss := by
      rwa [cleanSegments, hfilter] at h
    rw [List.take_of_length_le] at htake
    · exact htake
    · rw [List.length_map, ← h]
      exact length_cleanSegments_le r ss
  exact map_eq_self_iff.1 hmap t ht

/-! ### What is drawn of a node in canonical form -/

/-- The segments of a node in canonical form. -/
def drawnOrId (r : LabelRules) (n : Node) : List Text :=
  if (drawing r n).1.isEmpty then [ofText n.id] else (drawing r n).1

theorem drawnOrId_ne_nil (r : LabelRules) (n : Node) : drawnOrId r n ≠ [] := by
  unfold drawnOrId
  split
  · exact List.cons_ne_nil _ _
  · rename_i h
    rwa [List.isEmpty_iff] at h

theorem labelLines_canonical (r : LabelRules) (n : Node) :
    (n.canonical r).labelLines =
      if 1 < (drawnOrId r n).length || n.labelLines.isSome then some (drawnOrId r n) else none :=
  rfl

theorem label_canonical (r : LabelRules) (n : Node) :
    (n.canonical r).label = (drawnOrId r n).headD (ofText n.id) := rfl

theorem segments_canonical (r : LabelRules) (n : Node) :
    (n.canonical r).segments = drawnOrId r n := by
  rcases hd : drawnOrId r n with _ | ⟨t, ts⟩
  · exact absurd hd (drawnOrId_ne_nil r n)
  · rw [segments, labelLines_canonical, label_canonical, hd]
    by_cases hmany : (1 < (t :: ts).length || n.labelLines.isSome) = true
    · rw [if_pos hmany]
    · rw [if_neg hmany]
      -- A lone segment is the label.
      rcases ts with _ | ⟨u, us⟩
      · rfl
      · have hmore : (1 < (t :: u :: us).length || n.labelLines.isSome) = true := by simp
        exact absurd hmore hmany

/-- What is drawn is clean, and its shape closes around it. -/
theorem drawing_spec (p : LabelPolicy) (n : Node) :
    (∀ t ∈ (drawing (.ofPolicy p) n).1, IsClean (.ofPolicy p) t ∧ t ≠ []) ∧
      (drawing (.ofPolicy p) n).1.length ≤ maxLabelLines ∧
      (drawing (.ofPolicy p) n).2.isSafe (drawing (.ofPolicy p) n).1 = true := by
  -- Both cases draw cleaned segments, of different texts.
  have hclean : ∀ ss, ∀ t ∈ cleanSegments (.ofPolicy p) ss, IsClean (.ofPolicy p) t ∧ t ≠ [] := by
    intro ss t ht
    rcases mem_cleanSegments ht with ⟨hne, s, -, rfl⟩
    exact ⟨isClean_clean _ s, hne⟩
  unfold drawing
  dsimp only
  split
  · rename_i shape hshape
    exact ⟨hclean _, length_cleanSegments_le _ _, Shape.isSafe_of_safe? hshape⟩
  · refine ⟨hclean _, length_cleanSegments_le _ _, ?_⟩
    -- The closing delimiter of the rectangle was taken out of printable texts.
    have hrect : Shape.rect.isSafe (cleanSegments (.ofPolicy p)
        ((cleanSegments (.ofPolicy p) n.segments).map openRect)) = true := by
      refine Shape.isSafe_iff.2 fun t ht hc => ?_
      rcases mem_cleanSegments ht with ⟨-, s, hs, rfl⟩
      rcases List.mem_map.1 hs with ⟨u, hu, rfl⟩
      have hprint : ∀ c ∈ openRect u, isPrintable c = true := by
        intro c hcu
        rcases List.mem_map.1 hcu with ⟨d, hd, rfl⟩
        split
        · decide
        · exact (hclean _ u hu).1.isPrintable d hd
      rcases mem_clean hprint hc with hsp | hc
      · exact Shape.closer_ne_space _ hsp
      · rcases List.mem_map.1 hc with ⟨d, -, hd⟩
        split at hd
        · exact Shape.closer_ne_space _ hd.symm
        · rename_i hne
          exact hne hd
    rw [Shape.safeOrRect, Shape.safe?_of_isSafe hrect, Option.getD_some]
    exact hrect

theorem normalized_normalized (x : Binary64) : x.normalized.normalized = x.normalized := by
  by_cases h : (x.isFinite && !x.isZero) = true
  · have hx : x.normalized = x := if_pos h
    rw [hx, hx]
  · have hx : x.normalized = Binary64.zero := if_neg h
    rw [hx]
    decide

/-- Every node is brought into canonical form. -/
theorem isCanonical_canonical (p : LabelPolicy) (n : Node) :
    (n.canonical (.ofPolicy p)).IsCanonical p := by
  rcases drawing_spec p n with ⟨hclean, hfew, hsafe⟩
  have hname : IsName (ofText n.id) := isName_ofText n.id
  have hseg := segments_canonical (.ofPolicy p) n
  -- For what is drawn there are two cases, the drawing and the id in its place.
  refine {
    name := hname
    drawn := ?_
    few := ?_
    safe := ?_
    label := ?_
    lines := fun ls hls => ?_
    weight := normalized_normalized n.weight
    group := fun g hg => ?_
    bridge := fun b hb => ?_ }
  · rw [hseg, drawnOrId]
    split
    · exact Or.inl rfl
    · exact Or.inr hclean
  · rw [hseg, drawnOrId]
    split
    · exact Nat.one_le_iff_ne_zero.2 (by decide)
    · exact hfew
  · rw [hseg, drawnOrId]
    split
    · exact Shape.isSafe_singleton hname _
    · exact hsafe
  · rw [hseg, label_canonical]
    rcases hd : drawnOrId (.ofPolicy p) n with _ | ⟨t, ts⟩
    · exact absurd hd (drawnOrId_ne_nil _ n)
    · rfl
  · rw [hseg]
    rw [labelLines_canonical] at hls
    split at hls
    · exact Option.some.inj hls
    · exact absurd hls (by simp only [reduceCtorEq, not_false_eq_true])
  · have hg' : (n.group.map (clean .strict)).filter (· ≠ []) = some g := hg
    rw [Option.filter_eq_some_iff, decide_eq_true_eq, Option.map_eq_some_iff] at hg'
    rcases hg' with ⟨⟨t, -, rfl⟩, hne⟩
    exact ⟨isClean_clean _ t, hne⟩
  · have hb' : n.bridge.map (cleanBridge (ofText n.id) (n.canonical (.ofPolicy p)).label)
        = some b := hb
    rcases Option.map_eq_some_iff.1 hb' with ⟨c, -, rfl⟩
    rw [cleanBridge]
    dsimp only
    rcases hfind : ([c.targetLabel, (n.canonical (.ofPolicy p)).label].map (clean .strict)).find?
        (· ≠ []) with _ | t
    · exact Or.inl rfl
    · have hne : t ≠ [] := by simpa using List.find?_some hfind
      rcases List.mem_map.1 (List.mem_of_find?_eq_some hfind) with ⟨s, -, rfl⟩
      exact Or.inr ⟨isClean_clean _ s, hne⟩

/-! ### What changes a second time -/

/-- A text that cleaning leaves alone is short and has no entity, if its
    characters are allowed. -/
theorem short_of_clean_eq_self {r : LabelRules} (hr : r.banMarkup = true) {t : Text}
    (h : clean r t = t) : t.length ≤ r.maxLength ∧ ¬ Markup.HasEntity t := by
  have hclean : IsClean r t := h ▸ isClean_clean r t
  exact ⟨hclean.short, (clean_eq_self_iff hclean).1 h hr⟩

/-- A segment of a canonical node that is short and has no entity is left alone
    by cleaning. -/
theorem IsCanonical.clean_segment {p : LabelPolicy} {n : Node} (h : n.IsCanonical p) {t : Text}
    (ht : t ∈ n.segments) (hshort : t.length ≤ maxNodeLabel) (hentity : ¬ Markup.HasEntity t) :
    clean (.ofPolicy p) t = t ∧ t ≠ [] := by
  rcases h.drawn with hid | hclean
  · have htid : t = n.id := by
      rw [hid] at ht
      exact List.mem_singleton.1 ht
    subst htid
    exact ⟨(h.name.clean_eq _).trans (List.take_of_length_le hshort), h.name.ne_nil⟩
  · exact ⟨clean_eq_self (hclean t ht).1 fun _ => hentity, (hclean t ht).2⟩

/-- Cleaning the segments of a canonical node keeps its shape safe. -/
theorem IsCanonical.drawing_eq {p : LabelPolicy} {n : Node} (h : n.IsCanonical p) :
    drawing (.ofPolicy p) n = (cleanSegments (.ofPolicy p) n.segments, n.shape) := by
  have hsafe : n.shape.isSafe (cleanSegments (.ofPolicy p) n.segments) = true := by
    refine Shape.isSafe_iff.2 fun t ht hc => ?_
    rcases mem_cleanSegments ht with ⟨-, s, hs, rfl⟩
    -- Cleaning brings in nothing but spaces, and a space closes no shape.
    have hprint : ∀ c ∈ s, isPrintable c = true := fun c hcs =>
      LabelRules.isPrintable_of_allows (h.allows (mem_texts_of_mem_segments hs) hcs)
    rcases mem_clean hprint hc with hsp | hc
    · exact Shape.closer_ne_space _ hsp
    · exact Shape.isSafe_iff.1 h.safe s hs hc
  rw [drawing, Shape.safe?_of_isSafe hsafe]

/-- The drawn segments of a canonical node are its own again exactly if cleaning
    leaves each of them alone. -/
theorem IsCanonical.drawnOrId_eq_iff {p : LabelPolicy} {n : Node} (h : n.IsCanonical p) :
    drawnOrId (.ofPolicy p) n = n.segments ↔
      ∀ t ∈ n.segments, t.length ≤ maxNodeLabel ∧ ¬ Markup.HasEntity t := by
  rw [drawnOrId, h.drawing_eq, ofText_of_isName h.name]
  constructor
  · intro heq t ht
    refine short_of_clean_eq_self (r := .ofPolicy p) rfl ?_
    refine clean_eq_self_of_cleanSegments ?_ ht
    split at heq
    · rename_i hempty
      -- Something is left of an id, so it does not stand for an empty drawing.
      have hid : n.id ∈ n.segments := heq ▸ List.mem_singleton.2 rfl
      have hne : clean (.ofPolicy p) n.id ≠ [] := h.name.clean_ne_nil (Nat.succ_pos 59)
      rw [List.isEmpty_iff] at hempty
      have hnil : cleanSegments (.ofPolicy p) [n.id] = [clean (.ofPolicy p) n.id] := by
        rw [cleanSegments, List.map_singleton,
          List.filter_cons_of_pos (p := (· ≠ [])) (decide_eq_true hne)]
        rfl
      rw [← heq, hnil] at hempty
      exact absurd hempty (List.cons_ne_nil _ _)
    · exact heq
  · intro htexts
    have hself : cleanSegments (.ofPolicy p) n.segments = n.segments :=
      cleanSegments_eq_self (fun t ht => h.clean_segment ht (htexts t ht).1 (htexts t ht).2) h.few
    rw [hself, if_neg]
    rw [List.isEmpty_iff]
    exact n.segments_ne_nil

/-- A clean group is its own again exactly if it has no entity. -/
theorem IsCanonical.cleanGroup_eq_iff {p : LabelPolicy} {n : Node} (h : n.IsCanonical p) :
    cleanGroup n.group = n.group ↔
      ∀ t ∈ n.group.toList, t.length ≤ maxNodeLabel ∧ ¬ Markup.HasEntity t := by
  rcases hg : n.group with _ | g
  · simp [cleanGroup]
  · rcases h.group g hg with ⟨hclean, hne⟩
    have hshort : g.length ≤ maxNodeLabel := hclean.short
    rw [Option.toList_some, List.forall_mem_singleton, and_iff_right hshort]
    rw [← clean_strict_eq_self_iff hclean]
    by_cases hnil : clean .strict g = []
    · rw [cleanGroup, Option.map_some, Option.filter_some_neg (by simp [hnil]), hnil]
      exact iff_of_false (by simp) fun heq => hne heq.symm
    · rw [cleanGroup, Option.map_some, Option.filter_some_pos (by simp [hnil]), Option.some.injEq]

/-- The label that a bridge of a canonical node leads to is its own again
    exactly if it is short and has no entity. What takes its place otherwise is
    a label that is both. -/
theorem IsCanonical.cleanBridge_eq_iff {p : LabelPolicy} {n : Node} (h : n.IsCanonical p)
    {b : Bridge} (hb : n.bridge = some b) :
    cleanBridge n.id n.label b = b ↔
      b.targetLabel.length ≤ maxNodeLabel ∧ ¬ Markup.HasEntity b.targetLabel := by
  have htarget : b.targetLabel ∈ n.texts := by
    rw [texts, hb]
    exact List.mem_append_right _ (List.mem_singleton.2 rfl)
  have hlabel : n.label ∈ n.texts := mem_texts_of_mem_segments (List.mem_of_mem_head? h.label)
  constructor
  · intro heq
    have hfound : (([b.targetLabel, n.label].map (clean .strict)).find? (· ≠ [])).getD n.id
        = b.targetLabel := congrArg Bridge.targetLabel heq
    rcases hfind : ([b.targetLabel, n.label].map (clean .strict)).find? (· ≠ []) with _ | t
    · -- The id would stand in for texts of which nothing was left, and itself be one.
      rw [hfind, Option.getD_none] at hfound
      have hnil := List.find?_eq_none.1 hfind (clean .strict b.targetLabel) List.mem_cons_self
      rw [decide_eq_true_eq, not_not, ← hfound] at hnil
      exact absurd hnil (h.name.clean_ne_nil (Nat.succ_pos 59))
    · -- Whichever of the two was found, it is a canonical text that has been cleaned.
      rw [hfind, Option.getD_some] at hfound
      rcases List.mem_map.1 (List.mem_of_find?_eq_some hfind) with ⟨s, hs, rfl⟩
      have hst : s ∈ n.texts := by
        rcases List.mem_cons.1 hs with rfl | hs
        · exact htarget
        · exact List.mem_singleton.1 hs ▸ hlabel
      rw [← hfound]
      exact ⟨(isClean_clean .strict s).short, not_hasEntity_clean rfl
        (fun c hc => LabelRules.isPrintable_of_allows (h.allows hst hc))
        fun c hc => LabelRules.not_isAngle_of_allows rfl (h.allows hst hc)⟩
  · rintro ⟨hshort, hentity⟩
    have hself : clean .strict b.targetLabel = b.targetLabel ∧ b.targetLabel ≠ [] := by
      rcases h.bridge b hb with hid | ⟨hclean, hne⟩
      · rw [hid] at hshort ⊢
        exact ⟨(h.name.clean_eq _).trans (List.take_of_length_le hshort), h.name.ne_nil⟩
      · exact ⟨clean_eq_self hclean fun _ => hentity, hne⟩
    rw [cleanBridge, List.map_cons, hself.1]
    rw [List.find?_cons_of_pos (p := (· ≠ [])) (decide_eq_true hself.2), Option.getD_some]

/-- Long texts and entities are all that bringing a canonical node into
    canonical form still changes. -/
theorem canonical_eq_self_iff {p : LabelPolicy} {n : Node} (h : n.IsCanonical p) :
    n.canonical (.ofPolicy p) = n ↔
      ∀ t ∈ n.texts, t.length ≤ maxNodeLabel ∧ ¬ Markup.HasEntity t := by
  have hsegments := h.drawnOrId_eq_iff
  have hgroup := h.cleanGroup_eq_iff
  constructor
  · intro heq t ht
    have hlabel : (n.canonical (.ofPolicy p)).label = n.label := congrArg Node.label heq
    rw [texts, List.mem_append, List.mem_append] at ht
    rcases ht with (ht | ht) | ht
    · exact hsegments.1 (segments_canonical _ n ▸ congrArg Node.segments heq) t ht
    · exact hgroup.1 (congrArg Node.group heq) t ht
    · rcases List.mem_map.1 ht with ⟨b, hb, rfl⟩
      have hb' := Option.mem_toList.1 hb
      refine (h.cleanBridge_eq_iff hb').1 ?_
      have hbridge : n.bridge.map (cleanBridge (ofText n.id) (n.canonical (.ofPolicy p)).label)
          = n.bridge := congrArg Node.bridge heq
      rw [hb', Option.map_some, Option.some.injEq, hlabel, ofText_of_isName h.name] at hbridge
      exact hbridge
  · intro htexts
    have hdrawn : drawnOrId (.ofPolicy p) n = n.segments :=
      hsegments.2 fun t ht => htexts t (mem_texts_of_mem_segments ht)
    have hid : ofText n.id = n.id := ofText_of_isName h.name
    have hlabel : (n.canonical (.ofPolicy p)).label = n.label := by
      rw [label_canonical, hdrawn, List.headD_eq_head?_getD, h.label, Option.getD_some]
    have hlines : (n.canonical (.ofPolicy p)).labelLines = n.labelLines := by
      rw [labelLines_canonical, hdrawn]
      rcases hl : n.labelLines with _ | ls
      · -- Without label lines there is the one label.
        rw [segments, hl]
        rfl
      · rw [Option.isSome_some, Bool.or_true, if_pos rfl, h.lines ls hl]
    have hbridge : n.bridge.map (cleanBridge (ofText n.id) (n.canonical (.ofPolicy p)).label)
        = n.bridge := by
      rcases hb : n.bridge with _ | b
      · rfl
      · rw [Option.map_some, hlabel, hid, (h.cleanBridge_eq_iff hb).2 (htexts _ ?_)]
        rw [texts, hb]
        exact List.mem_append_right _ (List.mem_singleton.2 rfl)
    have hgroup' : cleanGroup n.group = n.group :=
      hgroup.2 fun t ht => htexts t (List.mem_append_left _ (List.mem_append_right _ ht))
    calc n.canonical (.ofPolicy p)
        = { id := ofText n.id
            label := (n.canonical (.ofPolicy p)).label
            labelLines := (n.canonical (.ofPolicy p)).labelLines
            shape := (drawing (.ofPolicy p) n).2
            weight := n.weight.normalized
            group := cleanGroup n.group
            bridge := n.bridge.map (cleanBridge (ofText n.id) (n.canonical (.ofPolicy p)).label)
            evidence := n.evidence } := rfl
      _ = n := by rw [hbridge, hid, hlabel, hlines, h.drawing_eq, h.weight, hgroup']

end Node

end Flowchart
