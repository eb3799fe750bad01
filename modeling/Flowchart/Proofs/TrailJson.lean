import Flowchart.Build.Json
import Flowchart.Proofs.Account
import Flowchart.Proofs.DiagramJson

/-!
# Trails in JSON

What is read back of a trail that was written.

A reason is written under the name of its code. Two vocabularies give names: that of
validators, which has several names for some codes, and that of the linter. They overlap,
and a name is looked up in the first one first. So a code of the linter whose name is also
one that validators use is put in the shade by it: what is read back is the code that the
name stands for among validators. There are three codes like that. All others come back as
they were, and so do messages and the order of the reasons.

Reading does not push, so nothing keeps the codes of what is read distinct. They are, unless
a code in the shade is on the trail together with the code that it is taken for: two codes in
the shade are never taken for the same one.

## Main definitions

* `ReasonCode.isShadowed`: A code of the linter with a name that validators use.
* `ReasonCode.reread`, `Reason.reread`: What is read back of a code and of a reason.
* `Trail.reread?`: What is read back of the text of a trail.

## Theorems

* `ReasonCode.reread_eq_self_iff`: The codes that are read back.
* `ReasonCode.nodup_map_reread_iff`: When distinct codes stay distinct.
* `Trail.reread?_eq`: Every trail is read back as some trail.
* `Trail.reread?_pushAll`: When it is the same trail, and when its codes are distinct.
-/

namespace Flowchart

theorem IssueCode.mem_all (i : IssueCode) : i ∈ IssueCode.all := by
  cases i <;> decide

namespace ReasonCode

/-- A code of the linter whose name is one that validators use. -/
def isShadowed : ReasonCode → Bool
  | .lint i => structured.any (·.1 = i.name)
  | _ => false

/-- The code that is read where this one was written. -/
def reread (c : ReasonCode) : ReasonCode := .ofName c.name.toList

/-! ### Names -/

/-- The codes in the shade, and what they are taken for. -/
theorem reread_of_isShadowed {c : ReasonCode} (h : c.isShadowed = true) :
    (c = .lint .missingHeader ∧ c.reread = .missingHeader) ∨
      (c = .lint .unmatchedEnd ∧ c.reread = .unclosedBlock) ∨
      (c = .lint .unicodePunct ∧ c.reread = .unicodePunct) := by
  have hall : ∀ i ∈ IssueCode.all, (lint i).isShadowed = true →
      (lint i = .lint .missingHeader ∧ (lint i).reread = .missingHeader) ∨
        (lint i = .lint .unmatchedEnd ∧ (lint i).reread = .unclosedBlock) ∨
        (lint i = .lint .unicodePunct ∧ (lint i).reread = .unicodePunct) := by decide +kernel
  cases c with
  | lint i => exact hall i i.mem_all h
  | _ => cases h

/-- A code of validators is read back from its name, and so is a code of the linter whose
    name validators do not use. -/
theorem reread_of_not_isShadowed {c : ReasonCode} (h : c.isShadowed = false) : c.reread = c := by
  have hall : ∀ i ∈ IssueCode.all, (lint i).isShadowed = false → (lint i).reread = .lint i := by
    decide +kernel
  cases c with
  | lint i => exact hall i i.mem_all h
  | _ => decide +kernel

/-- What is read back is in the shade of nothing, since it is a code of validators or one
    that has come back as it was. -/
theorem isShadowed_reread (c : ReasonCode) : c.reread.isShadowed = false := by
  rcases h : c.isShadowed with _ | _
  · rw [reread_of_not_isShadowed h, h]
  · rcases reread_of_isShadowed h with ⟨-, hread⟩ | ⟨-, hread⟩ | ⟨-, hread⟩ <;> rw [hread] <;> rfl

theorem reread_eq_self_iff {c : ReasonCode} : c.reread = c ↔ c.isShadowed = false :=
  ⟨fun h => h ▸ isShadowed_reread c, reread_of_not_isShadowed⟩

/-- Different codes in the shade are taken for different ones. -/
theorem eq_of_reread_eq {c d : ReasonCode} (hc : c.isShadowed = true) (hd : d.isShadowed = true)
    (h : c.reread = d.reread) : c = d := by
  rcases reread_of_isShadowed hc with ⟨rfl, hc'⟩ | ⟨rfl, hc'⟩ | ⟨rfl, hc'⟩ <;>
  rcases reread_of_isShadowed hd with ⟨rfl, hd'⟩ | ⟨rfl, hd'⟩ | ⟨rfl, hd'⟩ <;>
  first
  | rfl
  | rw [hc', hd'] at h
    cases h

/-- Distinct codes stay distinct unless one of them is in the shade of another. -/
theorem nodup_map_reread_iff {l : List ReasonCode} (hl : l.Nodup) :
    (l.map reread).Nodup ↔ ∀ c ∈ l, c.isShadowed = true → c.reread ∉ l := by
  constructor
  · intro h c hc hshadowed hmem
    -- The code that it is read as is on the list and read as itself, so both are read
    -- as the same.
    have hsame : c.reread.reread = c.reread := reread_of_not_isShadowed c.isShadowed_reread
    have heq : c.reread = c := List.inj_on_of_nodup_map h hmem hc hsame
    rw [reread_eq_self_iff.1 heq] at hshadowed
    cases hshadowed
  · intro h
    refine List.Nodup.map_on (fun c hc d hd heq => ?_) hl
    -- Two codes read as the same are the same, or one of them is read as the other.
    rcases hc' : c.isShadowed with _ | _ <;> rcases hd' : d.isShadowed with _ | _
    · rwa [reread_of_not_isShadowed hc', reread_of_not_isShadowed hd'] at heq
    · rw [reread_of_not_isShadowed hc'] at heq
      exact absurd (heq ▸ hc) (h d hd hd')
    · rw [reread_of_not_isShadowed hd'] at heq
      exact absurd (heq ▸ hd) (h c hc hc')
    · exact eq_of_reread_eq hc' hd' heq

end ReasonCode

namespace Reason

/-- The reason that is read where this one was written. -/
def reread (r : Reason) : Reason := { r with code := r.code.reread }

theorem reread_eq_self_iff {r : Reason} : r.reread = r ↔ r.code.isShadowed = false := by
  rw [← ReasonCode.reread_eq_self_iff]
  exact ⟨congrArg code, fun h => by rw [reread, h]⟩

theorem ofJson?_toJson (r : Reason) : ofJson? r.toJson.sorted = .ok r.reread := by
  have hkeys : ["code", "message"].Pairwise fun k k' => k.toList < k'.toList := by decide
  refine Layout.decode_sorted_record
    [("code", some (.ofString r.code.name)), ("message", some (.str r.message))]
    (List.Perm.refl _) hkeys ?_ ?_ ?_
  · -- Only the code can be read back as another one.
    refine .cons (Layout.puts_some (fun c => Reason.mk (.ofName c) []) (fun _ => rfl) rfl) ?_
    refine .cons (Layout.puts_some (Reason.mk r.code.reread) (fun _ => rfl) rfl) ?_
    exact .nil r.reread
  · simp [Reason.layout]
  · simp [Reason.layout]

theorem isReadable_toJson (room : Nat) (r : Reason) : r.toJson.IsReadable (room + 1) := by
  refine Json.isReadable_record ?_
  simp only [List.forall_mem_cons, Option.mem_some_iff, forall_eq']
  exact ⟨.str _ _, .str _ _, List.forall_mem_nil _⟩

end Reason

namespace Trail

/-- What is read back of the text that a trail is written as, if it is JSON. -/
def reread? (t : Trail) : Option (Decoded Trail) := (Json.parse? t.toJson.indented).map ofJson?

/-- A trail is read back reason by reason. -/
theorem reread?_eq (t : Trail) : t.reread? = some (.ok (List.map Reason.reread t)) := by
  have hreadable : t.toJson.IsReadable Json.maxDepth :=
    .arr (Json.isReadable_map fun r _ => r.isReadable_toJson 125)
  have hread : ofJson? t.toJson.sorted = .ok (List.map Reason.reread t) := by
    rw [toJson, Json.sorted, Json.sortedItems_eq_map, List.map_map]
    exact Json.toList_map_of fun r _ => r.ofJson?_toJson
  rw [reread?, Json.parse?_indented hreadable, Option.map_some, hread]

/-- What is pushed onto the empty trail is kept where it is the first with its code. -/
theorem pushAll_nil (reasons : List Reason) : pushAll [] reasons = firsts Reason.code reasons := by
  induction reasons using List.reverseRecOn with
  | nil => rfl
  | append_singleton l r ih =>
    rw [firsts_concat, ← ih, pushAll, List.foldl_append]
    rfl

/-- A trail that was made by pushing is read back as it was just if no code in the shade was
    pushed. In any case the reasons that are read back are those on the trail, in order and
    with their messages, and their codes are distinct just if no code was pushed together
    with one that it is in the shade of. -/
theorem reread?_pushAll (reasons : List Reason) :
    (pushAll [] reasons).reread? = some (.ok ((pushAll [] reasons).map Reason.reread)) ∧
      ((pushAll [] reasons).reread? = some (.ok (pushAll [] reasons)) ↔
        ∀ r ∈ reasons, r.code.isShadowed = false) ∧
      ((codes ((pushAll [] reasons).map Reason.reread)).Nodup ↔
        ∀ r ∈ reasons, r.code.isShadowed = true → ∀ s ∈ reasons, s.code ≠ r.code.reread) := by
  -- A code is on the trail just if it was pushed, although the reason that was pushed
  -- may not be.
  have hmem : ∀ c, c ∈ codes (pushAll [] reasons) ↔ ∃ r ∈ reasons, r.code = c := fun c => by
    rw [pushAll_nil, codes, mem_map_firsts, List.mem_map]
  refine ⟨reread?_eq _, ?_, ?_⟩
  · rw [reread?_eq, Option.some_inj, Except.ok.injEq, map_eq_self_iff]
    simp only [Reason.reread_eq_self_iff]
    constructor
    · intro h r hr
      rcases List.mem_map.1 ((hmem r.code).2 ⟨r, hr, rfl⟩) with ⟨s, hs, hcode⟩
      rw [← hcode]
      exact h s hs
    · intro h s hs
      rcases (hmem s.code).1 (List.mem_map_of_mem hs) with ⟨r, hr, hcode⟩
      rw [← hcode]
      exact h r hr
  · have hnodup : (codes (pushAll [] reasons)).Nodup := by
      rw [pushAll_nil]
      exact nodup_firsts _ _
    have hcodes : codes ((pushAll [] reasons).map Reason.reread)
        = (codes (pushAll [] reasons)).map ReasonCode.reread := by
      rw [codes, codes, List.map_map, List.map_map]
      rfl
    -- The codes on a trail are distinct, so only reading them back can make two equal.
    rw [hcodes, ReasonCode.nodup_map_reread_iff hnodup]
    simp only [hmem, not_exists, not_and, forall_exists_index, and_imp,
      forall_apply_eq_imp_iff₂]

/-- An `end` with no block open, as the linter finds it, behind a block that a validator
    finds left open: read back, both are the same reason. -/
theorem reread?_pushAll_unmatchedEnd :
    (pushAll [] [⟨.unclosedBlock, "first".toList⟩, ⟨.lint .unmatchedEnd, "lint".toList⟩]).reread?
        = some (.ok [⟨.unclosedBlock, "first".toList⟩, ⟨.unclosedBlock, "lint".toList⟩]) ∧
      ¬ (codes [⟨.unclosedBlock, "first".toList⟩, ⟨.unclosedBlock, "lint".toList⟩]).Nodup := by
  rw [reread?_eq]
  decide +kernel

end Trail

end Flowchart
