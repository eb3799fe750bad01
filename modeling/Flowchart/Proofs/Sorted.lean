import Flowchart.Json.Encode
import Flowchart.Json.Reader
import Mathlib.Data.List.Perm.Basic

/-!
# Sorted JSON

An object that is read has its fields sorted by key, with the last of equal keys
kept. If no two keys are equal, then that is a permutation of the fields, and
there is only one in which the keys increase. So what sorting makes of a record
can be stated without following the insertions.

Sorting is done object by object while a value is read, as soon as the object is
closed. The result is the same as if the whole value were sorted in the end:
sorting it once more changes nothing, since each container is put together from
values that are sorted already.

## Main definitions

* `Json.Increases`: The keys of fields increase.
* `Json.parts`: The values directly inside a value.
* `Json.Reader.IsSorted`: All values that a state of the reader holds are
  sorted.

## Theorems

* `Json.sortFields_eq`: Sorting finds the only sorted permutation.
* `Json.sorted_sorted`: Sorting twice is sorting once.
* `Json.sorted_record`: A record with its fields sorted.
* `Json.sorted_of_mem_parts`: The parts of a sorted value are sorted.
* `Json.Reader.isSorted_step`: No token breaks the invariant.
* `Json.sorted_of_parse?`: A value that is read is sorted.
-/

namespace Flowchart

namespace Json

/-! ### Sorted fields -/

/-- The keys of fields increase. -/
def Increases (fields : List (Text × Json)) : Prop := fields.Pairwise fun f g => f.1 < g.1

theorem mem_insertField {k : Text} {v : Json} {fields : List (Text × Json)} {f : Text × Json}
    (h : f ∈ insertField k v fields) : f = (k, v) ∨ f ∈ fields := by
  induction fields with
  | nil => exact Or.inl (List.mem_singleton.1 h)
  | cons g fields ih =>
    rw [insertField] at h
    split at h
    · exact (List.mem_cons.1 h).imp_right (List.mem_cons_of_mem g)
    · split at h
      · exact List.mem_cons.1 h
      · rcases List.mem_cons.1 h with rfl | h
        · exact Or.inr List.mem_cons_self
        · exact (ih h).imp_right (List.mem_cons_of_mem g)

theorem increases_insertField {k : Text} {v : Json} {fields : List (Text × Json)}
    (h : Increases fields) : Increases (insertField k v fields) := by
  induction fields with
  | nil => exact List.pairwise_singleton _ _
  | cons g fields ih =>
    have hg := List.pairwise_cons.1 h
    rw [insertField]
    by_cases heq : k = g.1
    -- The field replaces the first one, whose key it has.
    · rw [if_pos heq]
      refine List.pairwise_cons.2 ⟨fun f hf => ?_, hg.2⟩
      rw [heq]
      exact hg.1 f hf
    · rw [if_neg heq]
      by_cases hlt : k < g.1
      -- The field goes to the front.
      · rw [if_pos hlt]
        refine List.pairwise_cons.2 ⟨fun f hf => ?_, h⟩
        rcases List.mem_cons.1 hf with rfl | hf
        · exact hlt
        · exact List.lt_trans hlt (hg.1 f hf)
      -- The field goes further back, and the first one stays below all others.
      · rw [if_neg hlt]
        have hgt : g.1 < k :=
          (List.le_iff_lt_or_eq.1 (List.not_lt.1 hlt)).resolve_right (Ne.symm heq)
        refine List.pairwise_cons.2 ⟨fun f hf => ?_, ih hg.2⟩
        rcases mem_insertField hf with rfl | hf
        · exact hgt
        · exact hg.1 f hf

/-- A field with a new key takes its place and replaces none. -/
theorem insertField_perm {k : Text} {v : Json} {fields : List (Text × Json)}
    (h : k ∉ fields.map Prod.fst) : (insertField k v fields).Perm ((k, v) :: fields) := by
  induction fields with
  | nil => exact List.Perm.refl _
  | cons g fields ih =>
    rw [List.map_cons, List.mem_cons, not_or] at h
    rw [insertField, if_neg h.1]
    split
    · exact List.Perm.refl _
    · exact ((ih h.2).cons g).trans (List.Perm.swap _ _ _)

theorem increases_sortFields (fields : List (Text × Json)) : Increases (sortFields fields) :=
  List.foldlRecOn fields _ List.Pairwise.nil fun _ h _ _ => increases_insertField h

theorem mem_sortFields {fields : List (Text × Json)} {f : Text × Json}
    (h : f ∈ sortFields fields) : f ∈ fields := by
  revert f
  refine List.foldlRecOn (motive := fun done => ∀ {f}, f ∈ done → f ∈ fields) fields _
    (fun hf => absurd hf List.not_mem_nil) fun done ih g hg f hf => ?_
  rcases mem_insertField hf with rfl | hf
  · exact hg
  · exact ih hf

theorem foldl_insertField_perm {fields done : List (Text × Json)}
    (hkeys : ((fields ++ done).map Prod.fst).Nodup) :
    (fields.foldl (fun done (k, v) => insertField k v done) done).Perm (fields ++ done) := by
  induction fields generalizing done with
  | nil => exact List.Perm.refl _
  | cons f fields ih =>
    rcases f with ⟨k, v⟩
    have hnew : k ∉ done.map Prod.fst := by
      rw [List.cons_append, List.map_cons, List.nodup_cons, List.map_append, List.mem_append,
        not_or] at hkeys
      exact hkeys.1.2
    have hmoved : (fields ++ insertField k v done).Perm ((k, v) :: fields ++ done) :=
      ((insertField_perm hnew).append_left fields).trans List.perm_middle
    exact (ih ((hmoved.map Prod.fst).nodup_iff.2 hkeys)).trans hmoved

/-- Sorting fields with different keys finds the only permutation in which the
    keys increase. -/
theorem sortFields_eq {fields fields' : List (Text × Json)} (hperm : fields'.Perm fields)
    (h : Increases fields') : sortFields fields = fields' := by
  have hnodup : (fields'.map Prod.fst).Nodup :=
    List.pairwise_map.2 (h.imp fun {f g} hlt (heq : f.1 = g.1) => List.lt_irrefl g.1 (heq ▸ hlt))
  have hkeys : ((fields ++ []).map Prod.fst).Nodup := by
    rw [List.append_nil]
    exact (hperm.map Prod.fst).nodup_iff.1 hnodup
  have hsame := foldl_insertField_perm hkeys
  rw [List.append_nil] at hsame
  refine List.Perm.eq_of_pairwise (fun f g _ _ hfg hgf => ?_) (increases_sortFields fields) h
    (hsame.trans hperm.symm)
  exact absurd hgf (List.lt_asymm hfg)

/-! ### Sorted values -/

theorem sortedItems_eq_map (items : List Json) : sortedItems items = items.map sorted := by
  induction items with
  | nil => rfl
  | cons v vs ih => rw [sortedItems, ih, List.map_cons]

theorem sortedValues_eq_map (fields : List (Text × Json)) :
    sortedValues fields = fields.map fun f => (f.1, f.2.sorted) := by
  induction fields with
  | nil => rfl
  | cons f fields ih => rw [sortedValues, ih, List.map_cons]

theorem sorted_arr {items : List Json} (h : ∀ v ∈ items, v.sorted = v) :
    (arr items).sorted = arr items := by
  rw [sorted, sortedItems_eq_map, List.map_congr_left h, List.map_id']

theorem sorted_obj_sortFields {fields : List (Text × Json)} (h : ∀ f ∈ fields, f.2.sorted = f.2) :
    (obj (sortFields fields)).sorted = obj (sortFields fields) := by
  have hvalues : sortedValues (sortFields fields) = sortFields fields := by
    rw [sortedValues_eq_map]
    refine (List.map_congr_left fun f hf => ?_).trans (List.map_id' _)
    rw [h f (mem_sortFields hf)]
  rw [sorted, hvalues, sortFields_eq (List.Perm.refl _) (increases_sortFields fields)]

mutual

/-- What is sorted stays as it is when it is sorted again. -/
theorem sorted_sorted : (v : Json) → v.sorted.sorted = v.sorted
  | .null | .bool _ | .int _ | .float _ | .str _ => rfl
  | .arr items => sorted_arr (sorted_of_mem_sortedItems items)
  | .obj fields => sorted_obj_sortFields (sorted_of_mem_sortedValues fields)

theorem sorted_of_mem_sortedItems : (items : List Json) → ∀ v ∈ sortedItems items, v.sorted = v
  | [], _, h => nomatch h
  | w :: ws, v, h => by
    rcases List.mem_cons.1 h with rfl | h
    · exact sorted_sorted w
    · exact sorted_of_mem_sortedItems ws v h

theorem sorted_of_mem_sortedValues :
    (fields : List (Text × Json)) → ∀ f ∈ sortedValues fields, f.2.sorted = f.2
  | [], _, h => nomatch h
  | (k, w) :: fields, f, h => by
    rcases List.mem_cons.1 h with rfl | h
    · exact sorted_sorted w
    · exact sorted_of_mem_sortedValues fields f h

end

theorem record_eq (entries : List (String × Option Json)) :
    record entries = .obj (entries.filterMap fun e => e.2.map (e.1.toList, ·)) :=
  rfl

/-- A record with its fields sorted, and with the objects in its fields sorted. -/
theorem sorted_record {entries entries' : List (String × Option Json)}
    (hperm : entries'.Perm entries)
    (hkeys : (entries'.map Prod.fst).Pairwise fun k k' => k.toList < k'.toList) :
    (record entries).sorted = record (entries'.map fun e => (e.1, e.2.map sorted)) := by
  have hfields : (entries'.map fun e => (e.1, e.2.map sorted)).filterMap
        (fun e => e.2.map (e.1.toList, ·))
      = (entries'.filterMap fun e => e.2.map (e.1.toList, ·)).map fun f => (f.1, f.2.sorted) := by
    rw [List.filterMap_map, List.map_filterMap]
    refine List.filterMap_congr fun e _ => ?_
    rcases e with ⟨k, v⟩
    cases v <;> rfl
  rw [record_eq, sorted, sortedValues_eq_map, record_eq, hfields]
  congr 1
  -- The keys are in order already, so sorting the fields gives this list.
  refine sortFields_eq ((hperm.filterMap _).map _) (List.pairwise_map.2 ?_)
  refine List.Pairwise.filterMap _ (fun e e' hlt f hf f' hf' => ?_)
    (List.pairwise_map.1 hkeys)
  rcases Option.map_eq_some_iff.1 hf with ⟨v, -, rfl⟩
  rcases Option.map_eq_some_iff.1 hf' with ⟨v', -, rfl⟩
  exact hlt

/-! ### Parts -/

/-- The values directly inside a value. -/
def parts : Json → List Json
  | .arr items => items
  | .obj fields => fields.map Prod.snd
  | _ => []

/-- The parts of a sorted value are sorted. -/
theorem sorted_of_mem_parts {v w : Json} (h : v.sorted = v) (hw : w ∈ v.parts) : w.sorted = w := by
  cases v with
  | arr items =>
    rw [sorted, arr.injEq] at h
    exact sorted_of_mem_sortedItems items w (h.symm ▸ hw)
  | obj fields =>
    rw [sorted, obj.injEq] at h
    rcases List.mem_map.1 hw with ⟨f, hf, rfl⟩
    exact sorted_of_mem_sortedValues fields f (mem_sortFields (h.symm ▸ hf))
  | _ => exact absurd hw List.not_mem_nil

/-! ### Values that are read -/

theorem sorted_of_value? {n : Numeral} {v : Json} (h : n.value? = some v) : v.sorted = v := by
  have hfloat : ∀ {x : Option Binary64}, x.map float = some v → v.sorted = v := by
    intro x hx
    rcases Option.map_eq_some_iff.1 hx with ⟨y, -, rfl⟩
    rfl
  unfold Numeral.value? at h
  dsimp only at h
  split at h
  · split at h
    · split at h
      · exact nomatch h
      · cases h
        rfl
    · exact hfloat h
  · split at h
    · exact hfloat h
    · split at h
      · cases h
        rfl
      · split at h
        all_goals
          cases h
          rfl

theorem sorted_of_wordValue? {t : Text} {v : Json} (h : wordValue? t = some v) : v.sorted = v := by
  unfold wordValue? at h
  split_ifs at h
  all_goals
    cases h
    rfl

/-- The value of a token is sorted. -/
def Token.IsSorted : Token → Prop
  | .scalar v => v.sorted = v
  | _ => True

theorem isSorted_of_mem_tokens {t : Text} {ts : List Token} (h : tokens t = some ts) :
    ∀ token ∈ ts, token.IsSorted := by
  -- One more token is put before those of the rest.
  have hcons : ∀ {rest : Option (List Token)} {token : Token} {ts : List Token},
      rest.map (token :: ·) = some ts → token.IsSorted →
      (∀ {ts}, rest = some ts → ∀ token ∈ ts, token.IsSorted) → ∀ token ∈ ts, token.IsSorted := by
    intro rest token ts hmap htoken hrest
    rcases Option.map_eq_some_iff.1 hmap with ⟨ts', hts, rfl⟩
    exact List.forall_mem_cons.2 ⟨htoken, hrest hts⟩
  fun_induction tokens t generalizing ts with
  | case1 =>
    cases h
    exact List.forall_mem_nil _
  | case2 c r _ ih => exact ih h
  | case3 => exact nomatch h
  | case4 r s rest _ _ ih => exact hcons h trivial ih
  | case5 => exact nomatch h
  | case6 c r _ _ _ v hv ih =>
    rcases Option.bind_eq_some_iff.1 hv with ⟨n, -, hn⟩
    exact hcons h (sorted_of_value? hn) ih
  | case7 => exact nomatch h
  | case8 c r _ _ _ _ v hv ih => exact hcons h (sorted_of_wordValue? hv) ih
  | case9 => exact nomatch h
  | case10 c r _ _ _ _ token htoken ih =>
    refine hcons h ?_ ih
    unfold punctuation? at htoken
    split at htoken
    case h_7 => exact nomatch htoken
    all_goals
      cases htoken
      trivial

/-- What an open container holds is sorted. -/
def Frame.IsSorted : Frame → Prop
  | .array items => ∀ v ∈ items, v.sorted = v
  | .object fields _ => ∀ f ∈ fields, f.2.sorted = f.2

theorem Frame.isSorted_array {v : Json} {items : List Json} (hv : v.sorted = v)
    (h : (array items).IsSorted) : (array (v :: items)).IsSorted :=
  List.forall_mem_cons.2 ⟨hv, h⟩

theorem Frame.isSorted_object {k : Text} {v : Json} {fields : List (Text × Json)}
    (hv : v.sorted = v) (h : (object fields k).IsSorted) :
    (object ((k, v) :: fields) k).IsSorted :=
  List.forall_mem_cons.2 ⟨hv, h⟩

/-- All values that a state holds are sorted. -/
def Reader.IsSorted : Reader → Prop
  | .value outer | .itemOrClose outer | .keyOrClose outer => ∀ frame ∈ outer, frame.IsSorted
  | .key fields outer | .colon fields _ outer =>
    (∀ f ∈ fields, f.2.sorted = f.2) ∧ ∀ frame ∈ outer, frame.IsSorted
  | .after v outer => v.sorted = v ∧ ∀ frame ∈ outer, frame.IsSorted

namespace Reader

theorem isSorted_begin {outer : List Frame} {token : Token} {s : Reader}
    (h : begin outer token = some s) (htoken : token.IsSorted)
    (houter : ∀ frame ∈ outer, frame.IsSorted) : s.IsSorted := by
  unfold begin at h
  split at h
  · cases h
    exact ⟨htoken, houter⟩
  · cases h
    exact ⟨rfl, houter⟩
  · -- An array begins with no items, so only the frames outside have to be sorted.
    split_ifs at h
    cases h
    exact houter
  · split_ifs at h
    cases h
    exact houter
  · exact nomatch h

theorem isSorted_step {s s' : Reader} {token : Token} (h : s.step token = some s')
    (htoken : token.IsSorted) (hs : s.IsSorted) : s'.IsSorted := by
  unfold step at h
  split at h
  · cases h
    exact ⟨rfl, hs⟩
  · exact isSorted_begin h htoken (List.forall_mem_cons.2 ⟨List.forall_mem_nil _, hs⟩)
  · cases h
    exact ⟨rfl, hs⟩
  · cases h
    exact ⟨List.forall_mem_nil _, hs⟩
  · cases h
    exact hs
  · cases h
    exact List.forall_mem_cons.2 hs
  -- A value is finished inside a list, and the list goes on or ends.
  · cases h
    have hframe := List.forall_mem_cons.1 hs.2
    exact List.forall_mem_cons.2 ⟨Frame.isSorted_array hs.1 hframe.1, hframe.2⟩
  · cases h
    have hframe := List.forall_mem_cons.1 hs.2
    have hitems := Frame.isSorted_array hs.1 hframe.1
    exact ⟨sorted_arr fun v hv => hitems v (List.mem_reverse.1 hv), hframe.2⟩
  -- A value is finished inside an object, and the object goes on or ends.
  · cases h
    have hframe := List.forall_mem_cons.1 hs.2
    exact ⟨Frame.isSorted_object hs.1 hframe.1, hframe.2⟩
  · cases h
    have hframe := List.forall_mem_cons.1 hs.2
    have hfields := Frame.isSorted_object hs.1 hframe.1
    exact ⟨sorted_obj_sortFields fun f hf => hfields f (List.mem_reverse.1 hf), hframe.2⟩
  · exact isSorted_begin h htoken hs
  · exact nomatch h

theorem isSorted_foldlM {s s' : Reader} {ts : List Token} (h : ts.foldlM step s = some s')
    (hts : ∀ token ∈ ts, token.IsSorted) (hs : s.IsSorted) : s'.IsSorted := by
  induction ts generalizing s with
  | nil =>
    cases h
    exact hs
  | cons token ts ih =>
    have hall := List.forall_mem_cons.1 hts
    rw [List.foldlM_cons] at h
    rcases Option.bind_eq_some_iff.1 h with ⟨u, hu, hrest⟩
    exact ih hrest hall.2 (isSorted_step hu hall.1 hs)

end Reader

/-- The reader leaves the objects of a value sorted. -/
theorem sorted_of_parse? {t : Text} {v : Json} (h : parse? t = some v) : v.sorted = v := by
  rcases Option.bind_eq_some_iff.1 h with ⟨ts, hts, h⟩
  rcases Option.bind_eq_some_iff.1 h with ⟨s, hs, h⟩
  have hsorted : s.IsSorted :=
    Reader.isSorted_foldlM hs (isSorted_of_mem_tokens hts) (List.forall_mem_nil _)
  split at h
  · cases h
    exact hsorted.1
  · exact nomatch h

end Json

end Flowchart
