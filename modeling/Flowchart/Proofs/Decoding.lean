import Flowchart.Json.Decode
import Flowchart.Proofs.Sorted

/-!
# Records Read Back

What is common to all records that are written as JSON and read back. A record
is written with its fields in declared order, and those that say nothing are
left out. It is read with the fields sorted by key. So there are two lists of
entries for one record, of which one is a permutation of the other, and the
second is the order in which the reader visits the fields.

The reader puts the fields it visits into a draft, one after another. If each of
them is put as it should be, and each field left out has its default already,
then the draft has become the record. `Layout.Fills` is such a walk over all
entries, the absent ones included.

In the other direction, all that the reader puts into a draft comes from a part
of the value. So a property of records that no such step breaks holds of the
record that is read.

## Main definitions

* `Layout.Puts`: What an entry does to a draft.
* `Layout.Fills`: The walk over the entries of a record.

## Theorems

* `Json.toList_sorted_map`: A list is read back if its items are.
* `Layout.Fills.decode`: A record is what a walk over its entries leads to.
* `Layout.decode_sorted_record`: A record is read back.
* `Layout.decode_induction`: What every step keeps holds of the record.
-/

namespace Flowchart

/-! ### Results -/

namespace Decoded

theorem bind_eq_ok {α β : Type} {x : Decoded α} {f : α → Decoded β} {b : β} (h : x >>= f = .ok b) :
    ∃ a, x = .ok a ∧ f a = .ok b := by
  cases x with
  | error e => exact nomatch h
  | ok a => exact ⟨a, rfl, h⟩

theorem map_eq_ok {α β : Type} {x : Decoded α} {f : α → β} {b : β} (h : x.map f = .ok b) :
    ∃ a, x = .ok a ∧ f a = b := by
  cases x with
  | error e => exact nomatch h
  | ok a => exact ⟨a, rfl, Except.ok.inj h⟩

/-- What holds of every record that a value read can be put into holds of the
    record that results. -/
theorem holds_of_bind {α β : Type} {P : β → Prop} {x : Decoded α} {f : α → β} {b : β}
    (h : x >>= (fun a => .ok (f a)) = .ok b) (hP : ∀ a, x = .ok a → P (f a)) : P b := by
  rcases bind_eq_ok h with ⟨a, ha, heq⟩
  exact Except.ok.inj heq ▸ hP a ha

end Decoded

/-! ### Values of simple types -/

namespace Json

theorem toBounded_ofNat {n limit : Nat} (h : n < limit) (expected : String) :
    (ofNat n).toBounded limit expected = .ok n := by
  have hfits : (decide (0 ≤ (n : Int)) && decide ((n : Int) < limit)) = true := by
    rw [Bool.and_eq_true, decide_eq_true_eq, decide_eq_true_eq]
    omega
  rw [ofNat, toBounded, if_pos hfits, Int.toNat_natCast]

theorem toBounded_lt {v : Json} {limit n : Nat} {expected : String}
    (h : v.toBounded limit expected = .ok n) : n < limit := by
  cases v with
  | int i =>
    rw [toBounded] at h
    split at h
    · rename_i hfits
      cases h
      rw [Bool.and_eq_true, decide_eq_true_eq, decide_eq_true_eq] at hfits
      omega
    · exact nomatch h
  | _ => exact nomatch h

/-- A list is read item by item, whatever becomes of an item. -/
theorem toList_map_of {α β : Type} {decode : Json → Decoded β} {encode : α → Json} {f : α → β}
    {xs : List α} (h : ∀ x ∈ xs, decode (encode x) = .ok (f x)) :
    (Json.arr (xs.map encode)).toList decode = .ok (xs.map f) := by
  rw [toList]
  induction xs with
  | nil => rfl
  | cons x xs ih =>
    rw [List.map_cons, List.mapM_cons, h x List.mem_cons_self,
      ih fun y hy => h y (List.mem_cons_of_mem x hy)]
    rfl

theorem toList_map {α : Type} {decode : Json → Decoded α} {encode : α → Json} {xs : List α}
    (h : ∀ x ∈ xs, decode (encode x) = .ok x) :
    (Json.arr (xs.map encode)).toList decode = .ok xs := by
  have hread := toList_map_of (f := id) h
  rwa [List.map_id] at hread

theorem of_mem_toList {α : Type} {decode : Json → Decoded α} {v : Json} {xs : List α}
    (h : v.toList decode = .ok xs) : ∀ x ∈ xs, ∃ w ∈ v.parts, decode w = .ok x := by
  cases v with
  | arr items =>
    rw [toList] at h
    -- The parts of an array are its items, and the induction is on them.
    change ∀ x ∈ xs, ∃ w ∈ items, decode w = .ok x
    induction items generalizing xs with
    | nil =>
      cases h
      exact fun x hx => absurd hx List.not_mem_nil
    | cons w ws ih =>
      rw [List.mapM_cons] at h
      rcases Decoded.bind_eq_ok h with ⟨y, hy, hrest⟩
      rcases Decoded.bind_eq_ok hrest with ⟨ys, hys, hcons⟩
      cases hcons
      intro x hx
      rcases List.mem_cons.1 hx with rfl | hx
      · exact ⟨w, List.mem_cons_self, hy⟩
      · rcases ih hys x hx with ⟨u, hu, hok⟩
        exact ⟨u, List.mem_cons_of_mem w hu, hok⟩
  | _ => exact nomatch h

theorem toOption_eq_some {α : Type} {decode : Json → Decoded α} {v : Json} {a : α} (hv : v ≠ .null)
    (h : decode v = .ok a) : v.toOption decode = .ok (some a) := by
  cases v with
  | null => exact absurd rfl hv
  | _ => exact congrArg (Except.map some) h

theorem of_mem_toOption {α : Type} {decode : Json → Decoded α} {v : Json} {x : Option α}
    (h : v.toOption decode = .ok x) : ∀ a ∈ x, decode v = .ok a := by
  intro a ha
  subst ha
  unfold toOption at h
  split at h
  · exact nomatch h
  · rcases Decoded.map_eq_ok h with ⟨b, hb, heq⟩
    cases heq
    exact hb

theorem toList_sorted_map {α : Type} {decode : Json → Decoded α} (encode : α → Json) {xs : List α}
    (h : ∀ x ∈ xs, decode (encode x).sorted = .ok x) :
    (Json.arr (xs.map encode)).sorted.toList decode = .ok xs := by
  rw [sorted, sortedItems_eq_map, List.map_map]
  exact toList_map h

/-- A list of sorted values is read as it is. -/
theorem toList_ok_sorted {items : List Json} (h : ∀ v ∈ items, v.sorted = v) :
    (Json.arr items).sorted.toList .ok = .ok items := by
  have hread : (Json.arr (items.map id)).sorted.toList .ok = .ok items :=
    toList_sorted_map id fun v hv => congrArg Except.ok (h v hv)
  rwa [List.map_id] at hread

theorem toList_sorted_ofTexts (ts : List Text) : (ofTexts ts).sorted.toList toText = .ok ts :=
  toList_sorted_map .str fun _ _ => rfl

end Json

/-! ### Reading a record -/

namespace Layout

variable {α : Type} (l : Layout α)

/-- What an entry does to a draft. An absent one leaves it alone. -/
def Puts (key : String) (value : Option Json) (a b : α) : Prop :=
  match value with
  | some v => l.put key v a = .ok b
  | none => a = b

/-- A walk over entries that makes one draft of another. -/
inductive Fills : List (String × Option Json) → α → α → Prop
  | nil (a : α) : Fills [] a a
  | cons {key : String} {value : Option Json} {entries : List (String × Option Json)} {a b c : α}
    (hput : l.Puts key value a b) (hrest : Fills entries b c) : Fills ((key, value) :: entries) a c

variable {l}

theorem find?_toList {fields : List String} {key : String} (h : key ∈ fields) :
    fields.find? (·.toList = key.toList) = some key := by
  induction fields with
  | nil => exact absurd h List.not_mem_nil
  | cons field fields ih =>
    by_cases heq : field = key
    · rw [heq]
      exact List.find?_cons_of_pos (decide_eq_true rfl)
    · -- Fields of different names do not have the same letters.
      have hne : field.toList ≠ key.toList := fun hl => heq (String.toList_inj.1 hl)
      rw [List.find?_cons_of_neg (by simpa using hne)]
      exact ih ((List.mem_cons.1 h).resolve_left (Ne.symm heq))

theorem field?_of_mem {key : String} (h : key ∈ l.fields) : l.field? key.toList = some key := by
  rw [field?, find?_toList h]
  rfl

theorem putField_of_put {key : String} {v : Json} {a b : α} {seen : List String}
    (hknown : key ∈ l.fields) (hnew : key ∉ seen) (hput : l.put key v a = .ok b) :
    l.putField (a, seen) (key.toList, v) = .ok (b, key :: seen) := by
  have hfresh : seen.contains key = false := by
    rw [List.contains_eq_mem, decide_eq_false_iff_not]
    exact hnew
  simp only [putField, field?_of_mem hknown, hfresh, hput]
  rfl

/-- The reader walks over the entries that are present, and has seen all of
    them in the end. -/
theorem Fills.foldlM_putField {entries : List (String × Option Json)} {a b : α}
    (h : l.Fills entries a b) (hknown : ∀ e ∈ entries, e.1 ∈ l.fields)
    (hnodup : (entries.map Prod.fst).Nodup) {seen : List String}
    (hnew : ∀ e ∈ entries, e.1 ∉ seen) :
    ∃ seen', (entries.filterMap fun e => e.2.map (e.1.toList, ·)).foldlM l.putField (a, seen)
        = .ok (b, seen') ∧
      ∀ field, (field ∈ seen ∨ ∃ v, (field, some v) ∈ entries) → field ∈ seen' := by
  induction h generalizing seen with
  | nil a =>
    refine ⟨seen, rfl, fun field hf => hf.resolve_right ?_⟩
    rintro ⟨v, hv⟩
    exact absurd hv List.not_mem_nil
  | @cons key value entries a b c hput hrest ih =>
    have hknown' : ∀ e ∈ entries, e.1 ∈ l.fields := fun e he =>
      hknown e (List.mem_cons_of_mem _ he)
    have hnew' : ∀ e ∈ entries, e.1 ∉ seen := fun e he => hnew e (List.mem_cons_of_mem _ he)
    rw [List.map_cons, List.nodup_cons] at hnodup
    cases value with
    | none =>
      have hsame : a = b := hput
      rcases ih hknown' hnodup.2 hnew' with ⟨seen', hfold, hseen⟩
      refine ⟨seen', hsame ▸ hfold, fun field hf => hseen field (hf.imp_right ?_)⟩
      rintro ⟨v, hv⟩
      exact ⟨v, (List.mem_cons.1 hv).resolve_left fun heq => nomatch congrArg Prod.snd heq⟩
    | some v =>
      -- The key is marked as seen, and no later entry has it.
      have hnew'' : ∀ e ∈ entries, e.1 ∉ key :: seen := by
        intro e he hmem
        rcases List.mem_cons.1 hmem with heq | hmem
        · exact hnodup.1 (List.mem_map.2 ⟨e, he, heq⟩)
        · exact hnew' e he hmem
      rcases ih hknown' hnodup.2 hnew'' with ⟨seen', hfold, hseen⟩
      refine ⟨seen', ?_, fun field hf => hseen field ?_⟩
      · change ((key.toList, v) :: _).foldlM l.putField (a, seen) = _
        rw [List.foldlM_cons, putField_of_put (hknown _ List.mem_cons_self)
          (hnew _ List.mem_cons_self) hput]
        exact hfold
      · rcases hf with hf | ⟨w, hw⟩
        · exact Or.inl (List.mem_cons_of_mem _ hf)
        · rcases List.mem_cons.1 hw with heq | hw
          · have hkey : field = key := congrArg Prod.fst heq
            exact Or.inl (hkey ▸ List.mem_cons_self)
          · exact Or.inr ⟨w, hw⟩

/-- A record is read back from its entries. -/
theorem Fills.decode {entries : List (String × Option Json)} {blank a : α}
    (h : l.Fills entries blank a) (hknown : ∀ e ∈ entries, e.1 ∈ l.fields)
    (hnodup : (entries.map Prod.fst).Nodup)
    (hrequired : ∀ field ∈ l.required, ∃ v, (field, some v) ∈ entries) :
    l.decode blank (Json.record entries) = .ok a := by
  rcases h.foldlM_putField hknown hnodup (fun _ _ => List.not_mem_nil) with ⟨seen, hfold, hseen⟩
  have hfind : l.required.find? (!seen.contains ·) = none := by
    refine List.find?_eq_none.2 fun field hf => ?_
    rw [List.contains_eq_mem, decide_eq_true (hseen field (Or.inr (hrequired field hf)))]
    decide
  rw [Json.record_eq, Layout.decode, decodeFields, hfold]
  simp only [bind, Except.bind, hfind]

/-- A record whose objects are sorted is read back, if a walk over its entries
    in the order of their keys makes it of the blank record. -/
theorem decode_sorted_record (entries' : List (String × Option Json))
    {entries : List (String × Option Json)} {blank a : α} (hperm : entries'.Perm entries)
    (hkeys : (entries'.map Prod.fst).Pairwise fun k k' => k.toList < k'.toList)
    (hfills : l.Fills (entries'.map fun e => (e.1, e.2.map Json.sorted)) blank a)
    (hknown : ∀ e ∈ entries', e.1 ∈ l.fields)
    (hrequired : ∀ field ∈ l.required, ∃ v, (field, some v) ∈ entries') :
    l.decode blank (Json.record entries).sorted = .ok a := by
  rw [Json.sorted_record hperm hkeys]
  refine hfills.decode ?_ ?_ fun field hf => ?_
  · intro e he
    rcases List.mem_map.1 he with ⟨e', he', rfl⟩
    exact hknown e' he'
  · -- Keys that increase are distinct, so no field is given twice.
    have hnodup : (entries'.map Prod.fst).Nodup :=
      hkeys.imp fun {k k'} hlt (heq : k = k') => List.lt_irrefl k'.toList (heq ▸ hlt)
    rw [List.map_map]
    exact hnodup
  · rcases hrequired field hf with ⟨v, hv⟩
    exact ⟨v.sorted, List.mem_map.2 ⟨_, hv, rfl⟩⟩

section Entries

variable {β : Type} {key : String} {a : α}

/-- A field that is always there is put as it should be if its value is read
    back. -/
theorem puts_some {read : Json → Decoded β} (set : β → α)
    (hput : ∀ v, l.put key v a = read v >>= fun x => .ok (set x)) {v : Json} {x : β}
    (hx : read v.sorted = .ok x) : l.Puts key ((some v).map Json.sorted) a (set x) := by
  change l.put key v.sorted a = .ok (set x)
  rw [hput, hx]
  rfl

/-- A field for an optional value is put as it should be if a value that is
    there is read back, and one that is not there is the default. -/
theorem puts_map {read : Json → Decoded (Option β)} (set : Option β → α)
    (hput : ∀ v, l.put key v a = read v >>= fun x => .ok (set x)) (hnone : a = set none)
    {encode : β → Json} {x : Option β} (hx : ∀ b ∈ x, read (encode b).sorted = .ok (some b)) :
    l.Puts key ((x.map encode).map Json.sorted) a (set x) := by
  cases x with
  | none => exact hnone
  | some b =>
    change l.put key (encode b).sorted a = .ok (set (some b))
    rw [hput, hx b rfl]
    rfl

/-- A field for a list is put as it should be if the list is read back, and the
    empty list is the default. -/
theorem puts_unlessEmpty {read : Json → Decoded (List β)} (set : List β → α)
    (hput : ∀ v, l.put key v a = read v >>= fun xs => .ok (set xs)) (hnil : a = set [])
    {items : List Json} {xs : List β} (hempty : items = [] → xs = [])
    (hxs : read (Json.arr items).sorted = .ok xs) :
    l.Puts key ((Json.unlessEmpty items).map Json.sorted) a (set xs) := by
  cases items with
  | nil =>
    rw [hempty rfl]
    exact hnil
  | cons v vs =>
    change l.put key (Json.arr (v :: vs)).sorted a = .ok (set xs)
    rw [hput, hxs]
    rfl

end Entries

/-! ### What is read -/

theorem foldlM_preserves {β : Type} {P : α → Prop} {f : α → β → Decoded α} {xs : List β}
    (hf : ∀ x ∈ xs, ∀ a b, P a → f a x = .ok b → P b) {a b : α} (ha : P a)
    (h : xs.foldlM f a = .ok b) : P b := by
  induction xs generalizing a with
  | nil =>
    cases h
    exact ha
  | cons x xs ih =>
    rw [List.foldlM_cons] at h
    rcases Decoded.bind_eq_ok h with ⟨c, hstep, hrest⟩
    exact ih (fun y hy => hf y (List.mem_cons_of_mem x hy)) (hf x List.mem_cons_self a c ha hstep)
      hrest

theorem putField_preserves {P : α → Prop} {entry : Text × Json} {a b : α} {seen seen' : List String}
    (hput : ∀ field c, l.put field entry.2 a = .ok c → P c) (ha : P a)
    (h : l.putField (a, seen) entry = .ok (b, seen')) : P b := by
  -- A field that is not known is passed over, and one that was seen before is an
  -- error, so only the last case changes anything.
  unfold putField at h
  split at h
  · rcases Decoded.map_eq_ok h with ⟨_, _, heq⟩
    cases heq
    exact ha
  · split at h
    · exact nomatch h
    · rcases Decoded.map_eq_ok h with ⟨c, hok, heq⟩
      cases heq
      exact hput _ _ hok

/-- What holds of the blank record, and is kept by putting a part of a value
    into any field, holds of the record that is read. -/
theorem decode_induction {P : α → Prop} {blank a : α} {v : Json} (hblank : P blank)
    (hput : ∀ field, ∀ w ∈ v.parts, ∀ b c, P b → l.put field w b = .ok c → P c)
    (h : l.decode blank v = .ok a) : P a := by
  unfold Layout.decode at h
  split at h
  -- The draft of an object is kept with the fields that were seen.
  · rename_i fields
    rcases Decoded.bind_eq_ok h with ⟨⟨draft, seen⟩, hfold, hrest⟩
    have hdraft : P draft := by
      refine foldlM_preserves (P := fun draft => P draft.1) ?_ hblank hfold
      intro entry he b c hb hstep
      have hpart : entry.2 ∈ (Json.obj fields).parts := List.mem_map_of_mem he
      exact putField_preserves (fun field d hok => hput field _ hpart _ d hb hok) hb hstep
    dsimp only at hrest
    split at hrest
    · exact nomatch hrest
    · cases hrest
      exact hdraft
  -- The items of a list are put as the fields that they stand for.
  · rename_i items
    rcases Decoded.bind_eq_ok h with ⟨draft, hfold, hrest⟩
    have hdraft : P draft := by
      refine foldlM_preserves ?_ hblank hfold
      intro entry he b c hb hstep
      exact hput entry.1 entry.2 (List.of_mem_zip he).2 b c hb hstep
    split at hrest
    · exact nomatch hrest
    · split at hrest
      · exact nomatch hrest
      · cases hrest
        exact hdraft
  · exact nomatch h

end Layout

end Flowchart
