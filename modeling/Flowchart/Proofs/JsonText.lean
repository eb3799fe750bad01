import Flowchart.Json.Printer
import Flowchart.Json.Reader
import Flowchart.Proofs.Numerals

/-!
# Printed JSON Read Back

A printed value is read back as the value with its objects sorted. Both halves
of the reader are followed. The text of a value is cut into the tokens of the
value, whatever the indentation, as long as what comes next does not go on with
a number or a word. And the machine that is fed these tokens, in a state that
expects a value, comes to the state in which it has just finished that value.

The machine keeps the containers that are open as a stack of limited height. So
the predicate on values that all this rests on, `Json.IsReadable`, has the room
that is left as a parameter. It also asks for every number to be one that is
read back.

## Main definitions

* `Json.Stops`: What can follow a number or a word.
* `Json.IsReadable`: A value that can be read back where there is some room.
* `Json.stream`: The tokens of a value.
* `Json.Tokenizes`: A text that is cut into tokens, whatever follows.
* `Json.Finishes`: A value that the machine reads from its tokens.

## Theorems

* `Json.tokenizes_indentedAt`: Printed values are cut into their tokens.
* `Json.IsReadable.finishes`: The machine finishes a value that it is fed.
* `Json.parse?_indented`: Printed values are read back.
-/

namespace Flowchart

namespace Json

/-! ### Strings -/

theorem hexNumber?_hexPair :
    ∀ n < 0x20, hexNumber? ('0' :: '0' :: hexPair n) = some n := by
  decide

/-- A control is read back from its escape. -/
theorem numberedEscape?_hexPair {n : Nat} (h : n < 0x20) (rest : Text) :
    numberedEscape? ('0' :: '0' :: hexPair n ++ rest) = some (Char.ofNat n, rest) := by
  have hlow : isLowHalf n = false := by
    rw [isLowHalf, Bool.and_eq_false_iff, decide_eq_false_iff_not]
    exact Or.inl (by omega)
  have hhigh : isHighHalf n = false := by
    rw [isHighHalf, Bool.and_eq_false_iff, decide_eq_false_iff_not]
    exact Or.inl (by omega)
  have hnumber := hexNumber?_hexPair n h
  unfold hexPair at hnumber ⊢
  simp only [List.cons_append, List.nil_append, numberedEscape?, hnumber, bind, Option.bind, hlow,
    hhigh]
  rfl

/-- One character is read back from what it is written as. -/
theorem stringBody_escapedChar (c : Char) (rest : Text) :
    stringBody (escapedChar c ++ rest) = (stringBody rest).map fun (s, r) => (c :: s, r) := by
  unfold escapedChar
  split
  · simp [stringBody, shortEscape?]
  · simp [stringBody, shortEscape?]
  · simp [stringBody, shortEscape?]
  · simp [stringBody, shortEscape?]
  · simp [stringBody, shortEscape?]
  · simp [stringBody, shortEscape?]
  · simp [stringBody, shortEscape?]
  -- No short escape: a control is written by its number, anything else as it is.
  · rename_i hquote hbackslash _ _ _ _ _
    by_cases hcontrol : c.toNat < 0x20
    · have hescape := numberedEscape?_hexPair hcontrol rest
      rw [Char.ofNat_toNat, List.cons_append, List.cons_append] at hescape
      have htext : ['\\', 'u', '0', '0'] ++ hexPair c.toNat ++ rest
          = '\\' :: 'u' :: '0' :: '0' :: (hexPair c.toNat ++ rest) := rfl
      rw [if_pos hcontrol, htext, stringBody]
      split
      · rename_i hnone
        rw [hescape] at hnone
        exact absurd hnone (by simp only [reduceCtorEq, not_false_eq_true])
      · rename_i d rest' hsome
        rw [hescape, Option.some.injEq, Prod.mk.injEq] at hsome
        rw [hsome.1, hsome.2]
    · have hplain : (decide (c.toNat < 32) || decide (c = '\\')) = false := by
        rw [decide_eq_false hcontrol, decide_eq_false hbackslash]
        rfl
      rw [if_neg hcontrol, List.singleton_append, stringBody]
      · rw [hplain, if_neg (by decide)]
      · exact hquote
      · exact fun _ hc _ => hbackslash hc
      · exact fun _ _ hc _ => hbackslash hc

theorem stringBody_flatMap (t rest : Text) :
    stringBody (t.flatMap escapedChar ++ '"' :: rest) = some (t, rest) := by
  induction t with
  | nil => simp [stringBody]
  | cons c t ih =>
    rw [List.flatMap_cons, List.append_assoc, stringBody_escapedChar, ih]
    rfl

/-! ### Single tokens -/

/-- Nothing that would go on a number or a word: the text is empty or starts with
    some other character. -/
def Stops (rest : Text) : Prop :=
  ∀ c, rest.head? = some c → isNumberChar c = false ∧ c.isAlpha = false

theorem stops_nil : Stops [] := fun c hc =>
  absurd hc (by simp only [List.head?_nil, reduceCtorEq, not_false_eq_true])

theorem stops_cons {c : Char} (hc : isNumberChar c = false ∧ c.isAlpha = false) (rest : Text) :
    Stops (c :: rest) := by
  intro d hd
  rw [List.head?_cons, Option.some.injEq] at hd
  rw [← hd]
  exact hc

@[simp] theorem tokens_nil : tokens [] = some [] := by
  rw [tokens]

/-- Blanks between tokens are passed over. -/
theorem tokens_gap {c : Char} (hc : isGap c = true) (rest : Text) :
    tokens (c :: rest) = tokens rest := by
  rw [tokens, if_pos hc]

theorem tokens_newLine (level : Nat) (rest : Text) :
    tokens (newLine level ++ rest) = tokens rest := by
  have hspaces : ∀ n, tokens (List.replicate n ' ' ++ rest) = tokens rest := by
    intro n
    induction n with
    | zero => rfl
    | succ n ih => rw [List.replicate_succ, List.cons_append, tokens_gap rfl, ih]
  rw [newLine, List.cons_append, tokens_gap rfl, hspaces]

/-- A character that is a token by itself is of no other class. -/
theorem classes_of_punctuation? {c : Char} {token : Token} (h : punctuation? c = some token) :
    (isGap c = false ∧ c ≠ '"') ∧ isNumberChar c = false ∧ c.isAlpha = false := by
  unfold punctuation? at h
  split at h
  all_goals first
    | exact absurd h (by simp only [reduceCtorEq, not_false_eq_true])
    | decide

theorem tokens_punctuation {c : Char} {token : Token} (h : punctuation? c = some token)
    (rest : Text) : tokens (c :: rest) = (tokens rest).map (token :: ·) := by
  rcases classes_of_punctuation? h with ⟨⟨hgap, hquote⟩, hnumber, halpha⟩
  rw [tokens, hgap, if_neg (by decide), if_neg hquote, hnumber, Bool.false_and,
    if_neg (by decide), halpha, if_neg (by decide), h]

theorem tokens_string (t rest : Text) :
    tokens (stringText t ++ rest) = (tokens rest).map (.string t :: ·) := by
  have htext : stringText t ++ rest = '"' :: (t.flatMap escapedChar ++ '"' :: rest) := by
    rw [stringText, List.append_assoc, List.cons_append]
    rfl
  rw [htext, tokens, if_neg (by decide), if_pos rfl]
  split
  · rename_i hnone
    rw [stringBody_flatMap] at hnone
    exact absurd hnone (by simp only [reduceCtorEq, not_false_eq_true])
  · rename_i s r hsome
    rw [stringBody_flatMap, Option.some.injEq, Prod.mk.injEq] at hsome
    rw [← hsome.1, ← hsome.2]

/-- What a number or a word is made of begins no other token. -/
theorem not_isGap {c : Char} (h : isNumberChar c = true ∨ c.isAlpha = true) :
    isGap c = false ∧ c ≠ '"' := by
  refine ⟨?_, ?_⟩
  · by_contra hgap
    rw [Bool.not_eq_false, isGap, Bool.or_eq_true, Bool.or_eq_true, Bool.or_eq_true, beq_iff_eq,
      beq_iff_eq, beq_iff_eq, beq_iff_eq] at hgap
    rcases hgap with ((rfl | rfl) | rfl) | rfl <;> exact absurd h (by decide)
  · rintro rfl
    exact absurd h (by decide)

/-- A number is taken up to where it ends. -/
theorem tokens_number {t rest : Text} {v : Json}
    (h : (Numeral.ofText? t).bind Numeral.value? = some v) (hrest : Stops rest) :
    tokens (t ++ rest) = (tokens rest).map (.scalar v :: ·) := by
  rcases Option.bind_eq_some_iff.1 h with ⟨n, hn, -⟩
  rcases Numeral.isNumberChar_of_ofText? hn with ⟨hall, c, r, rfl, halpha⟩
  have hc : isNumberChar c = true := hall c List.mem_cons_self
  rcases not_isGap (Or.inl hc) with ⟨hgap, hquote⟩
  rcases Text.takeWhile_append_of_ends (fun d hd => hall d (List.mem_cons_of_mem c hd))
    (fun d hd => (hrest d hd).1) with ⟨htake, hdrop⟩
  rw [List.cons_append, tokens, hgap, if_neg (by decide), if_neg hquote, hc, halpha,
    if_pos (by decide), htake, hdrop, h]

/-- So is a word. -/
theorem tokens_word {c : Char} {r rest : Text} {v : Json} (hall : (c :: r).all Char.isAlpha = true)
    (h : wordValue? (c :: r) = some v) (hrest : Stops rest) :
    tokens (c :: r ++ rest) = (tokens rest).map (.scalar v :: ·) := by
  have hletters : ∀ d ∈ c :: r, d.isAlpha = true := List.all_eq_true.1 hall
  have hc : c.isAlpha = true := hletters c List.mem_cons_self
  rcases not_isGap (Or.inr hc) with ⟨hgap, hquote⟩
  rcases Text.takeWhile_append_of_ends (fun d hd => hletters d (List.mem_cons_of_mem c hd))
    (fun d hd => (hrest d hd).2) with ⟨htake, hdrop⟩
  -- A letter that numbers can hold does not begin one.
  rw [List.cons_append, tokens, hgap, if_neg (by decide), if_neg hquote, hc, Bool.not_true,
    Bool.and_false, if_neg (by decide), if_pos rfl, htake, hdrop, h]

/-! ### Values -/

/-- A value that can be read back where so many containers may be opened: it is
    not nested deeper, and each of its numbers is read back. -/
inductive IsReadable : Nat → Json → Prop
  | null (room : Nat) : IsReadable room .null
  | bool (room : Nat) (b : Bool) : IsReadable room (.bool b)
  | int (room : Nat) {i : Int} (h : fitsWord i = true) : IsReadable room (.int i)
  | float (room : Nat) {x : Binary64} (h : x.ReadsBack) : IsReadable room (.float x)
  | str (room : Nat) (t : Text) : IsReadable room (.str t)
  | arr {room : Nat} {items : List Json} (h : ∀ v ∈ items, IsReadable room v) :
    IsReadable (room + 1) (.arr items)
  | obj {room : Nat} {fields : List (Text × Json)} (h : ∀ f ∈ fields, IsReadable room f.2) :
    IsReadable (room + 1) (.obj fields)

mutual

/-- The tokens of a value. -/
def stream : Json → List Token
  | .arr items => .openArray :: streamItems items ++ [.closeArray]
  | .obj fields => .openObject :: streamFields fields ++ [.closeObject]
  | .str t => [.string t]
  | v => [.scalar v]

/-- The tokens of items, with commas between them. -/
def streamItems : List Json → List Token
  | [] => []
  | [v] => stream v
  | v :: vs => stream v ++ .comma :: streamItems vs

/-- The tokens of fields, with commas between them. -/
def streamFields : List (Text × Json) → List Token
  | [] => []
  | [(k, v)] => .string k :: .colon :: stream v
  | (k, v) :: fields => .string k :: .colon :: stream v ++ .comma :: streamFields fields

end

/-- A text is cut into given tokens, whatever follows that stops it. -/
def Tokenizes (t : Text) (ts : List Token) : Prop :=
  ∀ rest, Stops rest → tokens (t ++ rest) = (tokens rest).map (ts ++ ·)

/-- A character that is a token by itself may follow. -/
theorem Tokenizes.append_cons {t : Text} {ts : List Token} (h : Tokenizes t ts) {c : Char}
    {token : Token} (hc : punctuation? c = some token) (rest : Text) :
    tokens (t ++ c :: rest) = (tokens rest).map (ts ++ token :: ·) := by
  rw [h _ (stops_cons (classes_of_punctuation? hc).2 rest), tokens_punctuation hc, Option.map_map]
  rfl

/-- And so may a new line. -/
theorem Tokenizes.append_newLine {t : Text} {ts : List Token} (h : Tokenizes t ts) (level : Nat)
    (rest : Text) : tokens (t ++ (newLine level ++ rest)) = (tokens rest).map (ts ++ ·) := by
  have hstops : Stops (newLine level ++ rest) := by
    rw [newLine, List.cons_append]
    exact stops_cons (by decide) _
  rw [h _ hstops, tokens_newLine]

theorem tokenizes_indentedItems {level : Nat} {vs : List Json}
    (h : ∀ v ∈ vs, Tokenizes (indentedAt level v) (stream v)) :
    Tokenizes (indentedItems level vs) (streamItems vs) := by
  induction vs with
  | nil =>
    intro rest _
    simp [indentedItems, streamItems]
  | cons v vs ih =>
    have hv := h v List.mem_cons_self
    -- A comma comes behind every item but the last.
    rcases vs with _ | ⟨w, vs⟩
    · intro rest hrest
      rw [indentedItems, streamItems, List.append_assoc, tokens_newLine]
      exact hv rest hrest
    · intro rest hrest
      have hvs := ih fun u hu => h u (List.mem_cons_of_mem v hu)
      have htext : indentedItems level (v :: w :: vs) ++ rest
          = newLine level ++ (indentedAt level v ++ ',' :: (indentedItems level (w :: vs) ++ rest)) := by
        simp [indentedItems]
      rw [htext, tokens_newLine, hv.append_cons rfl, hvs rest hrest, Option.map_map]
      simp [streamItems, Function.comp_def]

theorem tokenizes_indentedFields {level : Nat} {fs : List (Text × Json)}
    (h : ∀ f ∈ fs, Tokenizes (indentedAt level f.2) (stream f.2)) :
    Tokenizes (indentedFields level fs) (streamFields fs) := by
  -- What stands before the value of a field, on its own line.
  have hfield : ∀ (k : Text) (rest : Text),
      tokens (newLine level ++ (stringText k ++ ':' :: ' ' :: rest))
        = (tokens rest).map (.string k :: .colon :: ·) := by
    intro k rest
    rw [tokens_newLine, tokens_string, tokens_punctuation rfl, tokens_gap rfl, Option.map_map]
    rfl
  induction fs with
  | nil =>
    intro rest _
    simp [indentedFields, streamFields]
  | cons f fs ih =>
    rcases f with ⟨k, v⟩
    have hv : Tokenizes (indentedAt level v) (stream v) := h (k, v) List.mem_cons_self
    rcases fs with _ | ⟨f, fs⟩
    · intro rest hrest
      have htext : indentedFields level [(k, v)] ++ rest
          = newLine level ++ (stringText k ++ ':' :: ' ' :: (indentedAt level v ++ rest)) := by
        simp [indentedFields]
      rw [htext, hfield, hv rest hrest, Option.map_map]
      simp [streamFields, Function.comp_def]
    · intro rest hrest
      have hfs := ih fun g hg => h g (List.mem_cons_of_mem (k, v) hg)
      have htext : indentedFields level ((k, v) :: f :: fs) ++ rest
          = newLine level ++ (stringText k ++ ':' :: ' ' ::
            (indentedAt level v ++ ',' :: (indentedFields level (f :: fs) ++ rest))) := by
        simp [indentedFields]
      rw [htext, hfield, hv.append_cons rfl, hfs rest hrest, Option.map_map, Option.map_map]
      simp [streamFields, Function.comp_def]

/-- A printed value is cut into the tokens of the value, at every indentation. -/
theorem tokenizes_indentedAt {room : Nat} {v : Json} (h : v.IsReadable room) (level : Nat) :
    Tokenizes (indentedAt level v) (stream v) := by
  -- Only here is it used that numbers are read back; the room does not matter.
  induction h generalizing level with
  | null room => exact fun rest => tokens_word (by decide) rfl
  | bool room b =>
    cases b with
    | true => exact fun rest => tokens_word (by decide) rfl
    | false => exact fun rest => tokens_word (by decide) rfl
  | int room h => exact fun rest => tokens_number (Numeral.value?_intText h)
  | float room h => exact fun rest => tokens_number h
  | str room t => exact fun rest _ => tokens_string t rest
  | @arr room items h ih =>
    intro rest hrest
    rcases items with _ | ⟨v, vs⟩
    · have htext : indentedAt level (.arr []) ++ rest = '[' :: ']' :: rest := rfl
      rw [htext, tokens_punctuation rfl, tokens_punctuation rfl, Option.map_map]
      rfl
    · have hitems := tokenizes_indentedItems fun w hw => ih w hw (level + 1)
      have htext : indentedAt level (.arr (v :: vs)) ++ rest
          = '[' :: (indentedItems (level + 1) (v :: vs) ++ (newLine level ++ ']' :: rest)) := by
        simp [indentedAt]
      rw [htext, tokens_punctuation rfl, hitems.append_newLine, tokens_punctuation rfl,
        Option.map_map, Option.map_map]
      simp [stream, Function.comp_def]
  | @obj room fields h ih =>
    intro rest hrest
    rcases fields with _ | ⟨f, fs⟩
    · have htext : indentedAt level (.obj []) ++ rest = '\x7b' :: '\x7d' :: rest := rfl
      rw [htext, tokens_punctuation rfl, tokens_punctuation rfl, Option.map_map]
      rfl
    · have hfields := tokenizes_indentedFields fun g hg => ih g hg (level + 1)
      have htext : indentedAt level (.obj (f :: fs)) ++ rest
          = '\x7b' :: (indentedFields (level + 1) (f :: fs) ++ (newLine level ++ '\x7d' :: rest)) := by
        simp [indentedAt]
      rw [htext, tokens_punctuation rfl, hfields.append_newLine, tokens_punctuation rfl,
        Option.map_map, Option.map_map]
      simp [stream, Function.comp_def]

/-! ### The machine -/

/-- The machine in a state that expects a value, fed the tokens of a given one,
    has just finished it. -/
def Finishes (v : Json) (outer : List Frame) : Prop :=
  ∀ rest : List Token, (stream v ++ rest).foldlM Reader.step (.value outer)
    = rest.foldlM Reader.step (.after v.sorted outer)

/-- Where a list may be closed, its first item may come just as well. -/
theorem foldlM_itemOrClose (v : Json) (outer : List Frame) (rest : List Token) :
    (stream v ++ rest).foldlM Reader.step (.itemOrClose outer)
      = (stream v ++ rest).foldlM Reader.step (.value (.array [] :: outer)) := by
  cases v <;> rfl

/-- Items are gathered, and the bracket makes them a list. -/
theorem foldlM_streamItems {outer : List Frame} {v : Json} {vs : List Json}
    (h : ∀ w ∈ v :: vs, ∀ done, Finishes w (.array done :: outer)) (done : List Json)
    (rest : List Token) :
    (streamItems (v :: vs) ++ .closeArray :: rest).foldlM Reader.step (.value (.array done :: outer))
      = rest.foldlM Reader.step (.after (.arr (done.reverse ++ sortedItems (v :: vs))) outer) := by
  induction vs generalizing v done with
  | nil =>
    have hv := h v List.mem_cons_self done
    rw [streamItems, hv, List.foldlM_cons]
    simp [Reader.step, sortedItems]
  | cons w vs ih =>
    have hv := h v List.mem_cons_self done
    -- The first item is done, so the rest is read with one item more behind it.
    have hvs := ih (fun u hu => h u (List.mem_cons_of_mem v hu)) (v.sorted :: done)
    have htokens : streamItems (v :: w :: vs) ++ .closeArray :: rest
        = stream v ++ .comma :: (streamItems (w :: vs) ++ .closeArray :: rest) := by
      simp [streamItems]
    rw [htokens, hv, List.foldlM_cons]
    simp only [Reader.step, bind, Option.bind]
    rw [hvs]
    simp [sortedItems]

/-- So are fields, in a state that expects a key, and the brace makes them an
    object. -/
theorem foldlM_streamFields {outer : List Frame} {f : Text × Json} {fs : List (Text × Json)}
    (h : ∀ g ∈ f :: fs, ∀ done k, Finishes g.2 (.object done k :: outer))
    (done : List (Text × Json)) {s : Reader}
    (hs : ∀ k, s.step (.string k) = some (.colon done k outer)) (rest : List Token) :
    (streamFields (f :: fs) ++ .closeObject :: rest).foldlM Reader.step s
      = rest.foldlM Reader.step
        (.after (.obj (sortFields (done.reverse ++ sortedValues (f :: fs)))) outer) := by
  -- The first key comes where the object may be closed too, later ones where it may not.
  induction fs generalizing f done s with
  | nil =>
    rcases f with ⟨k, v⟩
    have hv := h (k, v) List.mem_cons_self done k
    rw [streamFields, List.cons_append, List.cons_append, List.foldlM_cons, hs, Option.bind_eq_bind,
      Option.bind_some, List.foldlM_cons]
    simp only [Reader.step, bind, Option.bind]
    rw [hv, List.foldlM_cons]
    simp [Reader.step, sortedValues]
  | cons g fs ih =>
    rcases f with ⟨k, v⟩
    have hv := h (k, v) List.mem_cons_self done k
    have hfs := ih (fun u hu => h u (List.mem_cons_of_mem _ hu)) ((k, v.sorted) :: done)
      (s := .key ((k, v.sorted) :: done) outer) (fun _ => rfl)
    have htokens : streamFields ((k, v) :: g :: fs) ++ .closeObject :: rest
        = .string k :: .colon ::
          (stream v ++ .comma :: (streamFields (g :: fs) ++ .closeObject :: rest)) := by
      simp [streamFields]
    rw [htokens, List.foldlM_cons, hs, Option.bind_eq_bind, Option.bind_some, List.foldlM_cons]
    simp only [Reader.step, bind, Option.bind]
    rw [hv, List.foldlM_cons]
    simp only [Reader.step, bind, Option.bind]
    rw [hfs]
    simp [sortedValues]

/-- A value that can be read back is finished where there is room for it. -/
theorem IsReadable.finishes {room : Nat} {v : Json} (h : v.IsReadable room) {outer : List Frame}
    (hroom : outer.length + room ≤ maxDepth) : Finishes v outer := by
  -- The containers that are open and those to come fit the stack together.
  induction h generalizing outer with
  | null room => exact fun _ => rfl
  | bool room b => exact fun _ => rfl
  | int room h => exact fun _ => rfl
  | float room h => exact fun _ => rfl
  | str room t => exact fun _ => rfl
  | @arr room items h ih =>
    intro rest
    have hopen : outer.length < maxDepth := by omega
    have hinner : ∀ w ∈ items, ∀ done, Finishes w (.array done :: outer) := fun w hw done =>
      ih w hw (by rw [List.length_cons]; omega)
    rw [stream, List.cons_append, List.cons_append, List.foldlM_cons]
    simp only [Reader.step, Reader.begin, if_pos hopen, bind, Option.bind]
    rcases items with _ | ⟨v, vs⟩
    · rfl
    · have hfirst : ∀ ts, (streamItems (v :: vs) ++ ts).foldlM Reader.step (.itemOrClose outer)
          = (streamItems (v :: vs) ++ ts).foldlM Reader.step (.value (.array [] :: outer)) := by
        intro ts
        rcases vs with _ | ⟨w, vs⟩
        · exact foldlM_itemOrClose v outer ts
        · have hcut : streamItems (v :: w :: vs) ++ ts
              = stream v ++ (.comma :: streamItems (w :: vs) ++ ts) := by
            simp [streamItems]
          rw [hcut, foldlM_itemOrClose]
      rw [List.append_assoc, List.singleton_append, hfirst, foldlM_streamItems hinner []]
      rfl
  | @obj room fields h ih =>
    intro rest
    have hopen : outer.length < maxDepth := by omega
    have hinner : ∀ g ∈ fields, ∀ done k, Finishes g.2 (.object done k :: outer) :=
      fun g hg done k => ih g hg (by rw [List.length_cons]; omega)
    rw [stream, List.cons_append, List.cons_append, List.foldlM_cons]
    simp only [Reader.step, Reader.begin, if_pos hopen, bind, Option.bind]
    rcases fields with _ | ⟨f, fs⟩
    · rfl
    · rw [List.append_assoc, List.singleton_append,
        foldlM_streamFields hinner [] (s := .keyOrClose outer) fun _ => rfl]
      rfl

/-- A printed value is read back with its objects sorted. -/
theorem parse?_indented {v : Json} (h : v.IsReadable maxDepth) :
    parse? v.indented = some v.sorted := by
  have htokens := tokenizes_indentedAt h 0 [] stops_nil
  rw [List.append_nil, tokens_nil, Option.map_some, List.append_nil] at htokens
  have hfinishes : Finishes v [] := h.finishes (by rw [List.length_nil, Nat.zero_add])
  have hfinish := hfinishes []
  rw [List.append_nil, List.foldlM_nil] at hfinish
  unfold parse? indented
  rw [htokens]
  simp only [bind, Option.bind]
  rw [hfinish]
  rfl

end Json

end Flowchart
