import Flowchart.Proofs.JsonText

/-!
# Tails of JSON Objects

An object in JSON that has lost its beginning is not JSON any more, and that
also holds if what is left of it starts with an opening brace. For the brace is
either inside a string or opens a container.

In a string, reading from the brace takes for strings what is between strings,
and the other way round. Both cannot succeed, since each string has to be closed.
Otherwise the machine is fed the last of the tokens that it is fed for the whole
object. It does the same with them as it does in the whole, but for the
containers that are open around, and of those there is one more at the end.

## Main definitions

* `Json.IsPiece`: A piece of a text that no brace is inside of.
* `Json.IsPassed`: What the reading of tokens passes over as one.
* `Json.Reader.within`: A state with more containers open around it.
* `Json.Reader.IsInside`: A state that the machine is not started in.

## Theorems

* `Json.not_tokens_of_stringBody`: A text is not read both inside and outside a
  string.
* `Json.isSuffix_of_tokens`: The tokens from an opening brace on are the last
  ones of the whole text.
* `Json.Reader.within_foldlM`: What is open around a value changes nothing in how
  it is read.
* `Json.parse?_eq_none_of_isSuffix`: No object is the end of another.
-/

namespace Flowchart

namespace Json

/-! ### Pieces of a text -/

/-- A piece of a text that no brace is inside of: if it has one, it is the brace. -/
def IsPiece (taken : Text) : Prop := taken ≠ [] ∧ ('\x7b' ∈ taken → taken = ['\x7b'])

theorem isPiece_singleton (c : Char) : IsPiece [c] :=
  ⟨List.cons_ne_nil _ _, fun hbrace => by rw [List.mem_singleton.1 hbrace]⟩

/-- A text that starts before a brace still does, or starts with it, when a piece is
    taken off. -/
theorem IsPiece.exists_shorter {taken rest pre r : Text} (htaken : IsPiece taken)
    (h : pre ++ '\x7b' :: r = taken ++ rest) (hpre : pre ≠ []) :
    ∃ pre', pre'.length < pre.length ∧ rest = pre' ++ '\x7b' :: r := by
  by_cases hbrace : '\x7b' ∈ taken
  · rcases pre with _ | ⟨c, pre⟩
    · exact absurd rfl hpre
    · rw [htaken.2 hbrace] at h
      cases h
      exact ⟨pre, Nat.lt_succ_self _, rfl⟩
  · rcases Text.exists_of_append_eq_front h hbrace with ⟨pre', rfl, rfl⟩
    refine ⟨pre', ?_, rfl⟩
    have hpos : 0 < taken.length := List.length_pos_iff.2 htaken.1
    rw [List.length_append]
    omega

/-! ### Strings cut at a brace -/

theorem brace_notMem_of_hexNumber? {digits : Text} {n : Nat} (h : hexNumber? digits = some n) :
    '\x7b' ∉ digits := by
  intro hmem
  rcases List.append_of_mem hmem with ⟨s, t, rfl⟩
  rw [hexNumber?, List.foldlM_append] at h
  rcases Option.bind_eq_some_iff.1 h with ⟨m, -, h⟩
  cases h

/-- An escape by number has no brace in it. -/
theorem exists_of_numberedEscape? {t rest : Text} {c : Char}
    (h : numberedEscape? t = some (c, rest)) : ∃ taken, t = taken ++ rest ∧ '\x7b' ∉ taken := by
  unfold numberedEscape? at h
  split at h
  · rename_i a b c d r
    rcases Option.bind_eq_some_iff.1 h with ⟨n, hn, h⟩
    have hfour : '\x7b' ∉ [a, b, c, d] := brace_notMem_of_hexNumber? hn
    split_ifs at h
    -- The first half of a character needs the second one right after it.
    · split at h
      · rename_i e f g k r' _
        rcases Option.bind_eq_some_iff.1 h with ⟨m, hm, h⟩
        split_ifs at h
        simp only [Option.some.injEq, Prod.mk.injEq] at h
        obtain ⟨-, rfl⟩ := h
        refine ⟨[a, b, c, d] ++ ['\\', 'u'] ++ [e, f, g, k], rfl, ?_⟩
        rw [List.mem_append, List.mem_append, not_or, not_or]
        exact ⟨⟨hfour, by decide⟩, brace_notMem_of_hexNumber? hm⟩
      · cases h
    · simp only [Option.some.injEq, Prod.mk.injEq] at h
      obtain ⟨-, rfl⟩ := h
      exact ⟨[a, b, c, d], rfl, hfour⟩
  · cases h

/-- A character that neither ends a string nor begins an escape is passed over. -/
theorem exists_stringBody_of_cons {c : Char} {t s rest : Text} (hc : c ≠ '"' ∧ c ≠ '\\')
    (h : stringBody (c :: t) = some (s, rest)) : ∃ s', stringBody t = some (s', rest) := by
  rw [stringBody] at h
  · split_ifs at h
    rcases Option.map_eq_some_iff.1 h with ⟨⟨s', r⟩, hs, heq⟩
    cases heq
    exact ⟨s', hs⟩
  · exact hc.1
  · exact fun _ hback _ => hc.2 hback
  · exact fun _ _ hback _ => hc.2 hback

theorem exists_stringBody_of_append {taken t s rest : Text}
    (htaken : ∀ c ∈ taken, c ≠ '"' ∧ c ≠ '\\') (h : stringBody (taken ++ t) = some (s, rest)) :
    ∃ s', stringBody t = some (s', rest) := by
  induction taken generalizing s with
  | nil => exact ⟨s, h⟩
  | cons c taken ih =>
    have hall := List.forall_mem_cons.1 htaken
    rcases exists_stringBody_of_cons hall.1 h with ⟨s', hs⟩
    exact ih hall.2 hs

/-- Reading a string ends at once, or it goes on after a character or an escape. -/
theorem stringBody_cases {t s rest : Text} (h : stringBody t = some (s, rest)) :
    t = '"' :: rest ∨
      ∃ taken t' s', t = taken ++ t' ∧ IsPiece taken ∧ stringBody t' = some (s', rest) := by
  -- What follows the string is the same as when it is read from there.
  have hmap : ∀ {o : Option (Text × Text)} {f : Text × Text → Text × Text},
      o.map f = some (s, rest) → (∀ read, (f read).2 = read.2) → ∃ s', o = some (s', rest) := by
    intro o f h hf
    rcases Option.map_eq_some_iff.1 h with ⟨⟨s', r'⟩, ho, heq⟩
    have hrest : r' = rest := (hf (s', r')).symm.trans (congrArg Prod.snd heq)
    exact ⟨s', by rw [ho, hrest]⟩
  unfold stringBody at h
  split at h
  · cases h
  · cases h
    exact Or.inl rfl
  · split at h
    · cases h
    · rename_i c t' hescape
      rcases hmap h fun _ => rfl with ⟨s', hs⟩
      rcases exists_of_numberedEscape? hescape with ⟨taken, rfl, hbrace⟩
      have hescaped : '\x7b' ∉ '\\' :: 'u' :: taken := by
        rw [List.mem_cons, List.mem_cons, not_or, not_or]
        exact ⟨by decide, by decide, hbrace⟩
      exact Or.inr ⟨'\\' :: 'u' :: taken, t', s', rfl,
        ⟨List.cons_ne_nil _ _, fun hmem => absurd hmem hescaped⟩, hs⟩
  · rename_i e t' _
    split at h
    · cases h
    · rename_i c hescape
      rcases hmap h fun _ => rfl with ⟨s', hs⟩
      have hescaped : '\x7b' ∉ ['\\', e] := by
        rw [List.mem_cons, List.mem_singleton, not_or]
        refine ⟨by decide, ?_⟩
        rintro rfl
        cases hescape
      exact Or.inr ⟨['\\', e], t', s', rfl,
        ⟨List.cons_ne_nil _ _, fun hmem => absurd hmem hescaped⟩, hs⟩
  · rename_i c t' _ _ _
    split_ifs at h
    rcases hmap h fun _ => rfl with ⟨s', hs⟩
    exact Or.inr ⟨[c], t', s', rfl, isPiece_singleton c, hs⟩

/-- A string that is read ends before a brace, or it can be read from the brace
    on. -/
theorem stringBody_cut {pre r s rest : Text}
    (h : stringBody (pre ++ '\x7b' :: r) = some (s, rest)) :
    (∃ pre', pre'.length < pre.length ∧ rest = pre' ++ '\x7b' :: r) ∨
      ∃ s', stringBody ('\x7b' :: r) = some (s', rest) := by
  induction hn : pre.length using Nat.strong_induction_on generalizing pre s with
  | _ n ih =>
  subst hn
  by_cases hpre : pre = []
  · rw [hpre] at h
    exact Or.inr ⟨s, h⟩
  rcases stringBody_cases h with heq | ⟨taken, t', s', heq, htaken, hs⟩
  · exact Or.inl ((isPiece_singleton '"').exists_shorter heq hpre)
  · rcases htaken.exists_shorter heq hpre with ⟨pre', hlt, rfl⟩
    rcases ih _ hlt hs rfl with ⟨pre'', hlt', hrest⟩ | hbrace
    · exact Or.inl ⟨pre'', Nat.lt_trans hlt' hlt, hrest⟩
    · exact Or.inr hbrace

/-! ### Tokens cut at a brace -/

/-- What the reading of tokens passes over as one: a blank, or a token that is no
    string. It has neither quotes nor backslashes. -/
def IsPassed (taken : Text) : Prop := IsPiece taken ∧ ∀ c ∈ taken, c ≠ '"' ∧ c ≠ '\\'

theorem isPassed_singleton {c : Char} (hc : c ≠ '"' ∧ c ≠ '\\') : IsPassed [c] :=
  ⟨isPiece_singleton c, List.forall_mem_singleton.2 hc⟩

/-- A run of a class of characters is passed over, if braces, quotes and
    backslashes are not of the class. -/
theorem isPassed_run {p : Char → Bool} {c : Char} (hc : p c = true)
    (hp : p '"' = false ∧ p '\\' = false ∧ p '\x7b' = false) (r : Text) :
    IsPassed (c :: r.takeWhile p) := by
  have hall : ∀ d ∈ c :: r.takeWhile p, p d = true :=
    List.forall_mem_cons.2 ⟨hc, fun _ hd => List.mem_takeWhile_imp hd⟩
  have hout : ∀ {a : Char}, p a = false → ∀ d ∈ c :: r.takeWhile p, d ≠ a := by
    rintro a ha d hd rfl
    exact absurd (ha.symm.trans (hall d hd)) (by decide)
  exact ⟨⟨List.cons_ne_nil _ _, fun hbrace => absurd rfl (hout hp.2.2 _ hbrace)⟩,
    fun d hd => ⟨hout hp.1 d hd, hout hp.2.1 d hd⟩⟩

/-- Reading tokens begins with a string, or with what is passed over as one. -/
theorem tokens_cases {t : Text} {ts : List Token} (h : tokens t = some ts) (ht : t ≠ []) :
    (∃ r s rest ts', t = '"' :: r ∧ stringBody r = some (s, rest) ∧
        tokens rest = some ts' ∧ ts' <:+ ts) ∨
      ∃ taken rest ts', t = taken ++ rest ∧ IsPassed taken ∧ tokens rest = some ts' ∧
        ts' <:+ ts := by
  rcases t with _ | ⟨c, r⟩
  · exact absurd rfl ht
  have hmap : ∀ {o : Option (List Token)} {token : Token},
      o.map (token :: ·) = some ts → ∃ ts', o = some ts' ∧ ts' <:+ ts := by
    intro o token ho
    rcases Option.map_eq_some_iff.1 ho with ⟨ts', hts, rfl⟩
    exact ⟨ts', hts, List.suffix_cons _ _⟩
  -- A token that is a run of a class of characters.
  have hrun : ∀ {p : Char → Bool} {token : Token}, p c = true →
      (p '"' = false ∧ p '\\' = false ∧ p '\x7b' = false) →
      (tokens (r.dropWhile p)).map (token :: ·) = some ts →
      ∃ taken rest ts', c :: r = taken ++ rest ∧ IsPassed taken ∧ tokens rest = some ts' ∧
        ts' <:+ ts := by
    intro p token hc hp ho
    rcases hmap ho with ⟨ts', hts, hsuffix⟩
    refine ⟨c :: r.takeWhile p, r.dropWhile p, ts', ?_, isPassed_run hc hp r, hts, hsuffix⟩
    rw [List.cons_append, List.takeWhile_append_dropWhile]
  rw [tokens] at h
  split at h
  · rename_i hgap
    have hplain : c ≠ '"' ∧ c ≠ '\\' := by
      constructor <;>
      · rintro rfl
        exact absurd hgap (by decide)
    exact Or.inr ⟨[c], r, ts, rfl, isPassed_singleton hplain, h, List.suffix_rfl⟩
  split at h
  · rename_i hquote
    split at h
    · cases h
    · rename_i s rest hs
      rcases hmap h with ⟨ts', hts, hsuffix⟩
      exact Or.inl ⟨r, s, rest, ts', by rw [hquote], hs, hts, hsuffix⟩
  refine Or.inr ?_
  split at h
  · rename_i hnumber
    split at h
    · cases h
    · exact hrun (Bool.and_eq_true_iff.1 hnumber).1 (by decide) h
  split at h
  · rename_i halpha
    split at h
    · cases h
    · exact hrun halpha (by decide) h
  split at h
  · cases h
  · rename_i token htoken
    rcases hmap h with ⟨ts', hts, hsuffix⟩
    have hback : c ≠ '\\' := by
      rintro rfl
      cases htoken
    exact ⟨[c], r, ts', rfl, isPassed_singleton ⟨(classes_of_punctuation? htoken).1.2, hback⟩, hts,
      hsuffix⟩

/-- A text is not read both outside and inside a string. Where the one reading
    takes a string, the other is between two, and they take turns. -/
theorem not_tokens_of_stringBody {t s rest : Text} {ts : List Token}
    (hs : stringBody t = some (s, rest)) (hrest : tokens rest = some ts) (ts' : List Token) :
    tokens t ≠ some ts' := by
  intro h
  induction hn : t.length using Nat.strong_induction_on generalizing t s rest ts ts' with
  | _ n ih =>
  subst hn
  have hne : t ≠ [] := by
    rintro rfl
    rw [stringBody] at hs
    cases hs
  rcases tokens_cases h hne with ⟨r, s', rest', ts'', rfl, hs', hrest', -⟩ |
    ⟨taken, t', ts'', rfl, hpassed, ht', -⟩
  -- The quote opens a string for the one reading and closes it for the other, so they
  -- have changed places after it.
  · rw [stringBody] at hs
    cases hs
    exact ih _ (Nat.lt_succ_self _) hs' hrest' ts hrest rfl
  · rcases exists_stringBody_of_append hpassed.2 hs with ⟨s', hs'⟩
    have hpos : 0 < taken.length := List.length_pos_iff.2 hpassed.1.1
    refine ih _ ?_ hs' hrest ts'' ht' rfl
    rw [List.length_append]
    omega

/-- A text with a brace in it is read as tokens from the brace on, unless the
    brace is in a string, which is then read from the brace on. -/
theorem tokens_cut {pre r : Text} {ts : List Token} (h : tokens (pre ++ '\x7b' :: r) = some ts) :
    (∃ ts', tokens ('\x7b' :: r) = some ts' ∧ ts' <:+ ts) ∨
      ∃ s rest ts', stringBody ('\x7b' :: r) = some (s, rest) ∧ tokens rest = some ts' := by
  induction hn : pre.length using Nat.strong_induction_on generalizing pre ts with
  | _ n ih =>
  subst hn
  by_cases hpre : pre = []
  · rw [hpre] at h
    exact Or.inl ⟨ts, h, List.suffix_rfl⟩
  -- The reading goes on with less before the brace.
  have hless : ∀ {pre' : Text} {ts' : List Token}, pre'.length < pre.length →
      tokens (pre' ++ '\x7b' :: r) = some ts' → ts' <:+ ts →
      (∃ ts', tokens ('\x7b' :: r) = some ts' ∧ ts' <:+ ts) ∨
        ∃ s rest ts', stringBody ('\x7b' :: r) = some (s, rest) ∧ tokens rest = some ts' := by
    intro pre' ts' hlt h' hsuffix
    rcases ih _ hlt h' rfl with ⟨ts'', hts, hlast⟩ | hstring
    · exact Or.inl ⟨ts'', hts, hlast.trans hsuffix⟩
    · exact Or.inr hstring
  rcases tokens_cases h (List.append_ne_nil_of_left_ne_nil hpre _) with
    ⟨r', s, rest, ts', heq, hs, hts, hsuffix⟩ | ⟨taken, rest, ts', heq, hpassed, hts, hsuffix⟩
  · rcases (isPiece_singleton '"').exists_shorter heq hpre with ⟨pre', hlt, rfl⟩
    rcases stringBody_cut hs with ⟨pre'', hlt', rfl⟩ | ⟨s', hs'⟩
    · exact hless (Nat.lt_trans hlt' hlt) hts hsuffix
    · exact Or.inr ⟨s', rest, ts', hs', hts⟩
  · rcases hpassed.1.exists_shorter heq hpre with ⟨pre', hlt, rfl⟩
    exact hless hlt hts hsuffix

/-- The tokens from an opening brace on, if it has any, are the last ones of the
    whole text. -/
theorem isSuffix_of_tokens {pre r : Text} {ts ts' : List Token}
    (h : tokens (pre ++ '\x7b' :: r) = some ts) (h' : tokens ('\x7b' :: r) = some ts') :
    ts' <:+ ts := by
  rcases tokens_cut h with ⟨ts'', hts, hsuffix⟩ | ⟨s, rest, ts'', hs, hrest⟩
  · cases hts.symm.trans h'
    exact hsuffix
  · exact absurd h' (not_tokens_of_stringBody hs hrest ts')

/-! ### The machine inside a container -/

namespace Reader

/-- A state with more containers open around it. -/
def within (below : List Frame) : Reader → Reader
  | .value outer => .value (outer ++ below)
  | .itemOrClose outer => .itemOrClose (outer ++ below)
  | .keyOrClose outer => .keyOrClose (outer ++ below)
  | .key fields outer => .key fields (outer ++ below)
  | .colon fields k outer => .colon fields k (outer ++ below)
  | .after v outer => .after v (outer ++ below)

theorem within_begin {outer below : List Frame} {token : Token} {u u' : Reader}
    (h : begin outer token = some u) (h' : begin (outer ++ below) token = some u') :
    u' = u.within below := by
  cases token with
  | scalar v =>
    cases h
    cases h'
    rfl
  | string t =>
    cases h
    cases h'
    rfl
  | openArray =>
    simp only [begin] at h h'
    -- Both are deep enough to go on, or one of them would have stopped.
    split_ifs at h h'
    cases h
    cases h'
    rfl
  | openObject =>
    simp only [begin] at h h'
    split_ifs at h h'
    cases h
    cases h'
    rfl
  | closeObject => cases h
  | closeArray => cases h
  | comma => cases h
  | colon => cases h

theorem step_value (outer : List Frame) (token : Token) :
    step (.value outer) token = begin outer token := by
  cases token <;> rfl

/-- The first item of a list is read as any value of it. -/
theorem step_itemOrClose {token : Token} (h : token ≠ .closeArray) (outer : List Frame) :
    step (.itemOrClose outer) token = begin (.array [] :: outer) token := by
  cases token <;> first | rfl | exact absurd rfl h

/-- What a token does to a state it does to the state inside more containers, if
    it may come there at all. -/
theorem within_step {s u u' : Reader} {token : Token} {below : List Frame}
    (h : s.step token = some u) (h' : (s.within below).step token = some u') :
    u' = u.within below := by
  unfold step at h
  split at h
  -- A token that begins a value.
  case h_2 outer hclose =>
    rw [within, step_itemOrClose hclose] at h'
    exact within_begin h h'
  case h_11 outer =>
    rw [within, step_value] at h'
    exact within_begin h h'
  case h_12 => cases h
  -- All others lead to one state.
  all_goals
    cases h
    cases h'
    rfl

theorem within_foldlM {s u u' : Reader} {ts : List Token} {below : List Frame}
    (h : ts.foldlM step s = some u) (h' : ts.foldlM step (s.within below) = some u') :
    u' = u.within below := by
  induction ts generalizing s with
  | nil =>
    cases h
    cases h'
    rfl
  | cons token ts ih =>
    rw [List.foldlM_cons] at h h'
    rcases Option.bind_eq_some_iff.1 h with ⟨s₁, hs₁, h⟩
    rcases Option.bind_eq_some_iff.1 h' with ⟨s₂, hs₂, h'⟩
    rw [within_step hs₁ hs₂] at h'
    exact ih h h'

/-- A state that the machine is not started in: a value that is expected is
    inside a container. -/
def IsInside : Reader → Prop
  | .value outer => outer ≠ []
  | _ => True

theorem isInside_begin {outer : List Frame} {token : Token} {u : Reader}
    (h : begin outer token = some u) : u.IsInside := by
  unfold begin at h
  split at h
  case h_5 => cases h
  all_goals
    first | cases h | (split_ifs at h; cases h)
    trivial

/-- A token leads inside. -/
theorem isInside_step {s u : Reader} {token : Token} (h : s.step token = some u) :
    u.IsInside := by
  unfold step at h
  split at h
  case h_2 => exact isInside_begin h
  case h_6 =>
    cases h
    exact List.cons_ne_nil _ _
  case h_7 =>
    cases h
    exact List.cons_ne_nil _ _
  case h_11 => exact isInside_begin h
  case h_12 => cases h
  all_goals
    cases h
    trivial

theorem isInside_foldlM {s u : Reader} {ts : List Token} (h : ts.foldlM step s = some u)
    (hs : s.IsInside) : u.IsInside := by
  induction ts generalizing s with
  | nil =>
    cases h
    exact hs
  | cons token ts ih =>
    rw [List.foldlM_cons] at h
    rcases Option.bind_eq_some_iff.1 h with ⟨s', hs', h⟩
    exact ih h (isInside_step hs')

/-- An opening brace inside is read as it is at the start, with something open
    around it. -/
theorem exists_within_of_openObject {s u : Reader} (hs : s.IsInside)
    (h : s.step .openObject = some u) :
    ∃ below, below ≠ [] ∧
      s.step .openObject = ((Reader.value []).within below).step .openObject := by
  cases s with
  | value outer => exact ⟨outer, hs, rfl⟩
  -- The list that was just opened is not on the stack before its first item.
  | itemOrClose outer => exact ⟨.array [] :: outer, List.cons_ne_nil _ _, rfl⟩
  | keyOrClose outer => cases h
  | key fields outer => cases h
  | colon fields k outer => cases h
  | after v outer => rcases outer with _ | ⟨_ | _, outer⟩ <;> cases h

/-- Tokens that are read as a value with nothing around it do not end the tokens
    of another. -/
theorem not_after_of_openObject {s : Reader} {ts : List Token} {v w : Json} (hs : s.IsInside)
    (h : (Token.openObject :: ts).foldlM step (.value []) = some (.after v [])) :
    (Token.openObject :: ts).foldlM step s ≠ some (.after w []) := by
  intro h'
  have hfirst := h'
  rw [List.foldlM_cons] at hfirst
  rcases Option.bind_eq_some_iff.1 hfirst with ⟨u, hu, -⟩
  rcases exists_within_of_openObject hs hu with ⟨below, hbelow, hstep⟩
  rw [List.foldlM_cons, hstep, ← List.foldlM_cons] at h'
  have hend : Reader.after w [] = .after v ([] ++ below) := within_foldlM h h'
  cases below with
  | nil => exact hbelow rfl
  | cons frame below => cases hend

end Reader

/-! ### Objects without their beginning -/

theorem exists_of_parse? {t : Text} {v : Json} (h : parse? t = some v) :
    ∃ ts, tokens t = some ts ∧ ts.foldlM Reader.step (.value []) = some (.after v []) := by
  rcases Option.bind_eq_some_iff.1 h with ⟨ts, hts, h⟩
  rcases Option.bind_eq_some_iff.1 h with ⟨s, hs, h⟩
  refine ⟨ts, hts, hs.trans ?_⟩
  split at h
  · cases h
    rfl
  · cases h

/-- A text that begins with an opening brace has its token first. -/
theorem exists_of_tokens_brace {r : Text} {ts : List Token} (h : tokens ('\x7b' :: r) = some ts) :
    ∃ ts', tokens r = some ts' ∧ ts = .openObject :: ts' := by
  rw [tokens_punctuation (show punctuation? '\x7b' = some .openObject from rfl)] at h
  rcases Option.map_eq_some_iff.1 h with ⟨ts', hts, rfl⟩
  exact ⟨ts', hts, rfl⟩

/-- An object that has lost its beginning is no value. -/
theorem parse?_eq_none_of_isSuffix {pre r : Text} {v : Json}
    (h : parse? ('\x7b' :: pre ++ '\x7b' :: r) = some v) : parse? ('\x7b' :: r) = none := by
  by_contra hne
  rcases Option.ne_none_iff_exists'.1 hne with ⟨w, hw⟩
  rcases exists_of_parse? h with ⟨ts, hts, hv⟩
  rcases exists_of_parse? hw with ⟨ts', hts', hw⟩
  -- The first brace is fed on its own, so that the machine is inside when it comes to
  -- the second one.
  rcases exists_of_tokens_brace hts with ⟨whole, hwhole, rfl⟩
  rcases isSuffix_of_tokens hwhole hts' with ⟨before, rfl⟩
  rcases exists_of_tokens_brace hts' with ⟨last, -, rfl⟩
  rw [List.foldlM_cons] at hv
  rcases Option.bind_eq_some_iff.1 hv with ⟨s, hs, hv⟩
  rw [List.foldlM_append] at hv
  rcases Option.bind_eq_some_iff.1 hv with ⟨u, hu, hv⟩
  exact Reader.not_after_of_openObject (Reader.isInside_foldlM hu (Reader.isInside_step hs)) hw hv

end Json

end Flowchart
