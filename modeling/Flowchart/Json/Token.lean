import Flowchart.Json.Number

/-!
# JSON Tokens

The first half of reading JSON: a text becomes a list of tokens. Numbers and
words are taken as the longest runs of characters they can be made of, so a
run that is neither a number nor a word of the language is no token at all.

Escapes in strings are resolved here. A character beyond the first plane is
escaped as two halves, and a half that stands alone is refused, as is a control
character that is not escaped.

## Main definitions

* `Json.Token`: A token.
* `Json.stringBody`: The text of a string and what follows its closing quote.
* `Numeral.ofText?`: The parts of a written number.
* `Json.tokens`: The tokens of a text.

## Theorems

* `Json.stringBody_shorter`: What follows a string is shorter.
-/

namespace Flowchart

/-- A written number cut into its parts: no needless leading zero, and at least
    one digit in every part. -/
def Numeral.ofText? (t : Text) : Option Numeral :=
  let (negative, t) := match t with
    | '-' :: r => (true, r)
    | r => (false, r)
  let whole := t.takeWhile Char.isDigit
  let t := t.dropWhile Char.isDigit
  if whole.isEmpty || (whole.head? = some '0' && 1 < whole.length) then none
  else
    let (fraction, t) := match t with
      | '.' :: r => (some (r.takeWhile Char.isDigit), r.dropWhile Char.isDigit)
      | r => (none, r)
    let exponentPart (t : Text) : Option (Option (Bool × Text)) :=
      match t with
      | [] => some none
      | c :: r =>
        if c = 'e' || c = 'E' then
          let (lowers, r) := match r with
            | '-' :: r => (true, r)
            | '+' :: r => (false, r)
            | r => (false, r)
          if !r.isEmpty && r.all Char.isDigit then some (some (lowers, r)) else none
        else none
    if fraction = some [] then none
    else (exponentPart t).map fun exponent => ⟨negative, whole, fraction, exponent⟩

namespace Json

/-- A token of JSON. -/
inductive Token where
  | openObject
  | closeObject
  | openArray
  | closeArray
  | comma
  | colon
  /-- A value that holds no others. -/
  | scalar (v : Json)
  | string (t : Text)
deriving Repr

/-- A blank between tokens. -/
def isGap (c : Char) : Bool := c == ' ' || c == '\n' || c == '\t' || c == '\r'

/-- A character that a number can be made of. -/
def isNumberChar (c : Char) : Bool :=
  c.isDigit || c == '-' || c == '+' || c == '.' || c == 'e' || c == 'E'

/-- The value of a hexadecimal digit. -/
def hexDigit? (c : Char) : Option Nat :=
  if c.isDigit then some (c.toNat - '0'.toNat)
  else if 'a' ≤ c && c ≤ 'f' then some (c.toNat - 'a'.toNat + 10)
  else if 'A' ≤ c && c ≤ 'F' then some (c.toNat - 'A'.toNat + 10)
  else none

/-- The number that hexadecimal digits write. -/
def hexNumber? (digits : Text) : Option Nat :=
  digits.foldlM (fun n c => (hexDigit? c).map (n * 16 + ·)) 0

/-- The first half of a character beyond the first plane. -/
def isHighHalf (n : Nat) : Bool := 0xD800 ≤ n && n < 0xDC00

/-- The second half of a character beyond the first plane. -/
def isLowHalf (n : Nat) : Bool := 0xDC00 ≤ n && n < 0xE000

/-- The character that an escaped letter stands for. -/
def shortEscape? (c : Char) : Option Char :=
  match c with
  | '"' => some '"'
  | '\\' => some '\\'
  | '/' => some '/'
  | 'b' => some '\x08'
  | 'f' => some '\x0c'
  | 'n' => some '\n'
  | 'r' => some '\r'
  | 't' => some '\t'
  | _ => none

/-- The character of an escape by number, and what follows it. The text begins
    after the letter `u`. -/
def numberedEscape? (t : Text) : Option (Char × Text) :=
  match t with
  | a :: b :: c :: d :: r => do
    let n ← hexNumber? [a, b, c, d]
    if isLowHalf n then none
    else if isHighHalf n then
      match r with
      | '\\' :: 'u' :: e :: f :: g :: h :: r => do
        let m ← hexNumber? [e, f, g, h]
        if isLowHalf m then some (Char.ofNat (0x10000 + (n - 0xD800) * 0x400 + (m - 0xDC00)), r)
        else none
      | _ => none
    else some (Char.ofNat n, r)
  | _ => none

theorem numberedEscape?_shorter {t rest : Text} {c : Char}
    (h : numberedEscape? t = some (c, rest)) :
    rest.length < t.length := by
  unfold numberedEscape? at h
  split at h
  · rename_i a b c d r
    cases hn : hexNumber? [a, b, c, d] with
    | none => simp [hn] at h
    | some n =>
      simp only [hn, bind, Option.bind] at h
      split at h
      · simp at h
      · split at h
        · split at h
          · rename_i e f g k r'
            cases hm : hexNumber? [e, f, g, k] with
            | none => simp [hm] at h
            | some m =>
              simp only [hm] at h
              split at h
              · simp only [Option.some.injEq, Prod.mk.injEq] at h
                obtain ⟨_, rfl⟩ := h
                simp only [List.length_cons]
                omega
              · simp at h
          · simp at h
        · simp only [Option.some.injEq, Prod.mk.injEq] at h
          obtain ⟨_, rfl⟩ := h
          simp only [List.length_cons]
          omega
  · simp at h

/-- The text of a string and what follows its closing quote. The text begins
    after the opening quote. -/
def stringBody (t : Text) : Option (Text × Text) :=
  match t with
  | [] => none
  | '"' :: r => some ([], r)
  | '\\' :: 'u' :: r =>
    match _h : numberedEscape? r with
    | none => none
    | some (c, rest) => (stringBody rest).map fun (s, rest) => (c :: s, rest)
  | '\\' :: e :: r =>
    match shortEscape? e with
    | none => none
    | some c => (stringBody r).map fun (s, rest) => (c :: s, rest)
  | c :: r =>
    if c.toNat < 0x20 || c = '\\' then none
    else (stringBody r).map fun (s, rest) => (c :: s, rest)
termination_by t.length
decreasing_by
  · have := numberedEscape?_shorter _h
    simp only [List.length_cons]
    omega
  · simp only [List.length_cons]
    omega
  · simp only [List.length_cons]
    omega

theorem stringBody_shorter {t s rest : Text} (h : stringBody t = some (s, rest)) :
    rest.length < t.length := by
  fun_induction stringBody t generalizing s rest with
  | case1 => simp at h
  | case2 r => simp_all
  | case3 r hr => simp at h
  | case4 r c rest' hr ih =>
    have := numberedEscape?_shorter hr
    simp only [Option.map_eq_some_iff, Prod.mk.injEq, Prod.exists] at h
    obtain ⟨s', r', hs, _, rfl⟩ := h
    have := ih hs
    simp only [List.length_cons]
    omega
  | case5 => simp at h
  | case6 e r _ c hc ih =>
    simp only [Option.map_eq_some_iff, Prod.mk.injEq, Prod.exists] at h
    obtain ⟨s', r', hs, _, rfl⟩ := h
    have := ih hs
    simp only [List.length_cons]
    omega
  | case7 => simp at h
  | case8 c r _ _ _ hc ih =>
    simp only [Option.map_eq_some_iff, Prod.mk.injEq, Prod.exists] at h
    obtain ⟨s', r', hs, _, rfl⟩ := h
    have := ih hs
    simp only [List.length_cons]
    omega

/-- The value that a word stands for. -/
def wordValue? (t : Text) : Option Json :=
  if t = "null".toList then some .null
  else if t = "true".toList then some (.bool true)
  else if t = "false".toList then some (.bool false)
  else none

/-- The token that one character is by itself. -/
def punctuation? (c : Char) : Option Token :=
  match c with
  | '\x7b' => some .openObject
  | '\x7d' => some .closeObject
  | '[' => some .openArray
  | ']' => some .closeArray
  | ',' => some .comma
  | ':' => some .colon
  | _ => none

theorem length_dropWhile_le (p : Char → Bool) (t : Text) : (t.dropWhile p).length ≤ t.length :=
  (List.dropWhile_suffix p).length_le

/-- The tokens of a text. -/
def tokens (t : Text) : Option (List Token) :=
  match t with
  | [] => some []
  | c :: r =>
    if isGap c then tokens r
    else if c = '"' then
      match _h : stringBody r with
      | none => none
      | some (s, rest) => (tokens rest).map (.string s :: ·)
    else if isNumberChar c && !c.isAlpha then
      match Numeral.ofText? (c :: r.takeWhile isNumberChar) |>.bind Numeral.value? with
      | none => none
      | some v => (tokens (r.dropWhile isNumberChar)).map (.scalar v :: ·)
    else if c.isAlpha then
      match wordValue? (c :: r.takeWhile Char.isAlpha) with
      | none => none
      | some v => (tokens (r.dropWhile Char.isAlpha)).map (.scalar v :: ·)
    else
      match punctuation? c with
      | none => none
      | some token => (tokens r).map (token :: ·)
termination_by t.length
decreasing_by
  · simp
  · have := stringBody_shorter _h
    simp only [List.length_cons]
    omega
  · have := length_dropWhile_le isNumberChar r
    simp only [List.length_cons]
    omega
  · have := length_dropWhile_le Char.isAlpha r
    simp only [List.length_cons]
    omega
  · simp

end Json

end Flowchart
