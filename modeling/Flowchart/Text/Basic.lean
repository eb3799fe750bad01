/-!
# Text

Identifiers, labels, diagram text and messages are all lists of characters.
Every rule of the format reads a text from its front, so a list is the shape
the rules recurse on; a text becomes a `String` only where it leaves the
program.

Two measures of a text are in use. `length` counts characters, and `size`
counts the bytes of the UTF-8 form, which is what spans, label widths and
excerpt limits are stated in. The order of texts is the order of lists of
characters, which is by code point and so agrees with the order of the UTF-8
bytes.

## Main definitions

* `Text`: A list of characters.
* `Text.size`: The number of UTF-8 bytes.
* `Text.upTo`: The order of texts.
* `Text.hasInfix`: One text occurs inside another.
* `Text.dropPrefix?`: What follows a given beginning.
* `Text.cut?`: The two sides of the first occurrence of a pattern.
* `Text.replaceAll`: Every occurrence of a pattern exchanged.
* `Text.splitWhere`: The pieces between separating characters.
* `Text.dropEndWhile`: A text without its longest closing run of a class.
* `Text.takeBytes?`: The front of a text up to a byte position.
* `Text.ofNat`: A number in decimal digits.

## Theorems

* `Text.size_append`: The bytes of two texts add up.
* `Text.dropPrefix?_eq_some_iff`: A beginning is dropped exactly from the texts
  that start with it.
* `Text.eq_of_cut?`: The two sides of an occurrence make up the text.
-/

namespace Flowchart

/-- A text is the list of its characters. -/
abbrev Text := List Char

namespace Text

/-- The number of bytes of a text in UTF-8. -/
def size (t : Text) : Nat := t.foldr (fun c n => c.utf8Size + n) 0

@[simp] theorem size_nil : size [] = 0 := rfl

@[simp] theorem size_cons (c : Char) (t : Text) : size (c :: t) = c.utf8Size + size t := rfl

@[simp] theorem size_append (s t : Text) : size (s ++ t) = size s + size t := by
  induction s with
  | nil => simp
  | cons c s ih => simp [ih, Nat.add_assoc]

/-- The first text does not come after the second. -/
def upTo (s t : Text) : Bool := !(t < s)

/-- The decimal digits of a number, without leading zeros. -/
def ofNat (n : Nat) : Text := Nat.toDigits 10 n

/-- The pattern occurs somewhere in the text. -/
def hasInfix (pattern : Text) : Text → Bool
  | [] => pattern.isEmpty
  | c :: t => pattern.isPrefixOf (c :: t) || hasInfix pattern t

/-- What follows a given beginning, if the text has it. -/
def dropPrefix? : Text → Text → Option Text
  | [], t => some t
  | p :: ps, c :: t => if p = c then dropPrefix? ps t else none
  | _ :: _, [] => none

theorem dropPrefix?_eq_some_iff {beginning t rest : Text} :
    dropPrefix? beginning t = some rest ↔ t = beginning ++ rest := by
  induction beginning generalizing t with
  | nil => simp [dropPrefix?]
  | cons p ps ih =>
    cases t with
    | nil => simp [dropPrefix?]
    | cons c t =>
      by_cases h : p = c
      · simp [dropPrefix?, h, ih]
      · simp [dropPrefix?, h, Ne.symm h]

/-- What stands before and after the first occurrence of a pattern. -/
def cut? (pattern : Text) : Text → Option (Text × Text)
  | [] => if pattern.isEmpty then some ([], []) else none
  | c :: t => match dropPrefix? pattern (c :: t) with
    | some after => some ([], after)
    | none => (cut? pattern t).map fun (before, after) => (c :: before, after)

theorem eq_of_cut? {pattern t before after : Text} (h : cut? pattern t = some (before, after)) :
    t = before ++ pattern ++ after := by
  induction t generalizing before with
  | nil =>
    unfold cut? at h
    split at h <;> simp_all
  | cons c t ih =>
    unfold cut? at h
    split at h
    · rename_i rest hr
      simp only [Option.some.injEq, Prod.mk.injEq] at h
      obtain ⟨rfl, rfl⟩ := h
      simpa using dropPrefix?_eq_some_iff.1 hr
    · simp only [Option.map_eq_some_iff, Prod.mk.injEq, Prod.exists] at h
      obtain ⟨b, a, hba, rfl, rfl⟩ := h
      simp [ih hba]

/-- Exchange every occurrence of a pattern, from the front and without
    overlap. The number is how many characters of an occurrence already
    exchanged are still to be passed over. -/
def replaceFrom (pattern new : Text) : Nat → Text → Text
  | _, [] => []
  | skip + 1, _ :: t => replaceFrom pattern new skip t
  | 0, c :: t =>
    if pattern.isPrefixOf (c :: t) then new ++ replaceFrom pattern new (pattern.length - 1) t
    else c :: replaceFrom pattern new 0 t

/-- Exchange every occurrence of a non-empty pattern. -/
def replaceAll (pattern new t : Text) : Text := replaceFrom pattern new 0 t

/-- The pieces between the characters of a class, empty pieces included.
    There is always one piece more than there are separators. -/
def splitWhere (separates : Char → Bool) : Text → List Text
  | [] => [[]]
  | c :: t =>
    if separates c then [] :: splitWhere separates t
    else match splitWhere separates t with
      | [] => [[c]]
      | piece :: pieces => (c :: piece) :: pieces

/-- A text without its longest closing run of a class of characters. -/
def dropEndWhile (drops : Char → Bool) (t : Text) : Text := (t.reverse.dropWhile drops).reverse

/-- A text without a given ending, if it has that ending. -/
def dropSuffix? (ending t : Text) : Option Text :=
  (dropPrefix? ending.reverse t.reverse).map List.reverse

/-- The front of a text that fills exactly so many bytes. There is none when
    the position falls inside a character or beyond the end. -/
def takeBytes? : Nat → Text → Option Text
  | 0, _ => some []
  | _ + 1, [] => none
  | n + 1, c :: t =>
    if n + 1 < c.utf8Size then none else (takeBytes? (n + 1 - c.utf8Size) t).map (c :: ·)

/-- Texts joined with a separator between neighbours. -/
def join (separator : Text) (parts : List Text) : Text := separator.intercalate parts

end Text

end Flowchart
