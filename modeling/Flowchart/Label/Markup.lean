import Flowchart.Text.Basic

/-!
# Markup in Labels

Labels that come from documents bring tags and entities with them. A tag runs
from a less-than sign to the next angle bracket if that closes it; an entity
runs from an ampersand to the next semicolon if what is between names or
numbers a character.

One pass exchanges every tag and entity for a blank. What is left around a
blank may have become a tag or an entity itself, so passes are repeated. Every
pass that finds something shortens the text, which is why they come to an end.
Angle brackets still left over are dropped.

## Main definitions

* `Markup.afterTag?`, `Markup.afterEntity?`: What follows a piece of markup.
* `Markup.pass`: One pass over a text.
* `Markup.strip`: A text without markup.
-/

namespace Flowchart

namespace Markup

/-- A less-than or greater-than sign. -/
def isAngle (c : Char) : Bool := c == '<' || c == '>'

/-- What follows a tag, given what follows its less-than sign. -/
def afterTag? (t : Text) : Option Text :=
  match t.dropWhile (!isAngle ·) with
  | '>' :: rest => some rest
  | _ => none

/-- A hexadecimal digit. -/
def isHexDigit (c : Char) : Bool := c.isDigit || ('a' ≤ c && c ≤ 'f') || ('A' ≤ c && c ≤ 'F')

/-- Not empty, and of one class throughout. -/
def isRun (p : Char → Bool) (t : Text) : Bool := !t.isEmpty && t.all p

/-- What can stand between the ampersand and the semicolon of an entity: a
    name, or a decimal or hexadecimal number behind its sign. -/
def isEntityBody (t : Text) : Bool :=
  match t with
  | '#' :: 'x' :: digits => isRun isHexDigit digits
  | '#' :: 'X' :: digits => isRun isHexDigit digits
  | '#' :: digits => isRun Char.isDigit digits
  | name => isRun Char.isAlphanum name

/-- What follows an entity, given what follows its ampersand. -/
def afterEntity? (t : Text) : Option Text :=
  match t.dropWhile (· != ';') with
  | ';' :: rest => if isEntityBody (t.takeWhile (· != ';')) then some rest else none
  | _ => none

/-- What follows the piece of markup that a character begins. -/
def after? (c : Char) (t : Text) : Option Text :=
  if c = '<' then afterTag? t else if c = '&' then afterEntity? t else none

theorem afterTag?_shorter {t rest : Text} (h : afterTag? t = some rest) :
    rest.length < t.length := by
  unfold afterTag? at h
  have hle : (t.dropWhile (!isAngle ·)).length ≤ t.length := (List.dropWhile_suffix _).length_le
  split at h
  · rename_i r heq
    simp only [Option.some.injEq] at h
    subst h
    rw [heq, List.length_cons] at hle
    omega
  · simp at h

theorem afterEntity?_shorter {t rest : Text} (h : afterEntity? t = some rest) :
    rest.length < t.length := by
  unfold afterEntity? at h
  have hle : (t.dropWhile (· != ';')).length ≤ t.length := (List.dropWhile_suffix _).length_le
  split at h
  · rename_i r heq
    split at h
    · simp only [Option.some.injEq] at h
      subst h
      rw [heq, List.length_cons] at hle
      omega
    · simp at h
  · simp at h

theorem after?_shorter {c : Char} {t rest : Text} (h : after? c t = some rest) :
    rest.length < t.length := by
  unfold after? at h
  split at h
  · exact afterTag?_shorter h
  · split at h
    · exact afterEntity?_shorter h
    · simp at h

/-- Exchange every tag and entity for a blank, once over the text. -/
def pass (t : Text) : Text :=
  match t with
  | [] => []
  | c :: r =>
    match _h : after? c r with
    | some rest => ' ' :: pass rest
    | none => c :: pass r
termination_by t.length
decreasing_by
  · have := after?_shorter _h
    simp only [List.length_cons]
    omega
  · simp

/-- Repeat the pass for as long as it shortens the text. -/
def settle (t : Text) : Text :=
  let next := pass t
  if next.length < t.length then settle next else next
termination_by t.length

/-- A text without markup and without angle brackets. -/
def strip (t : Text) : Text := (settle t).filter (!isAngle ·)

end Markup

end Flowchart
