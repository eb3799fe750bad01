import Flowchart.Focus.Profile

/-!
# Excerpts

The part of a long text that matters for a focus. The text is cut into
sentences, and a sentence is scored: three for the topic and for every term
that must come up, two off for every term to stay away from, and one for an
arrow. Sentences that score are taken best first for as long as the excerpt
stays within its size. Without any, the first twenty sentences have to do.

## Main definitions

* `Text.sentences`: The sentences of a text.
* `Focus.score`: How much a sentence matters.
* `Excerpt.select`: The excerpt of a text.
-/

namespace Flowchart

/-- A carriage return or a line feed. -/
def isLineEnd (c : Char) : Bool := c == '\n' || c == '\r'

/-- A mark that ends a sentence when a blank follows it. -/
def isStop (c : Char) : Bool := c == '.' || c == '?' || c == '!'

namespace Text

/-- The text begins with a blank. -/
def startsBlank : Text → Bool
  | c :: _ => isBlank c
  | [] => false

/-- The pieces between line ends and after stops. -/
def sentencePieces : Text → List Text
  | [] => [[]]
  | c :: t =>
    if isLineEnd c then [] :: sentencePieces t
    else if isStop c && startsBlank t then [c] :: sentencePieces t
    else match sentencePieces t with
      | [] => [[c]]
      | piece :: pieces => (c :: piece) :: pieces

/-- The sentences of a text, without outer blanks and without empty ones. -/
def sentences (t : Text) : List Text := ((sentencePieces t).map trim).filter (· ≠ [])

end Text

namespace Focus

/-- The number of terms that occur in a text in lower case. -/
def hits (terms : List Text) (lower : Text) : Nat := terms.countP (Text.hasInfix · lower)

/-- How much a sentence matters for a focus. -/
def score (f : Focus) (sentence : Text) : Int :=
  let lower := sentence.lower
  3 * (hits (properTerms (f.topic :: f.mustInclude)) lower : Int)
    - 2 * (hits (properTerms f.exclude) lower : Int)
    + (if Text.hasInfix ['-', '>'] sentence then 1 else 0)

/-- The focus in one line. -/
def rationale (f : Focus) : Text :=
  "topic=\"".toList ++ f.topic ++ "\", mustInclude=".toList ++ Text.join [','] f.mustInclude
    ++ ", exclude=".toList ++ Text.join [','] f.exclude

end Focus

/-- The part of a text that matters for a focus, and what it was chosen by. -/
structure Excerpt where
  text : Text
  rationale : Text
deriving DecidableEq, Repr

namespace Excerpt

/-- The number of sentences that are taken when none scores. -/
def fallbackSentences : Nat := 20

/-- Sentences put on lines of their own for as long as the whole stays within a
    size. -/
def gather (size : Nat) (done : Text) : List Text → Text
  | [] => done
  | s :: more =>
    let longer := if done.isEmpty then s else done ++ '\n' :: s
    if size < longer.size then done else gather size longer more

/-- The sentences that score, best first. -/
def scoring (f : Focus) (sentences : List Text) : List Text :=
  let scored := sentences.map fun s => (f.score s, s)
  ((scored.mergeSort fun a b => b.1 ≤ a.1).takeWhile (1 ≤ ·.1)).map (·.2)

/-- The excerpt of a text. -/
def select (t : Text) (f : Focus) (size : Nat) : Excerpt :=
  let sentences := t.sentences
  let best := gather size [] (scoring f sentences)
  { text := if best.isEmpty then Text.join ['\n'] (sentences.take fallbackSentences) else best
    rationale := f.rationale }

end Excerpt

end Flowchart
