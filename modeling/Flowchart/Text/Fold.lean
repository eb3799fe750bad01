import Flowchart.Text.Ascii

/-!
# Folding to ASCII

The format prints ASCII only, so text from elsewhere is folded down to it.
Typographic quotes, dashes, dots, bullets, spaces and arrows and the letters of
Western Europe have ASCII stand-ins, of which some are longer than the
character. Tabs and line ends become blanks. All else beyond the printable
ASCII characters is dropped.

A few typographic characters are also listed by themselves, since they are what
a generator most often leaves in text it should not be in, and a finding about
them says more than one about an unknown character.

## Main definitions

* `foldChar?`: The stand-in of a character beyond ASCII.
* `Text.fold`: A text folded to printable ASCII.
* `isTypographic`: Punctuation that a typesetter would use.
-/

namespace Flowchart

/-- The ASCII text that stands in for a character beyond ASCII. -/
def foldChar? (c : Char) : Option String :=
  let n := c.toNat
  if [0x2018, 0x2019, 0x201A, 0x201B, 0x2032].contains n then some "'"
  else if [0x201C, 0x201D, 0x201E, 0x201F, 0x2033, 0xAB, 0xBB].contains n then some "\""
  else if (0x2010 ≤ n && n ≤ 0x2015) || n == 0x2212 then some "-"
  else if n == 0x2026 then some "..."
  else if [0x2022, 0x2023, 0x25E6, 0x2043, 0xB7].contains n then some "-"
  else if n == 0xA0 || (0x2000 ≤ n && n ≤ 0x200A) || [0x202F, 0x205F, 0x3000].contains n then
    some " "
  else if n == 0x2192 then some "->"
  else if n == 0x2190 then some "<-"
  else if n < 0xC0 || 0xFF < n then none
  else letter? c
where
  /-- The stand-in of a letter or sign of the second half of Latin-1. -/
  letter? (c : Char) : Option String :=
    if c = '×' then some "x"
    else if c = '÷' then some "/"
    else if 'À' ≤ c && c ≤ 'Å' then some "A"
    else if c = 'Æ' then some "AE"
    else if c = 'Ç' then some "C"
    else if 'È' ≤ c && c ≤ 'Ë' then some "E"
    else if 'Ì' ≤ c && c ≤ 'Ï' then some "I"
    else if c = 'Ð' then some "D"
    else if c = 'Ñ' then some "N"
    else if ('Ò' ≤ c && c ≤ 'Ö') || c = 'Ø' then some "O"
    else if 'Ù' ≤ c && c ≤ 'Ü' then some "U"
    else if c = 'Ý' then some "Y"
    else if c = 'Þ' then some "Th"
    else if c = 'ß' then some "ss"
    else if 'à' ≤ c && c ≤ 'å' then some "a"
    else if c = 'æ' then some "ae"
    else if c = 'ç' then some "c"
    else if 'è' ≤ c && c ≤ 'ë' then some "e"
    else if 'ì' ≤ c && c ≤ 'ï' then some "i"
    else if c = 'ð' then some "d"
    else if c = 'ñ' then some "n"
    else if ('ò' ≤ c && c ≤ 'ö') || c = 'ø' then some "o"
    else if 'ù' ≤ c && c ≤ 'ü' then some "u"
    else if c = 'ý' || c = 'ÿ' then some "y"
    else if c = 'þ' then some "th"
    else none

/-- Punctuation that a typesetter would use and the grammar cannot read: curly
    quotes, long dashes, the ellipsis and the bullet. -/
def isTypographic (c : Char) : Bool :=
  [0x201C, 0x201D, 0x2018, 0x2019, 0x2026, 0x2014, 0x2013, 0x2022].contains c.toNat

namespace Text

/-- What one character becomes in ASCII. -/
def foldOne (c : Char) : Text :=
  if isPrintable c then [c]
  else if c = '\r' || c = '\n' || c = '\t' then [' ']
  else if isAsciiChar c then []
  else ((foldChar? c).map String.toList).getD []

/-- A text folded to printable ASCII. -/
def fold (t : Text) : Text := t.flatMap foldOne

end Text

end Flowchart
