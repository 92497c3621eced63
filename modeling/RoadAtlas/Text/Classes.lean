/-!
# Classes of characters

The character properties that reading and stripping text need: tables of code point ranges,
the blank characters, and the decimal digits of every script.

A property table lists code point ranges, both ends included, in increasing order and apart from
each other; a look-up walks the table and stops at the first range that does not lie below the
code point.

The blank characters are those that count as blank when text is stripped or an integer literal
is read: the ASCII controls tab to carriage return, the four information separators
`U+001C`..`U+001F`, the space, next line `U+0085`, and the Unicode space separators and
line/paragraph separators. The zero-width space `U+200B` is not blank.

The characters with a decimal digit value (Unicode general category `Nd`, version 14.0) come in
runs of ten consecutive code points, from the digit zero to the digit nine of one script. The
digit table lists the zero of every run, so the value of a digit is its distance from the zero
of its run.

## Main definitions

* `Text.inRanges`: whether a code point lies in one of the ranges of a table.
* `Text.isBlank`: membership in the table of blanks; `Text.strip`: text without blanks at either
  end.
* `Text.isWhiteSpace`, `Text.trim`: the same for the narrower set of the Unicode `White_Space`
  property, which leaves out the information separators.
* `Text.digitValue?`: the value of a decimal digit of any script.
-/

namespace RoadAtlas

namespace Text

/-! ## Ranges of code points -/

/-- Whether a code point lies in one of some ranges given in increasing order. -/
def inRanges (n : Nat) : List (Nat × Nat) → Bool
  | [] => false
  | (lo, hi) :: rest => if n < lo then false else if n ≤ hi then true else inRanges n rest

/-! ## Blank characters -/

/-- Code point ranges of the blank characters, both ends included. -/
def blankRanges : List (Nat × Nat) :=
  [(0x09, 0x0D), (0x1C, 0x20), (0x85, 0x85), (0xA0, 0xA0), (0x1680, 0x1680),
   (0x2000, 0x200A), (0x2028, 0x2029), (0x202F, 0x202F), (0x205F, 0x205F), (0x3000, 0x3000)]

/-- Whether a character is blank. -/
def isBlank (c : Char) : Bool :=
  blankRanges.any fun r => r.1 ≤ c.toNat && c.toNat ≤ r.2

example : isBlank '\u200B' = false := by decide

/-- The characters of a text without its leading and trailing blanks. -/
def stripChars (cs : List Char) : List Char :=
  ((cs.dropWhile isBlank).reverse.dropWhile isBlank).reverse

/-- A text without its leading and trailing blanks. -/
def strip (s : String) : String := String.ofList (stripChars s.toList)

/-- Whether a character has the Unicode `White_Space` property: a blank that is not one of the
information separators `U+001C`..`U+001F`. -/
def isWhiteSpace (c : Char) : Bool := isBlank c && !(0x1C ≤ c.toNat && c.toNat ≤ 0x1F)

example : isWhiteSpace '\x1F' = false ∧ isBlank '\x1F' = true := by decide

/-- A text without the `White_Space` characters at either end. -/
def trim (s : String) : String :=
  String.ofList (((s.toList.dropWhile isWhiteSpace).reverse.dropWhile isWhiteSpace).reverse)

/-! ## Decimal digits -/

/-- The code point of the digit zero of every run of decimal digits. -/
def digitZeros : List Nat :=
  [0x30, 0x660, 0x6F0, 0x7C0, 0x966, 0x9E6, 0xA66, 0xAE6, 0xB66, 0xBE6, 0xC66, 0xCE6, 0xD66,
   0xDE6, 0xE50, 0xED0, 0xF20, 0x1040, 0x1090, 0x17E0, 0x1810, 0x1946, 0x19D0, 0x1A80, 0x1A90,
   0x1B50, 0x1BB0, 0x1C40, 0x1C50, 0xA620, 0xA8D0, 0xA900, 0xA9D0, 0xA9F0, 0xAA50, 0xABF0,
   0xFF10, 0x104A0, 0x10D30, 0x11066, 0x110F0, 0x11136, 0x111D0, 0x112F0, 0x11450, 0x114D0,
   0x11650, 0x116C0, 0x11730, 0x118E0, 0x11950, 0x11C50, 0x11D50, 0x11DA0, 0x16A60,
   0x16AC0, 0x16B50, 0x1D7CE, 0x1D7D8, 0x1D7E2, 0x1D7EC, 0x1D7F6, 0x1E140, 0x1E2F0,
   0x1E950, 0x1FBF0]

/-- The value of a decimal digit of any script, `none` for other characters. -/
def digitValue? (c : Char) : Option Nat :=
  digitZeros.findSome? fun z =>
    if z ≤ c.toNat && c.toNat < z + 10 then some (c.toNat - z) else none

example : digitValue? '٣' = some 3 := by decide

/-- The value of an ASCII digit `0`..`9`, `none` for other characters. -/
def asciiDigit? (c : Char) : Option Nat :=
  if '0' ≤ c && c ≤ '9' then some (c.toNat - '0'.toNat) else none

end Text

end RoadAtlas
