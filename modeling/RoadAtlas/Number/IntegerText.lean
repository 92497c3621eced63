import RoadAtlas.Text.Classes

/-!
# Integer literals in text

`readInteger` reads a decimal integer literal the way a lenient reader of typed-in numbers
does: blanks around it, an optional sign, then decimal digits of any script, with single
underscores allowed between two digits. The blanks are the ASCII tab to carriage return and
space, and every non-ASCII blank; the information separators `U+001C`..`U+001F` are not. A run
of more than `maxDigits` digits is refused on its own account as soon as it is read, whatever
text follows it; an underscore out of place is found while reading the run, and so first.

## Main definitions

* `IntegerText.Error`: why a text is not read.
* `readInteger`: the reader.
* `digitsValue`: the value of a run of digit values.
-/

namespace RoadAtlas

namespace IntegerText

/-- Why a text does not read as an integer. -/
inductive Error where
  /-- The text is not an integer literal. -/
  | invalid
  /-- The literal has more digits than a conversion accepts; it has `count`. -/
  | tooManyDigits (count : Nat)
deriving DecidableEq, Repr

/-- The largest number of digits a literal may have. -/
def maxDigits : Nat := 4300

/-- A blank around an integer literal. -/
def isIntegerBlank (c : Char) : Bool :=
  if c.toNat < 0x7F then c = ' ' || ('\t' ≤ c && c ≤ '\r') else Text.isBlank c

/-- One element of the body of a literal: a digit with its value, an underscore, or anything else. -/
inductive Piece where
  | digit (v : Nat)
  | underscore
  | other
deriving DecidableEq, Repr

/-- The piece a character stands for. ASCII characters other than `0`..`9` are never digits. -/
def pieceOf (c : Char) : Piece :=
  if c = '_' then .underscore
  else if c.toNat < 0x7F then
    match Text.asciiDigit? c with
    | some v => .digit v
    | none => .other
  else
    match Text.digitValue? c with
    | some v => .digit v
    | none => .other

/-- The piece an ASCII character stands for; no other character is a digit. -/
def asciiPieceOf (c : Char) : Piece :=
  if c = '_' then .underscore
  else
    match Text.asciiDigit? c with
    | some v => .digit v
    | none => .other

/-- The value of digit values read most significant first. -/
def digitsValue (ds : List Nat) : Nat := ds.foldl (fun acc d => 10 * acc + d) 0

/--
The digit values at the front of a body, with `piece` telling digits and underscores, and what
follows them; `none` when an underscore stands first, last, or next to another underscore.
`afterUnderscore` holds when the previous character was an underscore, or at the start, where a
digit must come first.
-/
def scanDigitsWith (piece : Char → Piece) :
    (afterUnderscore : Bool) → List Char → Option (List Nat × List Char)
  | u, [] => if u then none else some ([], [])
  | u, c :: rest =>
    match piece c with
    | .digit v => (scanDigitsWith piece false rest).map fun (ds, tail) => (v :: ds, tail)
    | .underscore => if u then none else scanDigitsWith piece true rest
    | .other => if u then none else some ([], c :: rest)

/-- `scanDigitsWith` for digits of any script. -/
def scanDigits (afterUnderscore : Bool) (cs : List Char) : Option (List Nat × List Char) :=
  scanDigitsWith pieceOf afterUnderscore cs

/-- Reads an integer literal. -/
def readInteger (s : String) : Except Error Int :=
  let cs := s.toList.dropWhile isIntegerBlank
  let (negative, body) :=
    match cs with
    | '+' :: rest => (false, rest)
    | '-' :: rest => (true, rest)
    | _ => (false, cs)
  match scanDigits true body with
  | none => .error .invalid
  | some (ds, tail) =>
    if maxDigits < ds.length then .error (.tooManyDigits ds.length)
    else if ds.isEmpty then .error .invalid
    else if !(tail.all isIntegerBlank) then .error .invalid
    else
      let n := digitsValue ds
      .ok (if negative then -(n : Int) else (n : Int))

example : readInteger "1_000" = .ok 1000 := by rfl

example : readInteger "1__0" = .error .invalid := by rfl

end IntegerText

end RoadAtlas
