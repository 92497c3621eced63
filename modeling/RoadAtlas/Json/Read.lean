import RoadAtlas.Json.Value
import RoadAtlas.Number.Rounding
import RoadAtlas.Number.IntegerText
import RoadAtlas.Text.Surrogate

/-!
# Reading JSON text

`Json.parse` reads one JSON value surrounded by optional blanks (space, tab, line feed,
carriage return). Beyond strict JSON it takes the words `NaN`, `Infinity` and `-Infinity` for
the non-finite doubles, a numeral with a fraction or an exponent is a double (correctly rounded,
overflowing to an infinity) and any other numeral an integer of any size, and an object that
repeats a key keeps the key's first place and its last value (`Json.objOf`).

The text is read as code points (`Text.symbols`), so an unpaired surrogate in it is one code
point, and a string keeps it. A text that is not read is refused with a `Problem` at a code
point position (from zero), which `ReadError.message` turns into a message naming the line and
the column. The rules for where each problem is reported:

* a value is expected where none starts, also after a `,` inside an array, and where a numeral
  has no digits (`-`, `.5`);
* inside an object a key must start with `"`, a `:` must follow it, and after a member only `,`
  or `}` may follow; inside an array only `,` or `]`;
* a string ends at its closing quote; a control character below `U+0020` inside it, an unknown
  escape (reported at the backslash) and a `\u` escape without four hexadecimal digits (reported
  at the `u`) are refused; a high surrogate escape followed by a low surrogate escape is one
  character;
* a numeral takes no leading zeros: `01` reads `0` and then finds `1` where a `,` belongs;
* after the value only blanks may follow;
* a byte order mark at the start is refused at position zero.

An integer numeral of more than 4300 digits is refused as too long to convert, and arrays and
objects nested more than `nestingLimit` deep are refused as too deep to read.

Strings keep unpaired surrogates, written or escaped, encoded as `Text.encode` says.
-/

namespace RoadAtlas

namespace Json

/-- What is wrong with a JSON text at some position. -/
inductive Problem where
  | expectingValue
  | expectingPropertyName
  | expectingColon
  | expectingComma
  | extraData
  | unterminatedString
  | invalidControl
  | invalidEscape
  | invalidUnicodeEscape
  | byteOrderMark
deriving DecidableEq, Repr

/-- The words of each problem. -/
def Problem.text : Problem → String
  | .expectingValue => "Expecting value"
  | .expectingPropertyName => "Expecting property name enclosed in double quotes"
  | .expectingColon => "Expecting ':' delimiter"
  | .expectingComma => "Expecting ',' delimiter"
  | .extraData => "Extra data"
  | .unterminatedString => "Unterminated string starting at"
  | .invalidControl => "Invalid control character at"
  | .invalidEscape => "Invalid \\escape"
  | .invalidUnicodeEscape => "Invalid \\uXXXX escape"
  | .byteOrderMark => "Unexpected UTF-8 BOM (decode using utf-8-sig)"

/-- Why a JSON text was not read. -/
inductive ReadError where
  /-- The text is not JSON: `problem` at character `pos`. -/
  | malformed (problem : Problem) (pos : Nat)
  /-- An integer numeral has `count` digits, more than a conversion takes. -/
  | tooManyDigits (count : Nat)
  /-- Arrays and objects nest deeper than the reader goes; the innermost is an array or not. -/
  | tooDeep (inArray : Bool)
deriving DecidableEq, Repr

/-- Line (from one) and column (from one) of a code point position in a text. -/
def lineColumn (doc : List Text.Symbol) (pos : Nat) : Nat × Nat :=
  let before := doc.take pos
  (before.count (.char '\n') + 1, (before.reverse.takeWhile (· ≠ .char '\n')).length + 1)

/-- The message of a decoding problem: its words, line, column and code point position. -/
def malformedMessage (doc : String) (problem : Problem) (pos : Nat) : String :=
  let (line, column) := lineColumn (Text.symbols doc) pos
  s!"{problem.text}: line {line} column {column} (char {pos})"

/-- The message of a refusal of the text `doc`. -/
def ReadError.message (doc : String) : ReadError → String
  | .malformed problem pos => malformedMessage doc problem pos
  | .tooManyDigits count =>
    s!"Exceeds the limit (4300 digits) for integer string conversion: value has {count} digits; use sys.set_int_max_str_digits() to increase the limit"
  | .tooDeep inArray =>
    "maximum recursion depth exceeded while decoding a JSON " ++
      (if inArray then "array" else "object") ++ " from a unicode string"

/-- The blanks allowed around JSON tokens. -/
def isBlank (c : Char) : Bool := c = ' ' || c = '\t' || c = '\n' || c = '\r'

/-- Whether a character is an ASCII digit. -/
def isDigit (c : Char) : Bool := '0' ≤ c && c ≤ '9'

/-- A JSON text as the reader sees it: its code points, unpaired surrogates included. -/
abbrev Source := Array Text.Symbol

/-- The character at a position of a text; `none` past its end and at an unpaired surrogate,
which no rule of the grammar names. -/
def charAt? (s : Source) (i : Nat) : Option Char :=
  match s[i]? with
  | some (.char c) => some c
  | _ => none

/-- The character at a position, or a space where `charAt?` has none. -/
def charAtD (s : Source) (i : Nat) : Char := (charAt? s i).getD ' '

/-- The first position at or after `i` that holds no blank. -/
def skipBlanks (s : Source) (i : Nat) : Nat :=
  if i < s.size then
    if (charAt? s i).any isBlank then skipBlanks s (i + 1) else i
  else i
termination_by s.size - i

/-- The first position at or after `i` that holds no ASCII digit. -/
def skipDigits (s : Source) (i : Nat) : Nat :=
  if i < s.size then
    if (charAt? s i).any isDigit then skipDigits s (i + 1) else i
  else i
termination_by s.size - i

/-- The value of one hexadecimal digit. -/
def hexValue? (c : Char) : Option Nat :=
  if '0' ≤ c && c ≤ '9' then some (c.toNat - '0'.toNat)
  else if 'a' ≤ c && c ≤ 'f' then some (c.toNat - 'a'.toNat + 10)
  else if 'A' ≤ c && c ≤ 'F' then some (c.toNat - 'A'.toNat + 10)
  else none

/-- The value of the four hexadecimal digits at `i`. -/
def hex4? (s : Source) (i : Nat) : Option Nat := do
  let a ← hexValue? (charAtD s i)
  let b ← hexValue? (charAtD s (i + 1))
  let c ← hexValue? (charAtD s (i + 2))
  let d ← hexValue? (charAtD s (i + 3))
  pure (4096 * a + 256 * b + 16 * c + d)

/--
The symbol a `\u` escape stands for: a character, or an unpaired surrogate.
-/
def escapedSymbol (n : Nat) : Text.Symbol :=
  if h : 0xD800 ≤ n ∧ n < 0xE000 then .surrogate ⟨n - 0xD800, by omega⟩ else .char (Char.ofNat n)

/-- The character a one-letter escape stands for. -/
def simpleEscape? (c : Char) : Option Char :=
  match c with
  | '"' => some '"'
  | '\\' => some '\\'
  | '/' => some '/'
  | 'b' => some '\x08'
  | 'f' => some '\x0c'
  | 'n' => some '\n'
  | 'r' => some '\r'
  | 't' => some '\t'
  | _ => none

/--
The `\u` escape whose `u` stands at `u`: the symbol and the position after the escape,
joining a high surrogate with a following low surrogate escape.
-/
def unicodeEscape (s : Source) (u : Nat) : Except ReadError (Text.Symbol × Nat) :=
  if s.size ≤ u + 5 then .error (.malformed .invalidUnicodeEscape u)
  else
    match hex4? s (u + 1) with
    | none => .error (.malformed .invalidUnicodeEscape u)
    | some c =>
      let stop := u + 5
      if 0xD800 ≤ c && c ≤ 0xDBFF && stop + 6 < s.size &&
          charAtD s stop = '\\' && charAtD s (stop + 1) = 'u' then
        match hex4? s (stop + 2) with
        | none => .error (.malformed .invalidUnicodeEscape (stop + 1))
        | some c2 =>
          if 0xDC00 ≤ c2 && c2 ≤ 0xDFFF then
            .ok (escapedSymbol (0x10000 + 1024 * (c - 0xD800) + (c2 - 0xDC00)), stop + 6)
          else .ok (escapedSymbol c, stop)
      else .ok (escapedSymbol c, stop)

/--
The rest of a string whose opening quote stands at `start`, read from `i` with `acc` read so
far: its text (unpaired surrogates encoded, `Text.encode`) and the position after the closing
quote.
-/
def scanString (s : Source) (start : Nat) (i : Nat) (acc : String) :
    Except ReadError (String × Nat) :=
  if h : i < s.size then
    let x := s[i]
    match x with
    | .char '"' => .ok (acc, i + 1)
    | .char '\\' =>
      if i + 1 < s.size then
        match charAt? s (i + 1) with
        | some 'u' =>
          match unicodeEscape s (i + 1) with
          | .error err => .error err
          | .ok (ch, next) =>
            if i < next then scanString s start next (ch.chars.foldl String.push acc)
            else .error (.malformed .invalidUnicodeEscape (i + 1))
        | some e =>
          match simpleEscape? e with
          | some ch => scanString s start (i + 2) (acc.push ch)
          | none => .error (.malformed .invalidEscape i)
        | none => .error (.malformed .invalidEscape i)
      else .error (.malformed .unterminatedString start)
    | .char c =>
      if c.toNat ≤ 0x1F then .error (.malformed .invalidControl i)
      else scanString s start (i + 1) (x.chars.foldl String.push acc)
    | .surrogate _ => scanString s start (i + 1) (x.chars.foldl String.push acc)
  else .error (.malformed .unterminatedString start)
termination_by s.size - i

/-- The code points of `s` from `i` up to `j`, not included. -/
def slice (s : Source) (i j : Nat) : List Text.Symbol := ((s.toList.take j).drop i)

/-- The characters of `s` from `i` up to `j`, not included, leaving out unpaired surrogates. -/
def charsBetween (s : Source) (i j : Nat) : List Char :=
  (slice s i j).filterMap fun x => match x with
    | .char c => some c
    | .surrogate _ => none

/-- The value of a run of ASCII digits. -/
def asciiValue (cs : List Char) : Nat :=
  IntegerText.digitsValue (cs.map fun c => c.toNat - '0'.toNat)

/--
The double a numeral stands for, from its characters: sign, integer digits, fraction digits,
exponent.
-/
def doubleOfNumeral (cs : List Char) : Binary64 :=
  let (neg, body) := match cs with
    | '-' :: rest => (true, rest)
    | _ => (false, cs)
  let whole := body.takeWhile isDigit
  let afterWhole := body.dropWhile isDigit
  let frac := match afterWhole with
    | '.' :: rest => rest.takeWhile isDigit
    | _ => []
  let afterFrac := match afterWhole with
    | '.' :: rest => rest.dropWhile isDigit
    | _ => afterWhole
  let expo : Int := match afterFrac with
    | 'e' :: '-' :: ds => -(asciiValue ds : Int)
    | 'E' :: '-' :: ds => -(asciiValue ds : Int)
    | 'e' :: '+' :: ds => (asciiValue ds : Int)
    | 'E' :: '+' :: ds => (asciiValue ds : Int)
    | 'e' :: ds => (asciiValue ds : Int)
    | 'E' :: ds => (asciiValue ds : Int)
    | _ => 0
  Binary64.ofDecimal neg (asciiValue (whole ++ frac)) (expo - frac.length)

/--
The end of the numeral that starts at `start` and whether it is a double, or `none` when no
numeral starts there.
-/
def numeralEnd (s : Source) (start : Nat) : Option (Nat × Bool) :=
  let i := if charAtD s start = '-' then start + 1 else start
  if s.size ≤ i then none
  else
    let c := charAtD s i
    let afterWhole? : Option Nat :=
      if '1' ≤ c && c ≤ '9' then some (skipDigits s (i + 1))
      else if c = '0' then some (i + 1)
      else none
    match afterWhole? with
    | none => none
    | some i =>
      let (i, hasFrac) :=
        if i + 1 < s.size && charAtD s i = '.' && isDigit (charAtD s (i + 1)) then
          (skipDigits s (i + 2), true)
        else (i, false)
      if i + 1 < s.size && (charAtD s i = 'e' || charAtD s i = 'E') then
        let j := i + 1
        let j := if j + 1 < s.size && (charAtD s j = '-' || charAtD s j = '+') then j + 1 else j
        let j := skipDigits s j
        if isDigit (charAtD s (j - 1)) then some (j, true) else some (i, hasFrac)
      else some (i, hasFrac)

/-- The numeral at `start` as a value and the position after it, or `none` when none starts there. -/
def scanNumber (s : Source) (start : Nat) : Option (Except ReadError (Json × Nat)) :=
  (numeralEnd s start).map fun (stop, isDouble) =>
    let cs := charsBetween s start stop
    if isDouble then .ok (.float (doubleOfNumeral cs), stop)
    else
      let digits := cs.filter isDigit
      if IntegerText.maxDigits < digits.length then .error (.tooManyDigits digits.length)
      else
        let n := asciiValue digits
        .ok (.int (if cs.head? = some '-' then -(n : Int) else (n : Int)), stop)

/-- Whether the characters of `word` stand at `i`, with at least one character after them. -/
def wordAt (s : Source) (i : Nat) (word : String) : Bool :=
  i + word.length < s.size + 1 && slice s i (i + word.length) = word.toList.map .char

/-- How deeply arrays and objects may nest in a text that is read. -/
def nestingLimit : Nat := 990

mutual

/-- One value starting at `i` and the position after it. `room` is how many more arrays and
objects may open around it; `fuel` bounds the recursion. -/
def scanValue (s : Source) (room : Nat) : Nat → Nat → Except ReadError (Json × Nat)
  | 0, i => .error (.malformed .expectingValue i)
  | fuel + 1, i =>
    match charAt? s i with
    | none => .error (.malformed .expectingValue i)
    | some '"' => (scanString s i (i + 1) "").map fun (t, j) => (.str t, j)
    | some '{' => if room = 0 then .error (.tooDeep false) else scanObject s (room - 1) fuel (i + 1)
    | some '[' => if room = 0 then .error (.tooDeep true) else scanArray s (room - 1) fuel (i + 1)
    | some c =>
      if c = 'n' && wordAt s i "null" then .ok (.null, i + 4)
      else if c = 't' && wordAt s i "true" then .ok (.bool true, i + 4)
      else if c = 'f' && wordAt s i "false" then .ok (.bool false, i + 5)
      else if c = 'N' && wordAt s i "NaN" then .ok (.float Binary64.nan, i + 3)
      else if c = 'I' && wordAt s i "Infinity" then .ok (.float (Binary64.inf false), i + 8)
      else if c = '-' && wordAt s i "-Infinity" then .ok (.float (Binary64.inf true), i + 9)
      else
        match scanNumber s i with
        | some r => r
        | none => .error (.malformed .expectingValue i)
termination_by structural fuel _ => fuel

/-- An array whose `[` stands before `i`, and the position after its `]`. -/
def scanArray (s : Source) (room : Nat) : Nat → Nat → Except ReadError (Json × Nat)
  | 0, i => .error (.malformed .expectingValue i)
  | fuel + 1, i =>
    let i := skipBlanks s i
    if charAt? s i = some ']' then .ok (.arr [], i + 1)
    else (scanItems s room fuel i []).map fun (items, j) => (.arr items, j)
termination_by structural fuel _ => fuel

/-- The items of an array from `i` on, after the items `acc`, and the position after the `]`. -/
def scanItems (s : Source) (room : Nat) :
    Nat → Nat → List Json → Except ReadError (List Json × Nat)
  | 0, i, _ => .error (.malformed .expectingValue i)
  | fuel + 1, i, acc =>
    match scanValue s room fuel i with
    | .error e => .error e
    | .ok (v, j) =>
      let j := skipBlanks s j
      match charAt? s j with
      | some ']' => .ok ((v :: acc).reverse, j + 1)
      | some ',' => scanItems s room fuel (skipBlanks s (j + 1)) (v :: acc)
      | _ => .error (.malformed .expectingComma j)
termination_by structural fuel _ _ => fuel

/-- An object whose `{` stands before `i`, and the position after its `}`. -/
def scanObject (s : Source) (room : Nat) : Nat → Nat → Except ReadError (Json × Nat)
  | 0, i => .error (.malformed .expectingValue i)
  | fuel + 1, i =>
    let i := skipBlanks s i
    if charAt? s i = some '}' then .ok (.obj [], i + 1)
    else (scanMembers s room fuel i []).map fun (fields, j) => (.obj fields, j)
termination_by structural fuel _ => fuel

/-- The members of an object from `i` on, after the members `acc`, and the position after the `}`. -/
def scanMembers (s : Source) (room : Nat) :
    Nat → Nat → List (String × Json) → Except ReadError (List (String × Json) × Nat)
  | 0, i, _ => .error (.malformed .expectingValue i)
  | fuel + 1, i, acc =>
    if charAt? s i ≠ some '"' then .error (.malformed .expectingPropertyName i)
    else
      match scanString s i (i + 1) "" with
      | .error e => .error e
      | .ok (key, j) =>
        let j := skipBlanks s j
        if charAt? s j ≠ some ':' then .error (.malformed .expectingColon j)
        else
          match scanValue s room fuel (skipBlanks s (j + 1)) with
          | .error e => .error e
          | .ok (v, k) =>
            let acc := setField key v acc
            let k := skipBlanks s k
            match charAt? s k with
            | some '}' => .ok (acc, k + 1)
            | some ',' => scanMembers s room fuel (skipBlanks s (k + 1)) acc
            | _ => .error (.malformed .expectingComma k)
termination_by structural fuel _ _ => fuel

end

/-- Reads a JSON text that holds one value and nothing but blanks around it. -/
def parse (text : String) : Except ReadError Json :=
  let s : Source := (Text.symbols text).toArray
  if charAt? s 0 = some '\uFEFF' then .error (.malformed .byteOrderMark 0)
  else
    match scanValue s nestingLimit (4 * s.size + 8) (skipBlanks s 0) with
    | .error e => .error e
    | .ok (v, j) =>
      let j := skipBlanks s j
      if j = s.size then .ok v else .error (.malformed .extraData j)

end Json

end RoadAtlas
