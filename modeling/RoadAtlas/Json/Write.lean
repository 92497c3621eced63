import RoadAtlas.Json.Value
import RoadAtlas.Number.Shortest
import RoadAtlas.Text.Surrogate

/-!
# Writing JSON text

`Json.render` writes a value as compact JSON text. Strings escape the quote, the backslash and
the control characters below `U+0020`, and write an unpaired surrogate as its `\u` escape; all
other characters are written as they are. Integers
are written in full. A double is written with its shortest digits (`Binary64.shortest`) in the
layout `FloatLayout.standard`: positional from `0.0001` up to below `10 ^ 16`, always with a
fractional part (`90.0`), and otherwise with an exponent of at least two digits and a sign
(`1e-07`, `1e+16`). The non-finite doubles are written `NaN`, `Infinity` and `-Infinity`.

## Main definitions

* `FloatLayout`, `FloatLayout.standard`: where positional notation ends and how exponents look.
* `Binary64.toText`: the text of a double.
* `Json.render`: the text of a value.
* `Json.encodable`: whether the text of a value can be sent as UTF-8.
-/

namespace RoadAtlas

/-- How a double is written once its digits are known. -/
structure FloatLayout where
  /-- With digits `d₁d₂…` and value `0.d₁d₂… · 10 ^ p`, positional notation is used when `lowest < p ≤ highest`. -/
  lowest : Int
  highest : Int
  /-- At least this many exponent digits. -/
  exponentDigits : Nat
  /-- A whole number written positionally ends in `.0`. -/
  pointZero : Bool

/-- Doubles are positional from `0.0001` to below `10 ^ 16`, with two exponent digits beyond. -/
def FloatLayout.standard : FloatLayout := ⟨-4, 16, 2, true⟩

namespace Binary64

/-- Decimal digits of a natural number. -/
def digitString (n : Nat) : String := String.ofList (Nat.toDigits 10 n)

/-- The text of a positive numeral `coeff · 10 ^ exp` whose coefficient has no trailing zero. -/
def numeralText (layout : FloatLayout) (d : Digits) : String :=
  let ds := digitString d.coeff
  let n := ds.length
  let point : Int := d.exp + n
  if layout.lowest < point && point ≤ layout.highest then
    if point ≤ 0 then "0." ++ String.ofList (List.replicate (-point).toNat '0') ++ ds
    else if point < n then
      String.ofList (ds.toList.take point.toNat) ++ "." ++ String.ofList (ds.toList.drop point.toNat)
    else ds ++ String.ofList (List.replicate (point.toNat - n) '0') ++
      (if layout.pointZero then ".0" else "")
  else
    let e := point - 1
    let mantissa := match ds.toList with
      | c :: rest => if rest.isEmpty then c.toString else c.toString ++ "." ++ String.ofList rest
      | [] => "0"
    let expDigits := digitString e.natAbs
    let padded := String.ofList (List.replicate (layout.exponentDigits - expDigits.length) '0') ++ expDigits
    mantissa ++ "e" ++ (if e < 0 then "-" else "+") ++ padded

/-- The text of a double in a layout. -/
def toText (x : Binary64) (layout : FloatLayout := .standard) : String :=
  if x.isNaN then "NaN"
  else if x.isInf then (if x.sign then "-Infinity" else "Infinity")
  else
    let sign := if x.sign then "-" else ""
    if x.mag = 0 then sign ++ (if layout.pointZero then "0.0" else "0")
    else sign ++ numeralText layout x.shortest

end Binary64

namespace Json

/-- Lower-case hexadecimal of `n` in four digits. -/
def hex4 (n : Nat) : String :=
  let s := Nat.toDigits 16 n
  String.ofList (List.replicate (4 - s.length) '0' ++ s)

/-- The escape of one character inside a JSON string. -/
def escapeChar (c : Char) : String :=
  if c = '"' then "\\\""
  else if c = '\\' then "\\\\"
  else if c = '\n' then "\\n"
  else if c = '\r' then "\\r"
  else if c = '\t' then "\\t"
  else if c.toNat < 0x20 then "\\u" ++ hex4 c.toNat
  else c.toString

/-- The escape of one symbol inside a JSON string: an unpaired surrogate is its `\u` escape. -/
def escapeSymbol : Text.Symbol → String
  | .char c => escapeChar c
  | .surrogate k => "\\u" ++ hex4 (0xD800 + k.val)

/-- A JSON string literal. -/
def quote (s : String) : String := "\"" ++ String.join ((Text.symbols s).map escapeSymbol) ++ "\""

/-- Text of an integer. -/
def intText (n : Int) : String :=
  if n < 0 then "-" ++ Binary64.digitString n.natAbs else Binary64.digitString n.natAbs

mutual

/-- The compact text of a value. -/
def render : Json → String
  | .null => "null"
  | .bool true => "true"
  | .bool false => "false"
  | .int n => intText n
  | .float x => x.toText
  | .str s => quote s
  | .arr items => "[" ++ renderItems items ++ "]"
  | .obj fields => "\x7b" ++ renderFields fields ++ "\x7d"

/-- The items of an array, separated by commas. -/
def renderItems : List Json → String
  | [] => ""
  | [v] => render v
  | v :: rest => render v ++ "," ++ renderItems rest

/-- The members of an object, separated by commas. -/
def renderFields : List (String × Json) → String
  | [] => ""
  | [(k, v)] => quote k ++ ":" ++ render v
  | (k, v) :: rest => quote k ++ ":" ++ render v ++ "," ++ renderFields rest

end

mutual

/-- Whether a value's text can be sent as UTF-8: no string and no key holds an unpaired
surrogate. -/
def encodable : Json → Bool
  | .str s => !Text.hasSurrogate s
  | .arr items => encodableItems items
  | .obj fields => encodableFields fields
  | _ => true

/-- Whether every item is encodable. -/
def encodableItems : List Json → Bool
  | [] => true
  | v :: rest => encodable v && encodableItems rest

/-- Whether every key and value of some members is encodable. -/
def encodableFields : List (String × Json) → Bool
  | [] => true
  | (k, v) :: rest => !Text.hasSurrogate k && encodable v && encodableFields rest

end

end Json

end RoadAtlas
