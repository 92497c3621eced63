import RoadAtlas.Text.Printable
import RoadAtlas.Text.Surrogate

/-!
# Quoted text

The quoted form of a text, as error messages show a value that could not be read: the text
between single quotes, or between double quotes when it holds a single quote and no double
quote. The backslash and the chosen quote are escaped, tab, line feed and carriage return are
written `\t`, `\n`, `\r`, and other characters that do not print are written by their code
point: `\xhh` below `0x100`, `\uhhhh` below `0x10000`, `\Uhhhhhhhh` above.

Which characters print is the table of `Text.printable`.

## Main definitions

* `Text.quoted`: the quoted form.
-/

namespace RoadAtlas

namespace Text

/-- Lower-case hexadecimal digits of `n`, padded with zeros to `width`. -/
def hexDigits (n width : Nat) : String :=
  let s := Nat.toDigits 16 n
  String.ofList (List.replicate (width - s.length) '0' ++ s)

/-- The escape of one character inside a text quoted with `quote`. -/
def escapeChar (quote : Char) (c : Char) : String :=
  if c = '\\' then "\\\\"
  else if c = quote then "\\" ++ c.toString
  else if c = '\t' then "\\t"
  else if c = '\n' then "\\n"
  else if c = '\r' then "\\r"
  else if printable c then c.toString
  else if c.toNat < 0x100 then "\\x" ++ hexDigits c.toNat 2
  else if c.toNat < 0x10000 then "\\u" ++ hexDigits c.toNat 4
  else "\\U" ++ hexDigits c.toNat 8

/-- The escape of one symbol inside a text quoted with `quote`; an unpaired surrogate does not
print. -/
def escapeSymbol (quote : Char) : Symbol → String
  | .char c => escapeChar quote c
  | .surrogate k => "\\u" ++ hexDigits (0xD800 + k.val) 4

/-- The quote a text is written between. -/
def quoteOf (s : String) : Char :=
  if s.contains '\'' && !s.contains '"' then '"' else '\''

/-- The quoted form of a text. -/
def quoted (s : String) : String :=
  let q := quoteOf s
  q.toString ++ String.join ((symbols s).map (escapeSymbol q)) ++ q.toString

/-- The first `n` characters of a text. -/
def takeChars (s : String) (n : Nat) : String := String.ofList (s.toList.take n)

end Text

end RoadAtlas
