import RoadAtlas.Text.Surrogate

/-!
# Percent-encoding and query strings

Request targets carry text as UTF-8 bytes, some written as `%XX` escapes.

* Decoding (`percentDecode`) turns every escape of two hexadecimal digits into its byte and reads
  each run of bytes as UTF-8, where an ill-formed sequence becomes one `U+FFFD` per maximal
  ill-formed part; a `%` without two hexadecimal digits stands for itself, and code points
  beyond ASCII stand for themselves. Decoding reads and writes text as code points
  (`Text.symbols`, `Text.encode`).
* A query string is split at `&` into fields, empty fields dropped; a field is split at its
  first `=` (a field without one has an empty value), and name and value are decoded after
  turning `+` into a space.
* Encoding (`percentEncode`) keeps the characters that a predicate allows and writes every
  other byte of the UTF-8 form as `%XX` with capital hexadecimal digits.

## Main definitions

* `Http.utf8Bytes`, `Http.utf8Decode`: characters and UTF-8 bytes.
* `Http.percentDecode`, `Http.queryFields`, `Http.percentEncode`.
-/

namespace RoadAtlas

namespace Http

/-- The UTF-8 bytes of a character. -/
def utf8Bytes (c : Char) : List Nat :=
  let n := c.toNat
  if n < 0x80 then [n]
  else if n < 0x800 then [0xC0 + n / 64, 0x80 + n % 64]
  else if n < 0x10000 then [0xE0 + n / 4096, 0x80 + n / 64 % 64, 0x80 + n % 64]
  else [0xF0 + n / 262144, 0x80 + n / 4096 % 64, 0x80 + n / 64 % 64, 0x80 + n % 64]

/-- The replacement character for ill-formed bytes. -/
def replacement : Char := '�'

/-- How a UTF-8 sequence goes on after its first byte: the number of continuation bytes, the
range of the first of them, and the value bits of the first byte. `none` for a byte that starts
no sequence. -/
def leadOf (b : Nat) : Option (Nat × Nat × Nat × Nat) :=
  if 0xC2 ≤ b ∧ b ≤ 0xDF then some (1, 0x80, 0xBF, b % 32)
  else if b = 0xE0 then some (2, 0xA0, 0xBF, 0)
  else if b = 0xED then some (2, 0x80, 0x9F, 13)
  else if 0xE1 ≤ b ∧ b ≤ 0xEF then some (2, 0x80, 0xBF, b % 16)
  else if b = 0xF0 then some (3, 0x90, 0xBF, 0)
  else if b = 0xF4 then some (3, 0x80, 0x8F, 4)
  else if 0xF1 ≤ b ∧ b ≤ 0xF3 then some (3, 0x80, 0xBF, b % 8)
  else none

/-- Continuation bytes at the front, the first within `lo ..= hi` and the others within
`0x80 ..= 0xBF`, at most `need` of them: how many there are and the value they build on `acc`. -/
def continuation : Nat → Nat → Nat → Nat → List Nat → Nat × Nat
  | 0, _, _, acc, _ => (0, acc)
  | _ + 1, _, _, acc, [] => (0, acc)
  | need + 1, lo, hi, acc, b :: rest =>
    if lo ≤ b ∧ b ≤ hi then
      let (k, v) := continuation need 0x80 0xBF (64 * acc + b % 64) rest
      (k + 1, v)
    else (0, acc)

/-- One character from the front of some bytes, and how many bytes it took (at least one). -/
def decodeFront (b : Nat) (rest : List Nat) : Char × Nat :=
  if b < 0x80 then (Char.ofNat b, 1)
  else
    match leadOf b with
    | none => (replacement, 1)
    | some (need, lo, hi, bits) =>
      let r := continuation need lo hi bits rest
      if r.1 = need then (Char.ofNat r.2, need + 1) else (replacement, r.1 + 1)

theorem continuation_le_length (need lo hi acc : Nat) (bs : List Nat) :
    (continuation need lo hi acc bs).1 ≤ bs.length := by
  induction need generalizing lo hi acc bs with
  | zero => simp [continuation]
  | succ n ih =>
    cases bs with
    | nil => simp [continuation]
    | cons b rest =>
      simp only [continuation]
      split
      · have := ih 0x80 0xBF (64 * acc + b % 64) rest
        simp only [List.length_cons]
        omega
      · simp

theorem decodeFront_bounds (b : Nat) (rest : List Nat) :
    0 < (decodeFront b rest).2 ∧ (decodeFront b rest).2 ≤ rest.length + 1 := by
  unfold decodeFront
  split
  · simp
  · split
    · simp
    · rename_i need lo hi bits _
      have := continuation_le_length need lo hi bits rest
      simp only
      split <;> simp only <;> omega

/-- Bytes read as UTF-8, ill-formed parts replaced. -/
def utf8Decode (bytes : List Nat) : List Char :=
  match bytes with
  | [] => []
  | b :: rest =>
    let r := decodeFront b rest
    r.1 :: utf8Decode ((b :: rest).drop r.2)
termination_by bytes.length
decreasing_by
  have h := decodeFront_bounds b rest
  simp only [List.length_drop, List.length_cons]
  omega

/-- The value of a hexadecimal digit. -/
def hexValue? (c : Char) : Option Nat :=
  if '0' ≤ c ∧ c ≤ '9' then some (c.toNat - 48)
  else if 'a' ≤ c ∧ c ≤ 'f' then some (c.toNat - 87)
  else if 'A' ≤ c ∧ c ≤ 'F' then some (c.toNat - 55)
  else none

/-- A piece of encoded text: a byte, or a code point beyond ASCII. -/
inductive Piece where
  | byte (b : Nat)
  | symbol (x : Text.Symbol)

/-- The pieces of encoded text. -/
def pieces : List Text.Symbol → List Piece
  | [] => []
  | .char '%' :: .char a :: .char b :: rest =>
    match hexValue? a, hexValue? b with
    | some x, some y => .byte (16 * x + y) :: pieces rest
    | _, _ => .byte 0x25 :: pieces (.char a :: .char b :: rest)
  | .char c :: rest => (if c.toNat < 0x80 then .byte c.toNat else .symbol (.char c)) :: pieces rest
  | x :: rest => .symbol x :: pieces rest

/-- A run of bytes read as UTF-8, as code points. -/
def decodeRun (run : List Nat) : List Text.Symbol := (utf8Decode run.reverse).map .char

/-- Pieces as code points: runs of bytes read as UTF-8. -/
def assemble (ps : List Piece) (run : List Nat) : List Text.Symbol :=
  match ps with
  | [] => decodeRun run
  | .byte b :: rest => assemble rest (b :: run)
  | .symbol x :: rest => decodeRun run ++ x :: assemble rest []

/-- Percent-decoded text. -/
def percentDecode (s : String) : String := Text.encode (assemble (pieces (Text.symbols s)) [])

/-- A query string as its fields, names and values decoded. -/
def queryFields (query : String) : List (String × String) :=
  ((query.splitOn "&").filter (· ≠ "")).map fun field =>
    let plain (t : String) := percentDecode (t.map fun c => if c = '+' then ' ' else c)
    match field.splitOn "=" with
    | [] => ("", "")
    | [name] => (plain name, "")
    | name :: rest => (plain name, plain ("=".intercalate rest))

/-- A capital hexadecimal digit. -/
def hexDigit (n : Nat) : Char := Char.ofNat (if n < 10 then 48 + n else 55 + n)

/-- Text with every character outside `keep` written as escapes of its UTF-8 bytes. -/
def percentEncode (keep : Char → Bool) (s : String) : String :=
  String.join (s.toList.map fun c =>
    if keep c then c.toString
    else String.join ((utf8Bytes c).map fun b => String.ofList ['%', hexDigit (b / 16), hexDigit (b % 16)]))

/-- The characters that no encoding escapes: ASCII letters, digits, `-`, `.`, `_` and `~`. -/
def unreserved (c : Char) : Bool :=
  ('A' ≤ c ∧ c ≤ 'Z') || ('a' ≤ c ∧ c ≤ 'z') || ('0' ≤ c ∧ c ≤ '9') || "-._~".contains c

end Http

end RoadAtlas
