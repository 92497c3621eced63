/-!
# Unpaired surrogates in text

JSON text can escape a surrogate code point that has no partner (`"\ud800"`), and a reader of
JSON keeps it in the string as one more character. No character of a `String` is a surrogate,
so text holding such code points is encoded: the surrogate `0xD800 + k` is the marker character
`U+10FFFF` followed by the private-use character `U+100000 + k`, and a marker that stands in the
text for itself is written twice. Text without the marker is its own encoding, and the encoding
is injective (`symbols_encode`).

Functions that see text as a sequence of code points (its length, its items, its quoted form,
its JSON form) read it through `Text.symbols`; all others may treat the encoding as plain text,
since the marker and the private-use characters are neither digits, blanks, cased letters nor
printable.

## Main definitions

* `Text.Symbol`: a character or an unpaired surrogate.
* `Text.encode`: symbols as a string; `Text.symbols`: the symbols a string encodes.
* `Text.ofPlain`: the encoding of text read from outside.
* `Text.hasSurrogate`: whether text holds an unpaired surrogate.

## Main results

* `symbols_encode`: decoding an encoding gives the symbols back.
* `symbols_ofPlain`: plain text reads back as its characters.
-/

namespace RoadAtlas

namespace Text

/-- One code point of text: a character, or the unpaired surrogate `0xD800 + k`. -/
inductive Symbol where
  | char (c : Char)
  | surrogate (k : Fin 0x800)
deriving DecidableEq, Repr

/-- The code point of a symbol. -/
def Symbol.code : Symbol → Nat
  | .char c => c.toNat
  | .surrogate k => 0xD800 + k.val

/-- The marker that starts the encoding of a surrogate, and is doubled when it stands for itself. -/
def marker : Char := Char.ofNat 0x10FFFF

/-- The character after the marker that stands for the surrogate `0xD800 + k`. -/
def surrogateChar (k : Fin 0x800) : Char := Char.ofNat (0x100000 + k.val)

/-- The characters that encode a symbol. -/
def Symbol.chars : Symbol → List Char
  | .char c => if c = marker then [marker, marker] else [c]
  | .surrogate k => [marker, surrogateChar k]

/-- The surrogate a character after the marker stands for, if it stands for one. -/
def surrogateOf? (d : Char) : Option (Fin 0x800) :=
  if h : 0x100000 ≤ d.toNat ∧ d.toNat < 0x100800 then
    some ⟨d.toNat - 0x100000, by omega⟩
  else none

/-- The symbols that characters encode; a marker that starts no encoding stands for itself. -/
def decode : List Char → List Symbol
  | [] => []
  | c :: rest =>
    if c = marker then
      match rest with
      | d :: more =>
        if d = marker then .char marker :: decode more
        else
          match surrogateOf? d with
          | some k => .surrogate k :: decode more
          | none => .char c :: decode (d :: more)
      | [] => [.char c]
    else .char c :: decode rest

/-- The text that encodes symbols. -/
def encode (ss : List Symbol) : String := String.ofList (ss.flatMap Symbol.chars)

/-- The symbols a text encodes. -/
def symbols (s : String) : List Symbol := decode s.toList

/-- The encoding of plain text, which holds characters only, as text read from outside does:
each marker in it is doubled. -/
def ofPlain (s : String) : String := encode (s.toList.map Symbol.char)

/-- The text of one character, as text holding it. -/
def Symbol.text (x : Symbol) : String := encode [x]

/-- Whether a symbol is an unpaired surrogate. -/
def Symbol.isSurrogate : Symbol → Bool
  | .surrogate _ => true
  | .char _ => false

/-- Whether a text holds an unpaired surrogate. -/
def hasSurrogate (s : String) : Bool := (symbols s).any Symbol.isSurrogate

/-- The number of code points of a text. -/
def codeLength (s : String) : Nat := (symbols s).length

theorem marker_toNat : marker.toNat = 0x10FFFF := rfl

theorem surrogateChar_toNat (k : Fin 0x800) : (surrogateChar k).toNat = 0x100000 + k.val := by
  have hk := k.isLt
  have hv : (0x100000 + k.val).isValidChar := Or.inr ⟨by omega, by omega⟩
  rw [surrogateChar, Char.ofNat, dif_pos hv]
  rfl

theorem surrogateChar_ne_marker (k : Fin 0x800) : surrogateChar k ≠ marker := by
  intro h
  have := congrArg Char.toNat h
  rw [surrogateChar_toNat, marker_toNat] at this
  have := k.isLt
  omega

theorem surrogateOf_surrogateChar (k : Fin 0x800) : surrogateOf? (surrogateChar k) = some k := by
  have hk := k.isLt
  simp only [surrogateOf?, surrogateChar_toNat]
  rw [dif_pos (by omega)]
  exact congrArg some (Fin.ext (by simp only; omega))

theorem decode_chars (x : Symbol) (rest : List Char) :
    decode (x.chars ++ rest) = x :: decode rest := by
  cases x with
  | char c =>
    by_cases hc : c = marker
    · subst hc
      simp [Symbol.chars, decode]
    · cases rest <;> simp [Symbol.chars, decode, hc]
  | surrogate k =>
    simp [Symbol.chars, decode, surrogateChar_ne_marker, surrogateOf_surrogateChar]

theorem symbols_encode (ss : List Symbol) : symbols (encode ss) = ss := by
  simp only [symbols, encode, String.toList_ofList]
  induction ss with
  | nil => rfl
  | cons x rest ih => rw [List.flatMap_cons, decode_chars, ih]

theorem symbols_ofPlain (s : String) : symbols (ofPlain s) = s.toList.map Symbol.char :=
  symbols_encode _

end Text

end RoadAtlas
