import Mathlib
import RoadAtlas.Xml.Element

/-!
# Reading XML documents back

A reader for element-only XML 1.0 documents, and the proof that it reads every written document
back to the element it was written from.

The reader follows the grammar and the normalisations of XML 1.0. Line ends are normalised
first: a carriage return followed by a line feed, and a carriage return alone, become a line
feed (§2.11). The text is then read one character at a time by `Xml.step`, which keeps the open
elements on a stack: names are XML names, start tags and end tags must match, no attribute
repeats within a tag, and there is exactly one root element. Between tags only white space may
stand. An attribute value is *normalised* (§3.3.3): each reference is replaced by the character
it names, and each literal white space character by a space. The reader refuses what this
library never writes: declarations, comments, processing instructions, sections and character
data that is not white space.

## Main definitions

* `Xml.normalizeValue`: attribute-value normalisation.
* `Xml.step`, `Xml.read`: the reader.
* `Xml.Writable`: elements whose names are XML names, whose attribute keys do not repeat, and
  whose attribute values consist of XML characters.

## Main results

* `normalizeValue_escapeAttr`: normalising an escaped value gives the value back, for every
  value.
* `escapeAttr_special`, `escapeAttr_amp`: an escaped value holds no quote, no `<` or `>`, no
  literal tab, line feed or carriage return, and each of its `&` begins one of the seven
  references that escaping writes.
* `read_document`: a writable element is read back from its document.
-/

namespace RoadAtlas.Xml

/-! ## Characters and names -/

/-- White space: space, tab, line feed and carriage return. -/
def isSpace (c : Char) : Bool := c = ' ' || c = '\t' || c = '\n' || c = '\r'

/-- Whether the code point of a character lies in `lo ..= hi`. -/
def inRange (lo hi : Nat) (c : Char) : Bool := lo ≤ c.toNat && c.toNat ≤ hi

/-- A character that may start a name (`NameStartChar`). -/
def isNameStartChar (c : Char) : Bool :=
  c = ':' || c = '_' || inRange 0x41 0x5A c || inRange 0x61 0x7A c || inRange 0xC0 0xD6 c ||
    inRange 0xD8 0xF6 c || inRange 0xF8 0x2FF c || inRange 0x370 0x37D c ||
    inRange 0x37F 0x1FFF c || inRange 0x200C 0x200D c || inRange 0x2070 0x218F c ||
    inRange 0x2C00 0x2FEF c || inRange 0x3001 0xD7FF c || inRange 0xF900 0xFDCF c ||
    inRange 0xFDF0 0xFFFD c || inRange 0x10000 0xEFFFF c

/-- A character that may stand in a name after its first (`NameChar`). -/
def isNameChar (c : Char) : Bool :=
  isNameStartChar c || c = '-' || c = '.' || inRange 0x30 0x39 c || c.toNat = 0xB7 ||
    inRange 0x300 0x36F c || inRange 0x203F 0x2040 c

/-- A name: a name start character, then name characters. -/
def isName : List Char → Bool
  | [] => false
  | c :: cs => isNameStartChar c && cs.all isNameChar

theorem isNameChar_of_isNameStartChar {c : Char} (h : isNameStartChar c = true) :
    isNameChar c = true := by
  simp [isNameChar, h]

/-- The characters that delimit tags and values are not name characters. -/
theorem ne_of_isNameChar {c : Char} (h : isNameChar c = true) :
    c ≠ ' ' ∧ c ≠ '\n' ∧ c ≠ '\r' ∧ c ≠ '=' ∧ c ≠ '/' ∧ c ≠ '>' ∧ c ≠ '"' := by
  refine ⟨?_, ?_, ?_, ?_, ?_, ?_, ?_⟩ <;>
  · rintro rfl
    revert h
    decide

/-! ## References -/

/-- The value of a digit in base 10, or in base 16 with letters of either case. -/
def digitValue? (base : Nat) (d : Char) : Option Nat :=
  if '0' ≤ d ∧ d ≤ '9' then some (d.toNat - '0'.toNat)
  else if base = 16 ∧ 'a' ≤ d ∧ d ≤ 'f' then some (d.toNat - 'a'.toNat + 10)
  else if base = 16 ∧ 'A' ≤ d ∧ d ≤ 'F' then some (d.toNat - 'A'.toNat + 10)
  else none

/-- The number that digits write, most significant first; nothing for no digits. -/
def numberValue? (base : Nat) (ds : List Char) : Option Nat :=
  if ds = [] then none else ds.foldlM (fun n d => (digitValue? base d).map (base * n + ·)) 0

/-- The character of a code point, if it is an XML character. -/
def xmlCharOf? (n : Nat) : Option Char :=
  if h : n.isValidChar then
    if isXmlChar (Char.ofNatAux n h) then some (Char.ofNatAux n h) else none
  else none

/-- The character that the reference `&name;` stands for: one of the five predefined entities,
or a character reference, decimal (`#…`) or hexadecimal (`#x…`), to an XML character. -/
def resolveRef : List Char → Option Char
  | ['a', 'm', 'p'] => some '&'
  | ['l', 't'] => some '<'
  | ['g', 't'] => some '>'
  | ['q', 'u', 'o', 't'] => some '"'
  | ['a', 'p', 'o', 's'] => some '\x27'
  | '#' :: 'x' :: ds => (numberValue? 16 ds).bind xmlCharOf?
  | '#' :: ds => (numberValue? 10 ds).bind xmlCharOf?
  | _ => none

/-! ## Attribute values -/

/-- Where the normalisation of an attribute value stands: in literal text, or in a reference
after its `&`. Each holds the normalised characters so far. -/
inductive ValueState where
  | text (acc : List Char)
  | ref (acc : List Char) (name : List Char)

/-- One character of an attribute value. A literal `<` is refused. -/
def valueStep : ValueState → Char → Option ValueState
  | .text acc, c =>
    if c = '&' then some (.ref acc [])
    else if c = '<' then none
    else if isSpace c then some (.text (acc ++ [' ']))
    else some (.text (acc ++ [c]))
  | .ref acc name, c =>
    if c = ';' then (resolveRef name).map fun d => .text (acc ++ [d])
    else some (.ref acc (name ++ [c]))

/-- The normalised value of the characters between the quotes of an attribute value. -/
def normalizeValue (cs : List Char) : Option (List Char) :=
  match cs.foldlM valueStep (.text []) with
  | some (.text acc) => some acc
  | _ => none

/-- The references that escaping writes. -/
def escapeReferences : List String :=
  ["&amp;", "&lt;", "&gt;", "&quot;", "&#9;", "&#10;", "&#13;"]

theorem toList_escapeAttr (s : String) :
    (escapeAttr s).toList = s.toList.flatMap fun c => (escapeAttrChar c).toList := by
  rw [escapeAttr, String.toList_join, List.flatMap_map]

/-- The characters of a reference's name are collected up to its `;`. -/
theorem foldlM_valueStep_refName (acc : List Char) :
    ∀ (name pre : List Char), ';' ∉ name →
      name.foldlM valueStep (.ref acc pre) = some (.ref acc (pre ++ name))
  | [], pre, _ => by simp
  | c :: name, pre, hName => by
      have hc : c ≠ ';' := fun h => hName (h ▸ List.mem_cons_self ..)
      have hRest : ';' ∉ name := fun h => hName (List.mem_cons_of_mem c h)
      rw [List.foldlM_cons]
      simp only [valueStep, if_neg hc, Option.bind_eq_bind, Option.bind_some]
      rw [foldlM_valueStep_refName acc name (pre ++ [c]) hRest, List.append_assoc,
        List.singleton_append]

/-- A whole reference adds the character it names. -/
theorem foldlM_valueStep_ref (acc name : List Char) {d : Char} (hName : ';' ∉ name)
    (hd : resolveRef name = some d) :
    ('&' :: name ++ [';']).foldlM valueStep (.text acc) = some (.text (acc ++ [d])) := by
  have hAmp : valueStep (.text acc) '&' = some (.ref acc []) := by simp [valueStep]
  rw [List.cons_append, List.foldlM_cons, hAmp]
  show (name ++ [';']).foldlM valueStep (.ref acc []) = _
  rw [List.foldlM_append, foldlM_valueStep_refName acc name [] hName]
  simp [valueStep, hd]

/-- Normalising the escaped form of one character gives the character. -/
theorem foldlM_valueStep_escapeAttrChar (c : Char) (acc : List Char) :
    (escapeAttrChar c).toList.foldlM valueStep (.text acc) = some (.text (acc ++ [c])) := by
  unfold escapeAttrChar
  split_ifs with hAmp hLt hGt hQuot hTab hLf hCr
  · subst hAmp
    exact foldlM_valueStep_ref acc ['a', 'm', 'p'] (by decide) (by decide)
  · subst hLt
    exact foldlM_valueStep_ref acc ['l', 't'] (by decide) (by decide)
  · subst hGt
    exact foldlM_valueStep_ref acc ['g', 't'] (by decide) (by decide)
  · subst hQuot
    exact foldlM_valueStep_ref acc ['q', 'u', 'o', 't'] (by decide) (by decide)
  · subst hTab
    exact foldlM_valueStep_ref acc ['#', '9'] (by decide) (by decide)
  · subst hLf
    exact foldlM_valueStep_ref acc ['#', '1', '0'] (by decide) (by decide)
  · subst hCr
    exact foldlM_valueStep_ref acc ['#', '1', '3'] (by decide) (by decide)
  · -- a character that stands for itself; of the white space only the space is left
    have hSpace : isSpace c = true → c = ' ' := by
      simp [isSpace, hTab, hLf, hCr]
    by_cases hc : isSpace c = true
    · obtain rfl := hSpace hc
      simp [Char.toString, valueStep]
    · simp [Char.toString, valueStep, hAmp, hLt, hc]

theorem foldlM_valueStep_escapeAttr (s : String) (acc : List Char) :
    (escapeAttr s).toList.foldlM valueStep (.text acc) = some (.text (acc ++ s.toList)) := by
  rw [toList_escapeAttr]
  induction s.toList generalizing acc with
  | nil => simp
  | cons c cs ih =>
      rw [List.flatMap_cons, List.foldlM_append, foldlM_valueStep_escapeAttrChar]
      simp [ih]

/-- **Normalisation undoes escaping**: the normalised value of an escaped value is the value, for
every value. References written for tab, line feed and carriage return give those characters
back, where literal ones would have become spaces. -/
theorem normalizeValue_escapeAttr (s : String) : normalizeValue (escapeAttr s).toList = some s.toList := by
  simp [normalizeValue, foldlM_valueStep_escapeAttr]

/-- Each character of the escaped form of one character is the character itself, which is then
none of the seven that are escaped, or a character of a reference. -/
theorem mem_escapeAttrChar {c d : Char} (hd : d ∈ (escapeAttrChar c).toList) :
    d = c ∧ c ≠ '&' ∧ c ≠ '<' ∧ c ≠ '>' ∧ c ≠ '"' ∧ c ≠ '\t' ∧ c ≠ '\n' ∧ c ≠ '\r' ∨
      d ≠ '"' ∧ d ≠ '<' ∧ d ≠ '>' ∧ d ≠ '\t' ∧ d ≠ '\n' ∧ d ≠ '\r' ∧ isXmlChar d = true := by
  unfold escapeAttrChar at hd
  split_ifs at hd with hAmp hLt hGt hQuot hTab hLf hCr
  rotate_left 7
  · -- the character stands for itself
    exact Or.inl ⟨by simpa [Char.toString] using hd, hAmp, hLt, hGt, hQuot, hTab, hLf, hCr⟩
  all_goals
    -- a character of one of the seven references
    right
    simp at hd
    rcases hd with rfl | rfl | rfl | rfl | rfl | rfl <;> decide

/-- **An escaped value holds no quote, no `<` or `>`, and no literal tab, line feed or carriage
return.** -/
theorem escapeAttr_special (s : String) {d : Char} (hd : d ∈ (escapeAttr s).toList) :
    d ≠ '"' ∧ d ≠ '<' ∧ d ≠ '>' ∧ d ≠ '\t' ∧ d ≠ '\n' ∧ d ≠ '\r' := by
  rw [toList_escapeAttr, List.mem_flatMap] at hd
  obtain ⟨c, -, hdc⟩ := hd
  rcases mem_escapeAttrChar hdc with ⟨rfl, -, hLt, hGt, hQuot, hTab, hLf, hCr⟩ |
      ⟨hQuot, hLt, hGt, hTab, hLf, hCr, -⟩
  · exact ⟨hQuot, hLt, hGt, hTab, hLf, hCr⟩
  · exact ⟨hQuot, hLt, hGt, hTab, hLf, hCr⟩

/-- An escaped value of XML characters consists of XML characters. -/
theorem escapeAttr_isXmlChar {s : String} (hs : ∀ c ∈ s.toList, isXmlChar c = true) :
    ∀ d ∈ (escapeAttr s).toList, isXmlChar d = true := by
  intro d hd
  rw [toList_escapeAttr, List.mem_flatMap] at hd
  obtain ⟨c, hc, hdc⟩ := hd
  rcases mem_escapeAttrChar hdc with ⟨rfl, -⟩ | ⟨-, -, -, -, -, -, hXml⟩
  · exact hs d hc
  · exact hXml

/-- Each reference that escaping writes begins with its only `&`. -/
theorem escapeReferences_amp :
    ∀ r ∈ escapeReferences, r.toList.head? = some '&' ∧ '&' ∉ r.toList.tail := by
  decide

/-- Escaping writes a reference, or the character itself when it is not an `&`. -/
theorem escapeAttrChar_cases (c : Char) :
    escapeAttrChar c ∈ escapeReferences ∨ (escapeAttrChar c).toList = [c] ∧ c ≠ '&' := by
  unfold escapeAttrChar
  split_ifs with hAmp
  rotate_left 7
  · exact Or.inr ⟨by simp [Char.toString], hAmp⟩
  all_goals exact Or.inl (by decide)

/-- In the escaped form of one character, an `&` stands first and begins a reference. -/
theorem escapeAttrChar_amp {c : Char} {pre post : List Char}
    (h : (escapeAttrChar c).toList = pre ++ '&' :: post) :
    pre = [] ∧ escapeAttrChar c ∈ escapeReferences := by
  rcases escapeAttrChar_cases c with hRef | ⟨hSelf, hNe⟩
  · obtain ⟨hHead, hTail⟩ := escapeReferences_amp _ hRef
    refine ⟨?_, hRef⟩
    cases pre with
    | nil => rfl
    | cons x pre' =>
        -- a second `&` would lie in the tail of the reference
        rw [h, List.cons_append, List.tail_cons] at hTail
        exact absurd (List.mem_append_right pre' List.mem_cons_self) hTail
  · rw [hSelf] at h
    cases pre with
    | nil => exact absurd (List.cons.inj h).1 hNe
    | cons x pre' => simp at h

/-- **Each `&` of an escaped value begins one of the seven references that escaping writes.** -/
theorem escapeAttr_amp (s : String) {pre post : List Char}
    (h : (escapeAttr s).toList = pre ++ '&' :: post) :
    ∃ r ∈ escapeReferences, r.toList <+: '&' :: post := by
  rw [toList_escapeAttr] at h
  generalize s.toList = cs at h
  induction cs generalizing pre with
  | nil => simp at h
  | cons c cs ih =>
      rw [List.flatMap_cons] at h
      rcases List.append_eq_append_iff.mp h with ⟨a', -, hRest⟩ | ⟨c', hE, hPost⟩
      · -- the `&` lies in the escaped rest
        exact ih hRest
      · cases c' with
        | nil =>
            -- the escaped rest begins with the `&`
            exact @ih [] (by simpa using hPost.symm)
        | cons x c'' =>
            -- the `&` lies in the escaped form of `c`, which is a reference
            simp only [List.cons_append, List.cons.injEq] at hPost
            obtain ⟨rfl, rfl⟩ := hPost
            obtain ⟨rfl, hRef⟩ := escapeAttrChar_amp hE
            refine ⟨escapeAttrChar c, hRef, ?_⟩
            rw [hE, List.nil_append, ← List.cons_append]
            exact List.prefix_append _ _

/-! ## The reader -/

/-- An element whose start tag has been read: its name, its attributes and its children so far. -/
structure Frame where
  name : String
  attrs : List (String × String)
  children : List Element

/-- Where the reader stands in the markup. -/
inductive Lex where
  /-- between tags -/
  | content
  /-- after the `<` of a tag -/
  | tagOpen
  /-- in the name of a start tag -/
  | startName (name : List Char)
  /-- in a start tag, where an attribute may begin -/
  | inTag (name : String) (attrs : List (String × String))
  /-- in the key of an attribute -/
  | attrKey (name : String) (attrs : List (String × String)) (key : List Char)
  /-- after the key of an attribute and white space -/
  | afterKey (name : String) (attrs : List (String × String)) (key : String)
  /-- after the `=` of an attribute -/
  | beforeValue (name : String) (attrs : List (String × String)) (key : String)
  /-- in a value, which the character `quote` closes -/
  | value (name : String) (attrs : List (String × String)) (key : String) (quote : Char)
      (v : ValueState)
  /-- after the closing quote of a value, where white space or the end of the tag must follow -/
  | afterValue (name : String) (attrs : List (String × String))
  /-- after the `/` of an empty-element tag -/
  | emptyEnd (name : String) (attrs : List (String × String))
  /-- in the name of an end tag -/
  | endName (name : List Char)
  /-- after the name of an end tag and white space -/
  | afterEndName (name : String)

/-- The reader between two characters: where it stands, the open elements, innermost first, and
the root element once it is complete. -/
structure Reader where
  lex : Lex
  frames : List Frame
  root : Option Element

/-- The reader after a complete element: the element becomes the last child of the innermost open
element, or the root, of which there is only one. -/
def complete (frames : List Frame) (root : Option Element) (e : Element) : Option Reader :=
  match frames, root with
  | f :: fs, root => some ⟨.content, { f with children := f.children ++ [e] } :: fs, root⟩
  | [], none => some ⟨.content, [], some e⟩
  | [], some _ => none

/-- A character after the name or after a value in a start tag: white space, or the end of the
tag. -/
def endOfAttr (name : String) (attrs : List (String × String)) (frames : List Frame)
    (root : Option Element) (c : Char) : Option Reader :=
  if isSpace c then some ⟨.inTag name attrs, frames, root⟩
  else if c = '/' then some ⟨.emptyEnd name attrs, frames, root⟩
  else if c = '>' then some ⟨.content, ⟨name, attrs, []⟩ :: frames, root⟩
  else none

/-- The `>` of an end tag: it closes the innermost open element, which must bear its name. -/
def closeTag (name : String) (frames : List Frame) (root : Option Element) : Option Reader :=
  match frames with
  | f :: fs => if f.name = name then complete fs root (.mk f.name f.attrs f.children) else none
  | [] => none

/-- Reads one character. -/
def step (r : Reader) (c : Char) : Option Reader :=
  match r.lex with
  | .content =>
    if c = '<' then some { r with lex := .tagOpen }
    else if isSpace c then some r
    else none
  | .tagOpen =>
    if c = '/' then some { r with lex := .endName [] }
    else if isNameStartChar c then some { r with lex := .startName [c] }
    else none
  | .startName name =>
    if isNameChar c then some { r with lex := .startName (name ++ [c]) }
    else endOfAttr (String.ofList name) [] r.frames r.root c
  | .inTag name attrs =>
    if isNameStartChar c then some { r with lex := .attrKey name attrs [c] }
    else endOfAttr name attrs r.frames r.root c
  | .attrKey name attrs key =>
    if isNameChar c then some { r with lex := .attrKey name attrs (key ++ [c]) }
    else if c = '=' then some { r with lex := .beforeValue name attrs (String.ofList key) }
    else if isSpace c then some { r with lex := .afterKey name attrs (String.ofList key) }
    else none
  | .afterKey name attrs key =>
    if c = '=' then some { r with lex := .beforeValue name attrs key }
    else if isSpace c then some r
    else none
  | .beforeValue name attrs key =>
    if c = '"' ∨ c = '\x27' then some { r with lex := .value name attrs key c (.text []) }
    else if isSpace c then some r
    else none
  | .value name attrs key quote v =>
    if c = quote then
      match v with
      | .text acc =>
        -- an attribute may not repeat within a tag
        if key ∈ attrs.map Prod.fst then none
        else some { r with lex := .afterValue name (attrs ++ [(key, String.ofList acc)]) }
      | .ref _ _ => none
    else if isXmlChar c then
      (valueStep v c).map fun v' => { r with lex := .value name attrs key quote v' }
    else none
  | .afterValue name attrs => endOfAttr name attrs r.frames r.root c
  | .emptyEnd name attrs =>
    if c = '>' then complete r.frames r.root (.mk name attrs []) else none
  | .endName name =>
    if isNameChar c then some { r with lex := .endName (name ++ [c]) }
    else if c = '>' then closeTag (String.ofList name) r.frames r.root
    else if isSpace c then some { r with lex := .afterEndName (String.ofList name) }
    else none
  | .afterEndName name =>
    if c = '>' then closeTag name r.frames r.root
    else if isSpace c then some r
    else none

/-- Line ends normalised: a carriage return, alone or before a line feed, becomes a line feed. -/
def normalizeLines : List Char → List Char
  | [] => []
  | '\r' :: '\n' :: rest => '\n' :: normalizeLines rest
  | '\r' :: rest => '\n' :: normalizeLines rest
  | c :: rest => c :: normalizeLines rest

/-- The reader after some characters. -/
def run (r : Reader) (cs : List Char) : Option Reader := cs.foldlM step r

/-- The element of a document read to its end: its root, with no element left open. -/
def Reader.result (r : Reader) : Option Element :=
  match r.lex, r.frames, r.root with
  | .content, [], some e => some e
  | _, _, _ => none

/-- The element of a well-formed document. -/
def read (doc : String) : Option Element :=
  (run ⟨.content, [], none⟩ (normalizeLines doc.toList)).bind Reader.result

theorem run_nil (r : Reader) : run r [] = some r := rfl

theorem run_cons (r : Reader) (c : Char) (cs : List Char) :
    run r (c :: cs) = (step r c).bind fun r' => run r' cs := rfl

theorem run_append (r : Reader) (cs ds : List Char) :
    run r (cs ++ ds) = (run r cs).bind fun r' => run r' ds := by
  simp only [run, List.foldlM_append]
  rfl

theorem run_singleton (r : Reader) (c : Char) : run r [c] = step r c := by
  rw [run_cons]
  cases step r c <;> rfl

theorem endOfAttr_slash (name : String) (attrs : List (String × String)) (fr : List Frame)
    (rt : Option Element) : endOfAttr name attrs fr rt '/' = some ⟨.emptyEnd name attrs, fr, rt⟩ :=
  rfl

theorem endOfAttr_gt (name : String) (attrs : List (String × String)) (fr : List Frame)
    (rt : Option Element) :
    endOfAttr name attrs fr rt '>' = some ⟨.content, ⟨name, attrs, []⟩ :: fr, rt⟩ :=
  rfl

theorem complete_cons (f : Frame) (fs : List Frame) (rt : Option Element) (e : Element) :
    complete (f :: fs) rt e = some ⟨.content, { f with children := f.children ++ [e] } :: fs, rt⟩ :=
  rfl

theorem normalizeLines_of_not_mem : ∀ {cs : List Char}, '\r' ∉ cs → normalizeLines cs = cs
  | [], _ => rfl
  | c :: rest, h => by
      have hc : c ≠ '\r' := fun hc => h (hc ▸ List.mem_cons_self ..)
      have hRest := @normalizeLines_of_not_mem rest fun hr => h (List.mem_cons_of_mem c hr)
      rw [normalizeLines.eq_4 c rest (fun _ hc' _ => hc hc') (fun hc' => hc hc'), hRest]

/-! ## Reading a written element back -/

/-- An element that its document gives back: its name and its attribute keys are names, no key
repeats, every value consists of XML characters, and the same holds of its children. -/
inductive Writable : Element → Prop
  | mk {name : String} {attrs : List (String × String)} {children : List Element} :
      isName name.toList = true → (attrs.map Prod.fst).Nodup →
      (∀ a ∈ attrs, isName a.1.toList = true ∧ ∀ c ∈ a.2.toList, isXmlChar c = true) →
      (∀ child ∈ children, Writable child) → Writable (.mk name attrs children)

/-- A name is a name start character followed by name characters. -/
theorem exists_of_isName {cs : List Char} (h : isName cs = true) :
    ∃ c rest, cs = c :: rest ∧ isNameStartChar c = true ∧ ∀ d ∈ rest, isNameChar d = true := by
  cases cs with
  | nil => simp [isName] at h
  | cons c rest =>
      simp only [isName, Bool.and_eq_true, List.all_eq_true] at h
      exact ⟨c, rest, rfl, h.1, h.2⟩

theorem isNameChar_of_isName {cs : List Char} (h : isName cs = true) :
    ∀ d ∈ cs, isNameChar d = true := by
  obtain ⟨c, rest, rfl, hc, hRest⟩ := exists_of_isName h
  intro d hd
  rcases List.mem_cons.mp hd with rfl | hd
  · exact isNameChar_of_isNameStartChar hc
  · exact hRest d hd

theorem toList_attrsText_cons (k v : String) (rest : List (String × String)) :
    (attrsText ((k, v) :: rest)).toList =
      [' '] ++ k.toList ++ ['=', '"'] ++ (escapeAttr v).toList ++ ['"'] ++ (attrsText rest).toList := by
  simp [attrsText, String.join_cons]

theorem toList_indent (d : Nat) : (indent d).toList = List.replicate (2 * d) ' ' := by
  simp [indent]

theorem toList_render_nil (d : Nat) (name : String) (attrs : List (String × String)) :
    ((Element.mk name attrs []).render d).toList =
      (['<'] ++ name.toList ++ (attrsText attrs).toList ++ ['/']) ++ ['>'] := by
  simp [Element.render]

theorem toList_render_cons (d : Nat) (name : String) (attrs : List (String × String))
    (c : Element) (cs : List Element) :
    ((Element.mk name attrs (c :: cs)).render d).toList =
      (['<'] ++ name.toList ++ (attrsText attrs).toList ++ ['>']) ++ (['\n'] ++
        ((renderChildren (d + 1) (c :: cs)).toList ++ ((indent d).toList ++
          (['<', '/'] ++ name.toList ++ ['>'])))) := by
  simp [Element.render]

theorem toList_renderChildren_cons (d : Nat) (c : Element) (cs : List Element) :
    (renderChildren d (c :: cs)).toList =
      (indent d).toList ++ ((c.render d).toList ++ (['\n'] ++ (renderChildren d cs).toList)) := by
  simp [renderChildren]

/-- White space between tags is skipped. -/
theorem run_spaces (fr : List Frame) (rt : Option Element) :
    ∀ cs : List Char, (∀ c ∈ cs, isSpace c = true) →
      run ⟨.content, fr, rt⟩ cs = some ⟨.content, fr, rt⟩
  | [], _ => rfl
  | c :: cs, h => by
      have hc : isSpace c = true := h c List.mem_cons_self
      have hLt : c ≠ '<' := by
        rintro rfl
        exact absurd hc (by decide)
      rw [run_cons]
      simp only [step, if_neg hLt, if_pos hc, Option.bind_some]
      exact run_spaces fr rt cs fun d hd => h d (List.mem_cons_of_mem c hd)

theorem run_indent (fr : List Frame) (rt : Option Element) (d : Nat) :
    run ⟨.content, fr, rt⟩ (indent d).toList = some ⟨.content, fr, rt⟩ := by
  refine run_spaces fr rt _ fun c hc => ?_
  rw [toList_indent, List.mem_replicate] at hc
  rw [hc.2]
  rfl

theorem run_newline (fr : List Frame) (rt : Option Element) :
    run ⟨.content, fr, rt⟩ ['\n'] = some ⟨.content, fr, rt⟩ :=
  run_spaces fr rt ['\n'] fun c hc => by
    rw [List.mem_singleton.mp hc]
    rfl

/-- Name characters are collected, whichever name is being read. -/
theorem run_nameChars (L : List Char → Lex) (fr : List Frame) (rt : Option Element)
    (hStep : ∀ acc c, isNameChar c = true →
      step ⟨L acc, fr, rt⟩ c = some ⟨L (acc ++ [c]), fr, rt⟩) :
    ∀ cs acc, (∀ c ∈ cs, isNameChar c = true) →
      run ⟨L acc, fr, rt⟩ cs = some ⟨L (acc ++ cs), fr, rt⟩
  | [], acc, _ => by simp [run_nil]
  | c :: cs, acc, h => by
      rw [run_cons, hStep acc c (h c List.mem_cons_self), Option.bind_some,
        run_nameChars L fr rt hStep cs (acc ++ [c]) fun d hd => h d (List.mem_cons_of_mem c hd)]
      simp

/-- The characters of a value, none of them the closing quote, are normalised as they come. -/
theorem run_value (name : String) (attrs : List (String × String)) (key : String) (q : Char)
    (fr : List Frame) (rt : Option Element) :
    ∀ (cs : List Char) (v v' : ValueState), (∀ c ∈ cs, c ≠ q ∧ isXmlChar c = true) →
      cs.foldlM valueStep v = some v' →
      run ⟨.value name attrs key q v, fr, rt⟩ cs = some ⟨.value name attrs key q v', fr, rt⟩
  | [], v, v', _, h => by
      obtain rfl : v = v' := by simpa using h
      rfl
  | c :: cs, v, v', hcs, h => by
      obtain ⟨hq, hXml⟩ := hcs c List.mem_cons_self
      rw [List.foldlM_cons] at h
      cases hv : valueStep v c with
      | none => simp [hv] at h
      | some w =>
          rw [hv] at h
          rw [run_cons]
          simp only [step, if_neg hq, if_pos hXml, hv, Option.map_some, Option.bind_some]
          exact run_value name attrs key q fr rt cs w v'
            (fun d hd => hcs d (List.mem_cons_of_mem c hd)) h

/-- An attribute `k="v"`, its value escaped, read where an attribute may begin. -/
theorem run_attr (name : String) (attrs : List (String × String)) (fr : List Frame)
    (rt : Option Element) {k v : String} (hk : isName k.toList = true)
    (hv : ∀ c ∈ v.toList, isXmlChar c = true) (hNew : k ∉ attrs.map Prod.fst) :
    run ⟨.inTag name attrs, fr, rt⟩ (k.toList ++ ['=', '"'] ++ (escapeAttr v).toList ++ ['"']) =
      some ⟨.afterValue name (attrs ++ [(k, v)]), fr, rt⟩ := by
  obtain ⟨k0, ks, hkList, hk0, hks⟩ := exists_of_isName hk
  have hKey : run ⟨.inTag name attrs, fr, rt⟩ k.toList =
      some ⟨.attrKey name attrs k.toList, fr, rt⟩ := by
    rw [hkList, run_cons]
    simp only [step, if_pos hk0, Option.bind_some]
    exact run_nameChars (Lex.attrKey name attrs) fr rt
      (fun acc c hc => by simp [step, hc]) ks [k0] hks
  have hOpen : run ⟨.attrKey name attrs k.toList, fr, rt⟩ ['=', '"'] =
      some ⟨.value name attrs k '"' (.text []), fr, rt⟩ := by
    simp [run_cons, run_nil, step, isNameChar, isNameStartChar, inRange]
  have hValue : run ⟨.value name attrs k '"' (.text []), fr, rt⟩ (escapeAttr v).toList =
      some ⟨.value name attrs k '"' (.text v.toList), fr, rt⟩ := by
    refine run_value name attrs k '"' fr rt _ _ _ (fun c hc => ?_) ?_
    · exact ⟨(escapeAttr_special v hc).1, escapeAttr_isXmlChar hv c hc⟩
    · simpa using foldlM_valueStep_escapeAttr v []
  have hClose : run ⟨.value name attrs k '"' (.text v.toList), fr, rt⟩ ['"'] =
      some ⟨.afterValue name (attrs ++ [(k, v)]), fr, rt⟩ := by
    simp [run_cons, run_nil, step, hNew]
  simp only [run_append, hKey, hOpen, hValue, hClose, Option.bind_some]

/-- Attributes with distinct keys, read after the name or a value of a start tag. -/
theorem run_attrsText (name : String) (fr : List Frame) (rt : Option Element) :
    ∀ (attrs attrs₀ : List (String × String)),
      (∀ a ∈ attrs, isName a.1.toList = true ∧ ∀ c ∈ a.2.toList, isXmlChar c = true) →
      ((attrs₀ ++ attrs).map Prod.fst).Nodup →
      run ⟨.afterValue name attrs₀, fr, rt⟩ (attrsText attrs).toList =
        some ⟨.afterValue name (attrs₀ ++ attrs), fr, rt⟩
  | [], attrs₀, _, _ => by simp [attrsText, run_nil]
  | (k, v) :: rest, attrs₀, hAttrs, hNodup => by
      obtain ⟨hk, hv⟩ := hAttrs (k, v) List.mem_cons_self
      have hNew : k ∉ attrs₀.map Prod.fst := by
        rw [List.map_append, List.map_cons] at hNodup
        exact fun hk' => (List.nodup_append.mp hNodup).2.2 k hk' k List.mem_cons_self rfl
      have hSpace : run ⟨.afterValue name attrs₀, fr, rt⟩ [' '] =
          some ⟨.inTag name attrs₀, fr, rt⟩ := by
        simp [run_cons, run_nil, step, endOfAttr, isSpace]
      have hRest := run_attrsText name fr rt rest (attrs₀ ++ [(k, v)])
        (fun a ha => hAttrs a (List.mem_cons_of_mem _ ha)) (by simpa using hNodup)
      rw [toList_attrsText_cons]
      simp only [run_append, hSpace, Option.bind_some]
      rw [← run_append, ← run_append, ← run_append, run_attr name attrs₀ fr rt hk hv hNew,
        Option.bind_some, hRest]
      simp

/-- A start tag, read up to the `/` or `>` that ends it. -/
theorem run_startTag (fr : List Frame) (rt : Option Element) {name : String}
    {attrs : List (String × String)} (hName : isName name.toList = true)
    (hAttrs : ∀ a ∈ attrs, isName a.1.toList = true ∧ ∀ c ∈ a.2.toList, isXmlChar c = true)
    (hNodup : (attrs.map Prod.fst).Nodup) {c : Char} (hc : c = '/' ∨ c = '>') :
    run ⟨.content, fr, rt⟩ (['<'] ++ name.toList ++ (attrsText attrs).toList ++ [c]) =
      endOfAttr name attrs fr rt c := by
  obtain ⟨n₀, ns, hList, hn₀, hns⟩ := exists_of_isName hName
  have hNameRead : run ⟨.content, fr, rt⟩ (['<'] ++ name.toList) =
      some ⟨.startName name.toList, fr, rt⟩ := by
    rw [hList]
    simp only [List.singleton_append, run_cons, step]
    simp only [if_neg (show n₀ ≠ '/' by rintro rfl; exact absurd hn₀ (by decide)), if_pos hn₀]
    exact run_nameChars Lex.startName fr rt (fun acc d hd => by simp [step, hd]) ns [n₀] hns
  -- the name ends at the first character after it, a space or the end of the tag, which is
  -- read as after a value
  have hAfterName : ∀ x rest, isNameChar x = false →
      run ⟨.startName name.toList, fr, rt⟩ (x :: rest) =
        run ⟨.afterValue name [], fr, rt⟩ (x :: rest) := fun x rest hx => by
    simp [run_cons, step, hx, String.ofList_toList]
  have hEnd : isNameChar c = false := by
    rcases hc with rfl | rfl <;> decide
  have hTail : run ⟨.startName name.toList, fr, rt⟩ ((attrsText attrs).toList ++ [c]) =
      run ⟨.afterValue name [], fr, rt⟩ ((attrsText attrs).toList ++ [c]) := by
    cases attrs with
    | nil => exact hAfterName c [] hEnd
    | cons a as =>
        obtain ⟨k, v⟩ := a
        rw [toList_attrsText_cons]
        exact hAfterName ' ' _ (by decide)
  rw [List.append_assoc, run_append, hNameRead, Option.bind_some, hTail, run_append,
    run_attrsText name fr rt attrs [] hAttrs (by simpa using hNodup), Option.bind_some]
  simp [run_cons, run_nil, step]

/-- Children, each read as an element, are added in order to the innermost open element. -/
theorem run_renderChildren (d : Nat) :
    ∀ (cs : List Element), (∀ c ∈ cs, ∀ d fr rt,
        run ⟨.content, fr, rt⟩ (c.render d).toList = complete fr rt c) →
      ∀ (f : Frame) (fs : List Frame) (rt : Option Element),
        run ⟨.content, f :: fs, rt⟩ (renderChildren d cs).toList =
          some ⟨.content, { f with children := f.children ++ cs } :: fs, rt⟩
  | [], _, f, fs, rt => by simp [renderChildren, run_nil]
  | c :: cs, h, f, fs, rt => by
      have hChild := h c List.mem_cons_self d (f :: fs) rt
      have hRest := run_renderChildren d cs (fun c' hc' => h c' (List.mem_cons_of_mem c hc'))
        { f with children := f.children ++ [c] } fs rt
      rw [toList_renderChildren_cons, run_append, run_indent, Option.bind_some, run_append,
        hChild, complete_cons, Option.bind_some, run_append, run_newline, Option.bind_some, hRest]
      simp

/-- **An element is read back from its text**, as a child of the innermost open element or as
the root. The induction follows `Writable`, whose last premise gives the children theirs. -/
theorem run_render {e : Element} (he : Writable e) :
    ∀ (d : Nat) (fr : List Frame) (rt : Option Element),
      run ⟨.content, fr, rt⟩ (e.render d).toList = complete fr rt e := by
  induction he with
  | @mk name attrs children hName hNodup hAttrs _ ih =>
      intro d fr rt
      cases children with
      | nil =>
          -- `<name attrs/>`
          rw [toList_render_nil, run_append, run_startTag fr rt hName hAttrs hNodup (Or.inl rfl),
            endOfAttr_slash, Option.bind_some, run_singleton]
          rfl
      | cons c cs =>
          -- the start tag, the children one level deeper, and the end tag
          have hChildren : run ⟨.content, ⟨name, attrs, []⟩ :: fr, rt⟩
              (renderChildren (d + 1) (c :: cs)).toList =
                some ⟨.content, ⟨name, attrs, c :: cs⟩ :: fr, rt⟩ := by
            simpa using run_renderChildren (d + 1) (c :: cs) ih ⟨name, attrs, []⟩ fr rt
          have hEndName : run ⟨.content, ⟨name, attrs, c :: cs⟩ :: fr, rt⟩
              (['<', '/'] ++ name.toList) =
                some ⟨.endName name.toList, ⟨name, attrs, c :: cs⟩ :: fr, rt⟩ := by
            rw [run_append]
            simp only [run_cons, run_nil, step]
            exact run_nameChars Lex.endName _ rt (fun acc x hx => by simp [step, hx]) _ []
              (isNameChar_of_isName hName)
          have hClose : step ⟨.endName name.toList, ⟨name, attrs, c :: cs⟩ :: fr, rt⟩ '>' =
              complete fr rt (.mk name attrs (c :: cs)) := by
            simp [step, closeTag, String.ofList_toList,
              (by decide : isNameChar '>' = false)]
          rw [toList_render_cons, run_append,
            run_startTag fr rt hName hAttrs hNodup (Or.inr rfl), endOfAttr_gt, Option.bind_some,
            run_append, run_newline, Option.bind_some, run_append, hChildren, Option.bind_some,
            run_append, run_indent, Option.bind_some, run_append, hEndName, Option.bind_some,
            run_singleton, hClose]

theorem cr_not_mem_of_isName {cs : List Char} (h : isName cs = true) : '\r' ∉ cs := fun hr =>
  (ne_of_isNameChar (isNameChar_of_isName h '\r' hr)).2.2.1 rfl

/-- Written attributes hold no carriage return: keys are names, and values are escaped. -/
theorem cr_not_mem_attrsText :
    ∀ {attrs : List (String × String)}, (∀ a ∈ attrs, isName a.1.toList = true) →
      '\r' ∉ (attrsText attrs).toList
  | [], _ => by simp [attrsText]
  | (k, v) :: rest, h => by
      have hk : '\r' ∉ k.toList := cr_not_mem_of_isName (h (k, v) List.mem_cons_self)
      have hv : '\r' ∉ (escapeAttr v).toList := fun hr => (escapeAttr_special v hr).2.2.2.2.2 rfl
      have hRest := @cr_not_mem_attrsText rest fun a ha => h a (List.mem_cons_of_mem _ ha)
      rw [toList_attrsText_cons]
      simp [hk, hv, hRest]

theorem cr_not_mem_renderChildren (d : Nat) :
    ∀ (cs : List Element), (∀ c ∈ cs, ∀ d, '\r' ∉ (c.render d).toList) →
      '\r' ∉ (renderChildren d cs).toList
  | [], _ => by simp [renderChildren]
  | c :: cs, h => by
      have hc := h c List.mem_cons_self d
      have hcs := cr_not_mem_renderChildren d cs fun c' hc' => h c' (List.mem_cons_of_mem c hc')
      rw [toList_renderChildren_cons]
      simp [toList_indent, hc, hcs]

/-- A written element holds no carriage return, so reading it normalises no line end. -/
theorem cr_not_mem_render {e : Element} (he : Writable e) : ∀ d, '\r' ∉ (e.render d).toList := by
  induction he with
  | @mk name attrs children hName _ hAttrs _ ih =>
      intro d
      have hName' : '\r' ∉ name.toList := cr_not_mem_of_isName hName
      have hAttrs' := cr_not_mem_attrsText fun a ha => (hAttrs a ha).1
      cases children with
      | nil =>
          rw [toList_render_nil]
          simp [hName', hAttrs']
      | cons c cs =>
          rw [toList_render_cons]
          simp [toList_indent, hName', hAttrs', cr_not_mem_renderChildren (d + 1) _ ih]

/-- **Every writable element is read back from its document.** -/
theorem read_document {e : Element} (he : Writable e) : read e.document = some e := by
  have hNoCr : '\r' ∉ e.document.toList := by
    rw [Element.document, String.toList_append, List.mem_append, not_or]
    exact ⟨cr_not_mem_render he 0, by simp⟩
  rw [read, normalizeLines_of_not_mem hNoCr, Element.document, String.toList_append, run_append,
    run_render he 0 [] none]
  show (run ⟨.content, [], some e⟩ "\n".toList).bind Reader.result = some e
  rw [show "\n".toList = ['\n'] from rfl, run_newline]
  rfl

end RoadAtlas.Xml
