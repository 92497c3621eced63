import RoadAtlas.Text.Utf8

/-!
# XML elements

An element has a name, attributes in order, and child elements; this library writes no text
content. Every string of a document must have a UTF-8 form (`Text.checkUtf8`) and consist of XML
characters: tab, line feed, carriage return, and every code point from `U+0020` up except
`U+FFFE` and `U+FFFF`. Attribute values are checked one after another, each first for its UTF-8
form and then for its characters.

An attribute value is written between double quotes, with `&`, `<`, `>`, `"`, tab, line feed and
carriage return written as references; every other character, the apostrophe included, stands
for itself.

A document is written with one element per line, each indented by two spaces per level. An
element without children is `<name a="v"/>`; an element with children is its start tag, its
children on their own lines one level deeper, and its end tag at its own level. The document
ends with a line feed.

## Main definitions

* `Xml.Element`: the element tree.
* `Xml.isXmlChar`, `Xml.Compatible`: the characters a document may hold.
* `Xml.escapeAttr`: the written form of an attribute value.
* `Xml.checkAttrs`, `Xml.Element.make`: attribute values checked to be writable.
* `Xml.Element.render`: an element at a depth; `Xml.Element.document`: the text of a document
  with this root.

## Main results

* `escapeAttr_append`: escaping works character by character.
-/

namespace RoadAtlas

namespace Xml

/-- An element: name, attributes in order, children in order. -/
inductive Element where
  | mk (name : String) (attrs : List (String × String)) (children : List Element)
deriving Repr

/-- Whether a character may stand in an XML document. -/
def isXmlChar (c : Char) : Bool :=
  c = '\t' || c = '\n' || c = '\r' || (0x20 ≤ c.toNat && c.toNat ≠ 0xFFFE && c.toNat ≠ 0xFFFF)

/-- Text made of XML characters only. -/
def Compatible (s : String) : Prop := ∀ c ∈ s.toList, isXmlChar c = true

instance (s : String) : Decidable (Compatible s) :=
  inferInstanceAs (Decidable (∀ c ∈ s.toList, isXmlChar c = true))

/-- The failure of a string that is not XML-compatible. -/
def incompatible : Failure :=
  ⟨.badValue,
    "All strings must be XML compatible: Unicode or ASCII, no NULL bytes or control characters"⟩

/-- The written form of one character of an attribute value. -/
def escapeAttrChar (c : Char) : String :=
  if c = '&' then "&amp;"
  else if c = '<' then "&lt;"
  else if c = '>' then "&gt;"
  else if c = '"' then "&quot;"
  else if c = '\t' then "&#9;"
  else if c = '\n' then "&#10;"
  else if c = '\r' then "&#13;"
  else c.toString

/-- The written form of an attribute value, without its quotes. -/
def escapeAttr (s : String) : String := String.join (s.toList.map escapeAttrChar)

/-- Succeeds when a string has a UTF-8 form and is XML-compatible. -/
def checkValue (s : String) : Except Failure Unit := do
  Text.checkUtf8 s
  if Compatible s then pure () else throw incompatible

/-- Succeeds when all attribute values pass `checkValue`; the first that fails is the failure. -/
def checkAttrs (attrs : List (String × String)) : Except Failure Unit :=
  attrs.forM fun a => checkValue a.2

/-- An element, if all its attribute values are XML-compatible. -/
def Element.make (name : String) (attrs : List (String × String)) (children : List Element) :
    Except Failure Element := do
  checkAttrs attrs
  pure (.mk name attrs children)

theorem escapeAttr_append (s t : String) : escapeAttr (s ++ t) = escapeAttr s ++ escapeAttr t := by
  simp [escapeAttr, String.toList_append, String.join_append]

/-! ## Writing documents -/

/-- Attributes as written in a start tag, each preceded by a space. -/
def attrsText (attrs : List (String × String)) : String :=
  String.join (attrs.map fun (k, v) => " " ++ k ++ "=\"" ++ escapeAttr v ++ "\"")

/-- Two spaces per level. -/
def indent (depth : Nat) : String := String.ofList (List.replicate (2 * depth) ' ')

mutual

/-- The text of an element at a depth; its first line is not indented, its last line is its
end tag or its only tag. -/
def Element.render (depth : Nat) : Element → String
  | .mk name attrs [] => "<" ++ name ++ attrsText attrs ++ "/>"
  | .mk name attrs (c :: cs) =>
    "<" ++ name ++ attrsText attrs ++ ">\n" ++ renderChildren (depth + 1) (c :: cs) ++
      indent depth ++ "</" ++ name ++ ">"

/-- Children at a depth, each on its own indented line. -/
def renderChildren (depth : Nat) : List Element → String
  | [] => ""
  | c :: cs => indent depth ++ c.render depth ++ "\n" ++ renderChildren depth cs

end

/-- The text of a document with this root. -/
def Element.document (root : Element) : String := root.render 0 ++ "\n"

end Xml

end RoadAtlas
