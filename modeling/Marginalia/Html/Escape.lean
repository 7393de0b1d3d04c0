import Marginalia.Text

/-!
# Escaping for HTML

Four ways to make a text safe inside HTML.  They differ in which characters they
replace and in what becomes of an ampersand.

## Main definitions

* `Html.escape` — for prose that may hold character references: they are kept.
* `Html.escapeText` — for text between tags: `&`, `<` and `>`.
* `Html.escapeAttribute` — also the quotes, for attribute values.
* `Html.escapeUrl` — for addresses in attributes: percent-encoded where needed.
-/

namespace Marginalia
namespace Html

/-! ### Character references -/

/-- Whether a text begins with at least one character that `accept` allows, and
the characters it allows there are followed by a semicolon. -/
def closesReference (accept : Char → Bool) (t : Text) : Bool :=
  match t with
  | [] => false
  | c :: rest => accept c && (rest.dropWhile accept).head? == some ';'

/-- A character of a reference by name. -/
def isNameChar (c : Char) : Bool := Text.isAlphanumeric c || c == '_'

/-- Whether a text that follows an ampersand completes a character reference:
hexadecimal, decimal or by name, ended by a semicolon. -/
def startsReference : Text → Bool
  | '#' :: 'x' :: rest => closesReference Text.isHexDigit rest
  | '#' :: 'X' :: rest => closesReference Text.isHexDigit rest
  | '#' :: rest => closesReference Text.isDigit rest
  | rest => closesReference isNameChar rest

/-! ### Escaping that keeps references -/

/-- A character that `escape` may replace. -/
def isSpecial (c : Char) : Bool := c == '&' || c == '<' || c == '>' || c == '"'

/-- A text with nothing to escape. -/
def isPlain (t : Text) : Bool := !t.any isSpecial

/-- What is written for a character, given the text that follows it. -/
def escapeChar (c : Char) (rest : Text) : Text :=
  if c = '&' then if startsReference rest then "&".toList else "&amp;".toList
  else if c = '<' then "&lt;".toList
  else if c = '>' then "&gt;".toList
  else if c = '"' then "&quot;".toList
  else [c]

/-- Every character of a text, escaped. -/
def escapeChars : Text → Text
  | [] => []
  | c :: rest => escapeChar c rest ++ escapeChars rest

/-- A text with `<`, `>`, `"` and every `&` that starts no character reference
escaped.  A plain text is itself. -/
def escape (t : Text) : Text := if isPlain t then t else escapeChars t

@[simp] theorem escapeChars_nil : escapeChars [] = [] := rfl

@[simp] theorem escapeChars_cons (c : Char) (t : Text) :
    escapeChars (c :: t) = escapeChar c t ++ escapeChars t := rfl

/-! ### Escaping character by character -/

/-- The reference that stands for a character between tags. -/
def textChar (c : Char) : Text :=
  if c = '&' then "&amp;".toList
  else if c = '<' then "&lt;".toList
  else if c = '>' then "&gt;".toList
  else [c]

/-- The reference that stands for a character in an attribute value. -/
def attributeChar (c : Char) : Text :=
  if c = '"' then "&quot;".toList
  else if c = '\'' then "&#39;".toList
  else textChar c

/-- Text between tags: quotes stay. -/
def escapeText (t : Text) : Text := t.flatMap textChar

/-- Text of an attribute value: quotes are replaced as well. -/
def escapeAttribute (t : Text) : Text := t.flatMap attributeChar

/-! ### Addresses -/

/-- The characters that stand for themselves in an address. -/
def isUrlChar (c : Char) : Bool :=
  Text.isAlphanumeric c || "!#$%()*+,-./:;=?@^_~".toList.contains c

/-- A digit of base sixteen, in upper case. -/
def hexDigit (n : Nat) : Char :=
  if n < 10 then Char.ofNat ('0'.toNat + n) else Char.ofNat ('A'.toNat + (n - 10))

/-- A byte as `%` and two digits. -/
def percentByte (b : UInt8) : Text := ['%', hexDigit (b.toNat / 16), hexDigit (b.toNat % 16)]

/-- What is written for a character of an address. -/
def urlChar (c : Char) : Text :=
  if c = '&' then "&amp;".toList
  else if c = '\'' then "&#x27;".toList
  else if isUrlChar c then [c]
  else (String.utf8EncodeChar c).flatMap percentByte

/-- An address for an attribute value: every other character is written as the
bytes of its UTF-8 form. -/
def escapeUrl (t : Text) : Text := t.flatMap urlChar

end Html
end Marginalia
