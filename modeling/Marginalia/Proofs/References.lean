import Marginalia.Html.Escape
import Mathlib.Data.List.TakeWhile

/-!
# Character references and what they stand for

A reader of HTML goes through a text once and replaces the character references that it
knows.  What a reference is, is the same for reading as for escaping.  A text that has been
escaped for an attribute or to stand between tags is read as it was.

## Main definitions

* `Html.ReferenceTable` — what references stand for.
* `Html.ReferenceTable.Knows` — that a table knows the references that escaping writes.
* `Html.decode` — a text with its references replaced, once and from left to right.
* `Html.ReferenceTable.quotes` — a table with no other references.

## Main results

* `Html.decode_reference`, `Html.decode_cons` — a reference, and any other character.
* `Html.decode_escapeText_append`, `Html.decode_escapeAttribute` — **decoding undoes escaping**.
-/

namespace Marginalia
namespace Html

/-! ### Decoding -/

/-- What character references stand for, by what is between the ampersand and the semicolon;
`none` for one that is left as it is. -/
abbrev ReferenceTable := Text → Option Text

/-- What is between the ampersand and the semicolon of the character reference that is
completed by a text, if it completes one. -/
def reference? (t : Text) : Option Text :=
  if startsReference t then some (t.takeWhile (· != ';')) else none

/-- The known reference that a character begins, and what it stands for, given what follows
the character. -/
def replaced? (table : ReferenceTable) (c : Char) (rest : Text) : Option (Text × Text) :=
  if c = '&' then (reference? rest).bind fun body => (table body).map (body, ·) else none

/-- Decode what follows the next `skip` characters. -/
def decodeFrom (table : ReferenceTable) : Text → Nat → Text
  | [], _ => []
  | _ :: rest, skip + 1 => decodeFrom table rest skip
  | c :: rest, 0 =>
    match replaced? table c rest with
    | some (body, value) => value ++ decodeFrom table rest (body.length + 1)
    | none => c :: decodeFrom table rest 0

/-- A text with its character references replaced, once and from left to right. -/
def decode (table : ReferenceTable) (t : Text) : Text := decodeFrom table t 0

namespace ReferenceTable

/-- The table knows the references for the characters that have a meaning in HTML. -/
structure Knows (table : ReferenceTable) : Prop where
  amp : table "amp".toList = some ['&']
  lt : table "lt".toList = some ['<']
  gt : table "gt".toList = some ['>']
  quot : table "quot".toList = some ['"']

/-- The references for the characters that have a meaning in HTML, and for the apostrophe. -/
def quotes : ReferenceTable := fun body =>
  if body = "amp".toList then some ['&']
  else if body = "lt".toList then some ['<']
  else if body = "gt".toList then some ['>']
  else if body = "quot".toList then some ['"']
  else if body = "#39".toList then some ['\'']
  else none

theorem knows_quotes : quotes.Knows := by
  constructor <;> rfl

end ReferenceTable

variable {table : ReferenceTable}

@[simp] theorem decode_nil : decode table [] = [] := rfl

/-- Characters that have been dealt with are passed over. -/
theorem decodeFrom_append (passed rest : Text) :
    decodeFrom table (passed ++ rest) passed.length = decode table rest := by
  induction passed with
  | nil => rfl
  | cons c passed ih => exact ih

/-- A character that begins no known reference is copied. -/
theorem decode_copy {c : Char} {rest : Text} (h : replaced? table c rest = none) :
    decode table (c :: rest) = c :: decode table rest := by
  rw [decode, decodeFrom, h]
  rfl

theorem decode_cons {c : Char} (hc : c ≠ '&') (rest : Text) :
    decode table (c :: rest) = c :: decode table rest :=
  decode_copy (by rw [replaced?, if_neg hc])

/-- A text without ampersands is copied. -/
theorem decode_append {a : Text} (h : '&' ∉ a) (rest : Text) :
    decode table (a ++ rest) = a ++ decode table rest := by
  induction a with
  | nil => rfl
  | cons c a ih =>
    rw [List.mem_cons, not_or] at h
    rw [List.cons_append, decode_cons (Ne.symm h.1), ih h.2, List.cons_append]

/-- A reference ends at its first semicolon. -/
theorem reference?_append {body rest : Text}
    (hstarts : startsReference (body ++ ';' :: rest) = true) (hbody : ';' ∉ body) :
    reference? (body ++ ';' :: rest) = some body := by
  have hall : ∀ c ∈ body, (c != ';') = true := by
    intro c hc
    rw [bne_iff_ne]
    rintro rfl
    exact hbody hc
  have htake : (body ++ ';' :: rest).takeWhile (· != ';') = body := by
    rw [List.takeWhile_append_of_pos hall, List.takeWhile_cons_of_neg (by decide), List.append_nil]
  rw [reference?, if_pos hstarts, htake]

/-- A reference that the table knows is replaced. -/
theorem decode_reference {body value rest : Text}
    (hstarts : startsReference (body ++ ';' :: rest) = true) (hbody : ';' ∉ body)
    (hvalue : table body = some value) :
    decode table ('&' :: (body ++ ';' :: rest)) = value ++ decode table rest := by
  have hreplaced : replaced? table '&' (body ++ ';' :: rest) = some (body, value) := by
    rw [replaced?, if_pos rfl, reference?_append hstarts hbody, Option.bind_some, hvalue,
      Option.map_some]
  have hskip := @decodeFrom_append table (body ++ [';']) rest
  rw [List.length_append, List.append_assoc] at hskip
  rw [decode, decodeFrom, hreplaced, ← hskip]
  rfl

/-! ### Decoding what has been escaped -/

/-- What is written for a character between tags is decoded to it. -/
theorem decode_textChar (h : table.Knows) (c : Char) (rest : Text) :
    decode table (textChar c ++ rest) = c :: decode table rest := by
  rw [textChar]
  by_cases hamp : c = '&'
  · subst hamp
    exact decode_reference rfl (by decide) h.amp
  by_cases hlt : c = '<'
  · subst hlt
    exact decode_reference rfl (by decide) h.lt
  by_cases hgt : c = '>'
  · subst hgt
    exact decode_reference rfl (by decide) h.gt
  rw [if_neg hamp, if_neg hlt, if_neg hgt]
  exact decode_cons hamp rest

/-- What is written for a character of an attribute value is decoded to it. -/
theorem decode_attributeChar (h : table.Knows) (happ : table "#39".toList = some ['\''])
    (c : Char) (rest : Text) :
    decode table (attributeChar c ++ rest) = c :: decode table rest := by
  rw [attributeChar]
  by_cases hquot : c = '"'
  · subst hquot
    exact decode_reference rfl (by decide) h.quot
  by_cases happostrophe : c = '\''
  · subst happostrophe
    exact decode_reference rfl (by decide) happ
  rw [if_neg hquot, if_neg happostrophe]
  exact decode_textChar h c rest

theorem decode_escapeText_append (h : table.Knows) (t rest : Text) :
    decode table (escapeText t ++ rest) = t ++ decode table rest := by
  induction t with
  | nil => rfl
  | cons c t ih =>
    have hcons : escapeText (c :: t) = textChar c ++ escapeText t := List.flatMap_cons
    rw [hcons, List.append_assoc, decode_textChar h, ih, List.cons_append]

/-- **Decoding undoes escaping.** -/
theorem decode_escapeAttribute (h : table.Knows) (happ : table "#39".toList = some ['\''])
    (t : Text) : decode table (escapeAttribute t) = t := by
  induction t with
  | nil => rfl
  | cons c t ih =>
    have hcons : escapeAttribute (c :: t) = attributeChar c ++ escapeAttribute t :=
      List.flatMap_cons
    rw [hcons, decode_attributeChar h happ, ih]

end Html
end Marginalia
