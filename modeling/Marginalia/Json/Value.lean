import Marginalia.Text

/-!
# JSON values and their text

## Main definitions

* `Json` — the values.
* `Json.quote` — a text as a JSON string.
* `Json.pretty` — a value on lines of its own, indented by two spaces a level.

In a string only quotes, backslashes and control characters below the space are
escaped; everything else is written as it is.
-/

namespace Marginalia

/-- A JSON value. -/
inductive Json where
  /-- `null`. -/
  | null
  /-- `true` or `false`. -/
  | bool (b : Bool)
  /-- A number as written. -/
  | number (t : Text)
  /-- A string; `none` stands for one with half of a surrogate pair in it, which has
  no text. -/
  | string (t : Option Text)
  /-- An array. -/
  | array (elements : List Json)
  /-- An object: its members in order, the names being strings like any other. -/
  | object (members : List (Option Text × Json))

namespace Json

/-! ### Strings -/

/-- A digit of base sixteen, in lower case. -/
def hexDigit (n : Nat) : Char :=
  if n < 10 then Char.ofNat ('0'.toNat + n) else Char.ofNat ('a'.toNat + (n - 10))

/-- What is written for a character of a string. -/
def quoteChar (c : Char) : Text :=
  if c = '"' then "\\\"".toList
  else if c = '\\' then "\\\\".toList
  else if c = '\x08' then "\\b".toList
  else if c = '\t' then "\\t".toList
  else if c = '\n' then "\\n".toList
  else if c = '\x0c' then "\\f".toList
  else if c = '\r' then "\\r".toList
  else if c.toNat < 0x20 then
    "\\u00".toList ++ [hexDigit (c.toNat / 16), hexDigit (c.toNat % 16)]
  else [c]

/-- A text as a JSON string. -/
def quote (t : Text) : Text := '"' :: t.flatMap quoteChar ++ ['"']

/-! ### Values -/

/-- The beginning of a line `depth` levels deep. -/
def indentation (depth : Nat) : Text := '\n' :: List.replicate (2 * depth) ' '

mutual

/-- A value that begins on a line `depth` levels deep. -/
def pretty (depth : Nat) : Json → Text
  | .null => "null".toList
  | .bool b => if b then "true".toList else "false".toList
  | .number t => t
  | .string t => quote (t.getD ['\uFFFD'])
  | .array [] => "[]".toList
  | .array (v :: vs) =>
    '[' :: indentation (depth + 1) ++ pretty (depth + 1) v ++ prettyElements (depth + 1) vs ++
      indentation depth ++ [']']
  | .object [] => "\x7b\x7d".toList
  | .object ((name, v) :: ms) =>
    '\x7b' :: indentation (depth + 1) ++ quote (name.getD ['\uFFFD']) ++ ": ".toList ++
      pretty (depth + 1) v ++ prettyMembers (depth + 1) ms ++ indentation depth ++ ['\x7d']

/-- The elements of an array after the first one. -/
def prettyElements (depth : Nat) : List Json → Text
  | [] => []
  | v :: vs => ',' :: indentation depth ++ pretty depth v ++ prettyElements depth vs

/-- The members of an object after the first one. -/
def prettyMembers (depth : Nat) : List (Option Text × Json) → Text
  | [] => []
  | (name, v) :: ms =>
    ',' :: indentation depth ++ quote (name.getD ['\uFFFD']) ++ ": ".toList ++
      pretty depth v ++ prettyMembers depth ms

end

end Json
end Marginalia
