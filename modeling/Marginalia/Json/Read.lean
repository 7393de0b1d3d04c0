import Marginalia.Json.Value

/-!
# Reading JSON

A text is cut into tokens, and the tokens are put together with the containers that are
still open on a stack.  Reading is strict: nothing may follow the value but white
space, and no string holds a raw control character.

## Main definitions

* `Json.Token`, `Json.tokens?` — the tokens of a text.
* `Json.stringBody?`, `Json.joinSurrogates` — strings.
* `Json.isNumber` — the grammar of numbers.
* `Json.Stage`, `Json.Machine` — a value being put together.
* `Json.read?` — the value of a text.
-/

namespace Marginalia
namespace Json

/-! ### Strings -/

/-- The character an escape stands for, apart from those by number. -/
def escaped? (c : Char) : Option Char :=
  match c with
  | '"' => some '"'
  | '\\' => some '\\'
  | '/' => some '/'
  | 'b' => some '\x08'
  | 'f' => some '\x0c'
  | 'n' => some '\n'
  | 'r' => some '\r'
  | 't' => some '\t'
  | _ => none

/-- A string up to its closing quote, as the numbers of its characters and of the halves
of surrogate pairs, and the rest after the quote. -/
def stringBody? : Text → Option (List Nat × Text)
  | [] => none
  | '"' :: t => some ([], t)
  | '\\' :: 'u' :: a :: b :: c :: d :: t =>
    if [a, b, c, d].all Text.isHexDigit then
      (stringBody? t).map fun r => (Text.numeral 16 [a, b, c, d] :: r.1, r.2)
    else none
  | '\\' :: c :: t =>
    match escaped? c with
    | some c => (stringBody? t).map fun r => (c.toNat :: r.1, r.2)
    | none => none
  | c :: t =>
    if c.toNat < 0x20 || c = '\\' then none
    else (stringBody? t).map fun r => (c.toNat :: r.1, r.2)

/-- Whether a number is the first half of a surrogate pair. -/
def isHighSurrogate (n : Nat) : Bool := 0xD800 ≤ n && n ≤ 0xDBFF

/-- Whether a number is the second half of a surrogate pair. -/
def isLowSurrogate (n : Nat) : Bool := 0xDC00 ≤ n && n ≤ 0xDFFF

/-- Numbers as characters, with the two halves of each surrogate pair joined; `none` if a
half stands alone. -/
def joinSurrogates : List Nat → Option Text
  | [] => some []
  | [n] => if n.isValidChar then some [Char.ofNat n] else none
  | n :: m :: ns =>
    if isHighSurrogate n then
      if isLowSurrogate m then
        (joinSurrogates ns).map fun t =>
          Char.ofNat (0x10000 + (n - 0xD800) * 0x400 + (m - 0xDC00)) :: t
      else none
    else if n.isValidChar then (joinSurrogates (m :: ns)).map fun t => Char.ofNat n :: t
    else none

/-! ### Numbers -/

/-- A character of a number. -/
def isNumberChar (c : Char) : Bool :=
  Text.isDigit c || c == '-' || c == '+' || c == '.' || c == 'e' || c == 'E'

/-- The rest of a text after one or more digits. -/
def afterDigits? (t : Text) : Option Text :=
  if t.head?.any Text.isDigit then some (t.dropWhile Text.isDigit) else none

/-- The rest of a text after digits without a leading zero. -/
def afterWhole? : Text → Option Text
  | '0' :: t => some t
  | t => afterDigits? t

/-- The rest of a text after a fraction, if there is one. -/
def afterFraction? : Text → Option Text
  | '.' :: t => afterDigits? t
  | t => some t

/-- The rest of a text after an exponent, if there is one. -/
def afterExponent? : Text → Option Text
  | [] => some []
  | e :: t =>
    if e = 'e' || e = 'E' then
      match t with
      | '+' :: t => afterDigits? t
      | '-' :: t => afterDigits? t
      | t => afterDigits? t
    else some (e :: t)

/-- Whether a text is a number. -/
def isNumber (t : Text) : Bool :=
  let t := match t with
    | '-' :: t => t
    | t => t
  (afterWhole? t >>= afterFraction? >>= afterExponent?).any List.isEmpty

/-! ### Tokens -/

/-- A token. -/
inductive Token where
  /-- `[`. -/
  | openArray
  /-- `]`. -/
  | closeArray
  /-- The brace that opens an object. -/
  | openObject
  /-- The brace that closes an object. -/
  | closeObject
  /-- `,`. -/
  | comma
  /-- `:`. -/
  | colon
  /-- A string. -/
  | string (t : Option Text)
  /-- Another value that is no container. -/
  | scalar (v : Json)

/-- White space between tokens. -/
def isSpace (c : Char) : Bool := c == ' ' || c == '\t' || c == '\n' || c == '\r'

/-- The token that begins with a character, and how many of the characters after it
belong to it. -/
def token? (c : Char) (rest : Text) : Option (Token × Nat) :=
  match c with
  | '[' => some (.openArray, 0)
  | ']' => some (.closeArray, 0)
  | '\x7b' => some (.openObject, 0)
  | '\x7d' => some (.closeObject, 0)
  | ',' => some (.comma, 0)
  | ':' => some (.colon, 0)
  | '"' =>
    (stringBody? rest).map fun (codes, after) =>
      (.string (joinSurrogates codes), rest.length - after.length)
  | 'n' => if Text.beginsWith "ull".toList rest then some (.scalar .null, 3) else none
  | 't' => if Text.beginsWith "rue".toList rest then some (.scalar (.bool true), 3) else none
  | 'f' => if Text.beginsWith "alse".toList rest then some (.scalar (.bool false), 4) else none
  | c =>
    let more := rest.takeWhile isNumberChar
    if isNumberChar c && isNumber (c :: more) then some (.scalar (.number (c :: more)), more.length)
    else none

/-- Add the token that begins with a character to those read, the last one first. -/
def tokenStep (done : Option (List Token)) (c : Char) (rest : Text) :
    Option (List Token) × Nat :=
  match done with
  | none => (none, 0)
  | some ts =>
    if isSpace c then (some ts, 0)
    else
      match token? c rest with
      | some (token, taken) => (some (token :: ts), taken)
      | none => (none, 0)

/-- The tokens of a text. -/
def tokens? (t : Text) : Option (List Token) :=
  (Text.scanFrom tokenStep t 0 (some [])).map List.reverse

/-! ### Values -/

/-- A container that is still open, its parts so far with the last one first. -/
inductive Open where
  /-- An array. -/
  | array (elements : List Json)
  /-- An object, with the name of the member that is being read. -/
  | object (members : List (Option Text × Json)) (name : Option Text)

/-- What may come next. -/
inductive Stage where
  /-- A value. -/
  | value
  /-- A value, or the end of an array without elements. -/
  | firstValue
  /-- The name of a member. -/
  | name
  /-- The name of a member, or the end of an object without members. -/
  | firstName
  /-- The colon after a name. -/
  | colon
  /-- A comma, or the end of the container. -/
  | more
  /-- Nothing. -/
  | done
  deriving DecidableEq, Repr

/-- A value being put together. -/
structure Machine where
  /-- What may come next. -/
  stage : Stage
  /-- The open containers, the innermost one first. -/
  stack : List Open
  /-- The value, once it is complete. -/
  result : Option Json

namespace Machine

/-- Nothing read yet. -/
def start : Machine := ⟨.value, [], none⟩

/-- Put a complete value where it belongs. -/
def give (m : Machine) (v : Json) : Machine :=
  match m.stack with
  | [] => ⟨.done, [], some v⟩
  | .array elements :: stack => { m with stage := .more, stack := .array (v :: elements) :: stack }
  | .object members name :: stack =>
    { m with stage := .more, stack := .object ((name, v) :: members) none :: stack }

/-- Whether a value may come next. -/
def wantsValue (m : Machine) : Bool := m.stage == .value || m.stage == .firstValue

/-- Take a token; `none` if it may not come next. -/
def step (m : Machine) : Token → Option Machine
  | .openArray =>
    if m.wantsValue then some { m with stage := .firstValue, stack := .array [] :: m.stack }
    else none
  | .openObject =>
    if m.wantsValue then some { m with stage := .firstName, stack := .object [] none :: m.stack }
    else none
  | .scalar v => if m.wantsValue then some (m.give v) else none
  | .string t =>
    if m.wantsValue then some (m.give (.string t))
    else
      match m.stage, m.stack with
      | .name, .object members _ :: stack | .firstName, .object members _ :: stack =>
        some { m with stage := .colon, stack := .object members t :: stack }
      | _, _ => none
  | .colon => if m.stage = .colon then some { m with stage := .value } else none
  | .comma =>
    match m.stage, m.stack with
    | .more, .array _ :: _ => some { m with stage := .value }
    | .more, .object _ _ :: _ => some { m with stage := .name }
    | _, _ => none
  | .closeArray =>
    match m.stack with
    | .array elements :: stack =>
      if m.stage = .more || m.stage = .firstValue then
        some ({ m with stack := stack }.give (.array elements.reverse))
      else none
    | _ => none
  | .closeObject =>
    match m.stack with
    | .object members _ :: stack =>
      if m.stage = .more || m.stage = .firstName then
        some ({ m with stack := stack }.give (.object members.reverse))
      else none
    | _ => none

end Machine

/-- The value of a text. -/
def read? (t : Text) : Option Json := do
  let ts ← tokens? t
  let m ← ts.foldlM Machine.step Machine.start
  m.result

end Json
end Marginalia
