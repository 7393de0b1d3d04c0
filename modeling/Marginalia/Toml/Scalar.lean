import Marginalia.Toml.Value

/-!
# Strings, numbers and dates of TOML

## Main definitions

* `Toml.basicBody?`, `Toml.basicLinesBody?`, `Toml.literalBody?`,
  `Toml.literalLinesBody?` — the four kinds of strings, after their opening quotes.
* `Toml.string?` — a string of any kind.
* `Toml.isInteger`, `Toml.isFloat`, `Toml.isMoment` — the grammars of the rest.
* `Toml.isTooLarge` — the numbers that no float comes close to.
* `Toml.scalar?` — a value that is no string and no container.
-/

namespace Marginalia
namespace Toml

/-- White space on a line. -/
def isSpace (c : Char) : Bool := c == ' ' || c == '\t'

/-- A text without the white space it begins with. -/
def skipSpace (t : Text) : Text := t.dropWhile isSpace

/-- A control character that may not stand in a string or a comment. -/
def isControl (c : Char) : Bool := (c.toNat < 0x20 && c != '\t') || c.toNat == 0x7F

/-! ### Strings -/

/-- The character of a number in hexadecimal digits. -/
def codePoint? (digits : Text) : Option Char :=
  let n := Text.numeral 16 digits
  if digits.all Text.isHexDigit && n.isValidChar then some (Char.ofNat n) else none

/-- The character an escape stands for, apart from those by number. -/
def escaped? (c : Char) : Option Char :=
  match c with
  | 'b' => some '\x08'
  | 't' => some '\t'
  | 'n' => some '\n'
  | 'f' => some '\x0c'
  | 'r' => some '\r'
  | '"' => some '"'
  | '\\' => some '\\'
  | _ => none

/-- Put a character, if there is one, in front of a string that was read. -/
def push (c : Option Char) (r : Option (Text × Text)) : Option (Text × Text) := do
  let c ← c
  let r ← r
  pure (c :: r.1, r.2)

/-- A string on one line up to its closing quote, escapes resolved, and the rest. -/
def basicBody? : Text → Option (Text × Text)
  | [] => none
  | '"' :: t => some ([], t)
  | '\\' :: 'u' :: a :: b :: c :: d :: t => push (codePoint? [a, b, c, d]) (basicBody? t)
  | '\\' :: 'U' :: a :: b :: c :: d :: e :: f :: g :: h :: t =>
    push (codePoint? [a, b, c, d, e, f, g, h]) (basicBody? t)
  | '\\' :: c :: t => push (escaped? c) (basicBody? t)
  | c :: t => if isControl c || c = '\\' then none else push (some c) (basicBody? t)

theorem basicBody?_quote (t : Text) : basicBody? ('"' :: t) = some ([], t) := by
  simp [basicBody?]

/-- Whether nothing but white space stands before the end of the line. -/
def restOfLineEmpty (t : Text) : Bool :=
  match skipSpace t with
  | '\n' :: _ => true
  | '\r' :: '\n' :: _ => true
  | _ => false

/-- A string on several lines up to its closing quotes, escapes resolved, and the rest.
With `joining`, a line end has been escaped and white space is passed over. -/
def basicLinesBody? (joining : Bool) : Text → Option (Text × Text)
  | [] => none
  | '"' :: '"' :: '"' :: '"' :: '"' :: t => some (['"', '"'], t)
  | '"' :: '"' :: '"' :: '"' :: t => some (['"'], t)
  | '"' :: '"' :: '"' :: t => some ([], t)
  | '\\' :: 'u' :: a :: b :: c :: d :: t =>
    push (codePoint? [a, b, c, d]) (basicLinesBody? false t)
  | '\\' :: 'U' :: a :: b :: c :: d :: e :: f :: g :: h :: t =>
    push (codePoint? [a, b, c, d, e, f, g, h]) (basicLinesBody? false t)
  | '\\' :: c :: t =>
    if restOfLineEmpty (c :: t) then basicLinesBody? true t
    else push (escaped? c) (basicLinesBody? false t)
  | '\r' :: '\n' :: t =>
    if joining then basicLinesBody? true t else push (some '\n') (basicLinesBody? false t)
  | c :: t =>
    if joining && (isSpace c || c == '\n') then basicLinesBody? true t
    else if c = '\n' then push (some c) (basicLinesBody? false t)
    else if isControl c || c = '\\' then none
    else push (some c) (basicLinesBody? false t)

theorem basicLinesBody?_return (joining : Bool) (t : Text) :
    basicLinesBody? joining ('\r' :: '\n' :: t) =
      if joining then basicLinesBody? true t else push (some '\n') (basicLinesBody? false t) := by
  rw [basicLinesBody?.eq_8]

/-- A string without escapes on one line up to its closing quote, and the rest. -/
def literalBody? : Text → Option (Text × Text)
  | [] => none
  | '\'' :: t => some ([], t)
  | c :: t => if isControl c then none else push (some c) (literalBody? t)

/-- A string without escapes on several lines up to its closing quotes, and the rest. -/
def literalLinesBody? : Text → Option (Text × Text)
  | [] => none
  | '\'' :: '\'' :: '\'' :: '\'' :: '\'' :: t => some (['\'', '\''], t)
  | '\'' :: '\'' :: '\'' :: '\'' :: t => some (['\''], t)
  | '\'' :: '\'' :: '\'' :: t => some ([], t)
  | '\r' :: '\n' :: t => push (some '\n') (literalLinesBody? t)
  | c :: t =>
    if isControl c && c != '\n' then none else push (some c) (literalLinesBody? t)

/-- A text without the line end it begins with, if it does. -/
def dropLineEnd : Text → Text
  | '\n' :: t => t
  | '\r' :: '\n' :: t => t
  | t => t

/-- The string on one line that a text begins with, and the rest. -/
def lineString? : Text → Option (Text × Text)
  | '"' :: t => basicBody? t
  | '\'' :: t => literalBody? t
  | _ => none

/-- The string that a text begins with, and the rest. -/
def string? : Text → Option (Text × Text)
  | '"' :: '"' :: '"' :: t => basicLinesBody? false (dropLineEnd t)
  | '\'' :: '\'' :: '\'' :: t => literalLinesBody? (dropLineEnd t)
  | t => lineString? t

/-! ### Numbers -/

/-- Digits, with single underscores between them. -/
def isDigits (accept : Char → Bool) (t : Text) : Bool :=
  (Text.splitOn '_' t).all fun part => !part.isEmpty && part.all accept

/-- Digits that do not begin with a zero, unless they are one. -/
def isWhole (t : Text) : Bool :=
  isDigits Text.isDigit t && (t.length == 1 || t.head? != some '0')

/-- A text without a sign. -/
def dropSign : Text → Text
  | '+' :: t => t
  | '-' :: t => t
  | t => t

/-- The largest number of a kind that an integer may be: sixty-three bits, and one more
when negative. -/
def withinRange (negative : Bool) (n : Nat) : Bool :=
  if negative then n ≤ Nat.pow 2 63 else n < Nat.pow 2 63

/-- The number that digits with underscores denote. -/
def digitsValue (base : Nat) (t : Text) : Nat := Text.numeral base (t.filter (· != '_'))

/-- An integer. -/
def isInteger (t : Text) : Bool :=
  match t with
  | '0' :: 'x' :: d => isDigits Text.isHexDigit d && withinRange false (digitsValue 16 d)
  | '0' :: 'o' :: d =>
    isDigits (fun c => '0' ≤ c && c ≤ '7') d && withinRange false (digitsValue 8 d)
  | '0' :: 'b' :: d =>
    isDigits (fun c => c == '0' || c == '1') d && withinRange false (digitsValue 2 d)
  | t =>
    isWhole (dropSign t) &&
      withinRange (t.head? == some '-') (digitsValue 10 (dropSign t))

/-- The parts of a text before and after the first character that `test` allows. -/
def cut (test : Char → Bool) (t : Text) : Text × Option Text :=
  match t.dropWhile fun c => !test c with
  | [] => (t, none)
  | _ :: after => (t.takeWhile fun c => !test c, some after)

/-- A number with a fraction, an exponent or both, or one that is infinite or none. -/
def isFloat (t : Text) : Bool :=
  let t := dropSign t
  let (mantissa, exponent) := cut (fun c => c == 'e' || c == 'E') t
  let (whole, fraction) := cut (· == '.') mantissa
  t == "inf".toList || t == "nan".toList ||
    ((exponent.isSome || fraction.isSome) && isWhole whole &&
      fraction.all (isDigits Text.isDigit) &&
      exponent.all fun e => isDigits Text.isDigit (dropSign e))

/-- The least number that is nearer to the power of two after the largest float than to that
float, or as near. -/
def floatLimit : Nat := Nat.pow 2 1024 - Nat.pow 2 970

/-- Whether a number with a fraction, an exponent or both is too large to be rounded to a
float.  Negative ones are not judged.  Only a number whose first digit stands for as many
places as that of the limit needs to be compared with it. -/
def isTooLarge (t : Text) : Bool :=
  let (mantissa, exponent) := cut (fun c => c == 'e' || c == 'E') t
  let (whole, fraction) := cut (· == '.') mantissa
  let places := ((fraction.getD []).filter (· != '_')).length
  let digits := (dropSign whole ++ fraction.getD []).filter (· != '_')
  let size := (digits.dropWhile (· == '0')).length
  let power := exponent.getD []
  let shift := digitsValue 10 (dropSign power)
  -- the number is `digits`, times ten to the power of `up`, over ten to that of `down`
  let (up, down) := if power.head? == some '-' then (0, places + shift) else (shift, places)
  if t.head? == some '-' || size = 0 || size + up < 309 + down then false
  else if 309 + down < size + up then true
  else floatLimit * Nat.pow 10 down ≤ Text.numeral 10 digits * Nat.pow 10 up

/-! ### Dates and times -/

/-- The number that a text of exactly `n` digits denotes. -/
def fixed? (n : Nat) (t : Text) : Option Nat :=
  if t.length == n && t.all Text.isDigit then some (Text.numeral 10 t) else none

/-- How many days a month has. -/
def daysIn (year month : Nat) : Nat :=
  if month == 2 then
    if year % 4 == 0 && (year % 100 != 0 || year % 400 == 0) then 29 else 28
  else if month == 4 || month == 6 || month == 9 || month == 11 then 30
  else 31

/-- A date: year, month and day. -/
def isDate (t : Text) : Bool :=
  match Text.splitOn '-' t with
  | [y, m, d] =>
    match fixed? 4 y, fixed? 2 m, fixed? 2 d with
    | some y, some m, some d => 1 ≤ m && m ≤ 12 && 1 ≤ d && d ≤ daysIn y m
    | _, _, _ => false
  | _ => false

/-- Hours and minutes. -/
def isHourMinute (h m : Text) : Bool :=
  (fixed? 2 h).any (· ≤ 23) && (fixed? 2 m).any (· ≤ 59)

/-- A time: hours, minutes and seconds, and perhaps parts of a second. -/
def isTime (t : Text) : Bool :=
  match Text.splitOn ':' t with
  | [h, m, s] =>
    let (s, fraction) := cut (· == '.') s
    isHourMinute h m && (fixed? 2 s).any (· ≤ 60) &&
      fraction.all fun f => !f.isEmpty && f.all Text.isDigit
  | _ => false

/-- How far a time is from that of Greenwich, with its sign left out. -/
def isOffset (t : Text) : Bool :=
  match Text.splitOn ':' t with
  | [h, m] => isHourMinute h m
  | _ => false

/-- A time, perhaps with an offset. -/
def isZonedTime (t : Text) : Bool :=
  match cut (fun c => c == 'Z' || c == 'z') t with
  | (time, some after) => after.isEmpty && isTime time
  | (t, none) =>
    match cut (fun c => c == '+' || c == '-') t with
    | (time, some offset) => isTime time && isOffset offset
    | (time, none) => isTime time

/-- A date, a time, or both with a separator between them. -/
def isMoment (t : Text) : Bool :=
  isDate t || isTime t ||
    (isDate (t.take 10) && ((t.drop 10).head?.any fun c => c == 'T' || c == 't' || c == ' ') &&
      isZonedTime (t.drop 11))

/-! ### Scalars -/

/-- A character of a number, a date or a name. -/
def isScalarChar (c : Char) : Bool :=
  Text.isAlphanumeric c || c == '+' || c == '-' || c == '.' || c == '_' || c == ':'

/-- The characters of the scalar that a text begins with.  A space belongs to it when it
stands between a date and a time. -/
def scalarText (t : Text) : Text :=
  let first := t.takeWhile isScalarChar
  match t.drop first.length with
  | ' ' :: a :: b :: ':' :: rest =>
    if isDate first && Text.isDigit a && Text.isDigit b then
      first ++ ' ' :: a :: b :: ':' :: rest.takeWhile isScalarChar
    else first
  | _ => first

/-- The value that the characters of a scalar stand for. -/
def scalarValue? (t : Text) : Option Value :=
  if t == "true".toList then some (.boolean true)
  else if t == "false".toList then some (.boolean false)
  else if isInteger t || (isFloat t && !isTooLarge t) then some (.number t)
  else if isMoment t then some (.moment t)
  else none

/-- The scalar that a text begins with, and the rest. -/
def scalar? (t : Text) : Option (Value × Text) :=
  let written := scalarText t
  (scalarValue? written).map fun v => (v, t.drop written.length)

end Toml
end Marginalia
