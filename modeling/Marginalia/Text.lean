/-!
# Texts

A text is the list of its characters.  Everything the library reads or writes is
a text; strings occur only at the rim of a program.

## Main definitions

* `Text` — the type.
* `Text.isSpace`, `Text.isBlank`, `Text.trimStart` — white space.
* `Text.splitOn`, `Text.joinWith`, `Text.lines` — a text as its lines.
* `Text.after?` — what follows a given beginning.
* `Text.scanFrom` — reading a text once from left to right, with look-ahead.
-/

namespace Marginalia

/-- A text: its characters in order. -/
abbrev Text := List Char

namespace Text

/-! ### White space -/

/-- The characters with the Unicode property `White_Space`. -/
def isSpace (c : Char) : Bool :=
  let n := c.toNat
  (0x09 ≤ n && n ≤ 0x0D) || n == 0x20 || n == 0x85 || n == 0xA0 || n == 0x1680 ||
    (0x2000 ≤ n && n ≤ 0x200A) || n == 0x2028 || n == 0x2029 || n == 0x202F ||
    n == 0x205F || n == 0x3000

/-- A text of nothing but white space; the empty text is one. -/
def isBlank (t : Text) : Bool := t.all isSpace

/-- A text without the white space it begins with. -/
def trimStart (t : Text) : Text := t.dropWhile isSpace

@[simp] theorem isBlank_nil : isBlank [] = true := rfl

@[simp] theorem isBlank_cons (c : Char) (t : Text) :
    isBlank (c :: t) = (isSpace c && isBlank t) := rfl

@[simp] theorem trimStart_nil : trimStart [] = [] := rfl

/-! ### Cutting and joining -/

/-- Put `c` in front of the first piece. -/
def consHead (c : Char) : List Text → List Text
  | [] => [[c]]
  | piece :: pieces => (c :: piece) :: pieces

/-- The pieces between the occurrences of `sep`: one more than there are
occurrences, so at least one. -/
def splitOn (sep : Char) : Text → List Text
  | [] => [[]]
  | c :: t => if c = sep then [] :: splitOn sep t else consHead c (splitOn sep t)

/-- The pieces one after another with `sep` between neighbours. -/
def joinWith (sep : Char) : List Text → Text
  | [] => []
  | [piece] => piece
  | piece :: pieces => piece ++ sep :: joinWith sep pieces

/-- The lines of a text, without the newlines between them. -/
def lines (t : Text) : List Text := splitOn '\n' t

/-- Lines joined by newlines. -/
def unlines (ls : List Text) : Text := joinWith '\n' ls

@[simp] theorem splitOn_nil (sep : Char) : splitOn sep [] = [[]] := rfl

theorem splitOn_ne_nil (sep : Char) (t : Text) : splitOn sep t ≠ [] := by
  cases t with
  | nil => simp
  | cons c t =>
    unfold splitOn
    split
    · simp
    · cases splitOn sep t <;> simp [consHead]

/-! ### Beginnings -/

/-- What follows `start` in a text that begins with it. -/
def after? : Text → Text → Option Text
  | [], t => some t
  | _ :: _, [] => none
  | p :: start, c :: t => if p = c then after? start t else none

/-- Whether a text begins with `start`. -/
def beginsWith (start t : Text) : Bool := (after? start t).isSome

/-- Whether `part` occurs in a text. -/
def includes (part : Text) : Text → Bool
  | [] => part.isEmpty
  | c :: t => beginsWith part (c :: t) || includes part t

/-- How often `c` is repeated at the beginning of a text. -/
def runLength (c : Char) (t : Text) : Nat := (t.takeWhile (· == c)).length

/-! ### Letters and digits -/

/-- An ASCII letter. -/
def isLetter (c : Char) : Bool := ('a' ≤ c && c ≤ 'z') || ('A' ≤ c && c ≤ 'Z')

/-- A decimal digit. -/
def isDigit (c : Char) : Bool := '0' ≤ c && c ≤ '9'

/-- An ASCII letter or digit. -/
def isAlphanumeric (c : Char) : Bool := isLetter c || isDigit c

/-- A hexadecimal digit, in either case. -/
def isHexDigit (c : Char) : Bool :=
  isDigit c || ('a' ≤ c && c ≤ 'f') || ('A' ≤ c && c ≤ 'F')

/-- The value of a digit of a base up to sixteen; zero for other characters. -/
def digitValue (c : Char) : Nat :=
  if isDigit c then c.toNat - '0'.toNat
  else if 'a' ≤ c && c ≤ 'f' then c.toNat - 'a'.toNat + 10
  else if 'A' ≤ c && c ≤ 'F' then c.toNat - 'A'.toNat + 10
  else 0

/-- The number a text of digits denotes in `base`. -/
def numeral (base : Nat) (t : Text) : Nat :=
  t.foldl (fun n c => n * base + digitValue c) 0

/-- The decimal digits of a number, the most significant first. -/
def decimal (n : Nat) : Text := Nat.toDigits 10 n

/-- A letter in lower case; only ASCII letters have one here. -/
def lowerLetter (c : Char) : Char :=
  if 'A' ≤ c && c ≤ 'Z' then Char.ofNat (c.toNat + 32) else c

/-- A text with its ASCII letters in lower case. -/
def lower (t : Text) : Text := t.map lowerLetter

/-! ### Reading with look-ahead -/

/-- Read items from left to right.  A step sees the state, an item and all that
follows it, and says how many of the following items it has dealt with already;
those are passed over. -/
def scanFrom {σ α : Type} (step : σ → α → List α → σ × Nat) : List α → Nat → σ → σ
  | [], _, s => s
  | _ :: rest, skip + 1, s => scanFrom step rest skip s
  | a :: rest, 0, s =>
    match step s a rest with
    | (s', skip) => scanFrom step rest skip s'

end Text

end Marginalia
