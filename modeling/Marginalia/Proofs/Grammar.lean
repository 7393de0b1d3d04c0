import Marginalia.Toml.Read

/-!
# The grammar of keys and values

The characters of a key and of a value are described here without a reader.  A grammar relates
what is meant to the characters that mean it.  Where TOML lets a reader choose how far something
extends, the longest choice is the one that is described: quotes before the closing ones of a
string on several lines belong to the string, and an escaped line end takes along all the white
space behind it.

## Main definitions

* `Toml.LineBreak`, `Toml.Filler` — what can stand between the parts of a value.
* `Toml.Escape`, `Toml.SpellsText`, `Toml.SpellsLines` — what stands between the quotes of a
  string, on one line and on several.
* `Toml.SpellsLineString`, `Toml.SpellsString` — a string.
* `Toml.SpellsScalar` — a value that is no string and no container.
* `Toml.SpellsPart`, `Toml.SpellsParts`, `Toml.SpellsKey` — a key.
* `Toml.SpellsValue`, `Toml.SpellsElements`, `Toml.SpellsMembers` — a value, the elements of an
  array and the members of a table on one line.
-/

namespace Marginalia
namespace Toml

/-! ### Between the parts of a value -/

/-- The end of a line. -/
inductive LineBreak : Text → Prop where
  | newline : LineBreak ['\n']
  | returned : LineBreak ['\r', '\n']

/-- White space and line ends, and comments where there may be some. -/
inductive Filler (comments : Bool) : Text → Prop where
  | nil : Filler comments []
  | space {c : Char} {w : Text} (hc : isSpace c) (h : Filler comments w) : Filler comments (c :: w)
  | lineBreak {b w : Text} (hb : LineBreak b) (h : Filler comments w) : Filler comments (b ++ w)
  | comment {c b w : Text} (hcomments : comments) (hc : c.all fun c => !isControl c)
      (hb : LineBreak b) (h : Filler comments w) : Filler comments ('#' :: (c ++ (b ++ w)))

/-- A text that begins neither with white space nor with a line end. -/
def Solid (w : Text) : Prop :=
  ∀ c, w.head? = some c → isSpace c = false ∧ c ≠ '\n' ∧ c ≠ '\r'

/-! ### Strings -/

/-- The ways to escape a character. -/
inductive Escape : Char → Text → Prop where
  | named {c x : Char} (hx : escaped? x = some c) : Escape c ['\\', x]
  | short {c x₁ x₂ x₃ x₄ : Char} (hx : codePoint? [x₁, x₂, x₃, x₄] = some c) :
      Escape c ['\\', 'u', x₁, x₂, x₃, x₄]
  | long {c x₁ x₂ x₃ x₄ x₅ x₆ x₇ x₈ : Char}
      (hx : codePoint? [x₁, x₂, x₃, x₄, x₅, x₆, x₇, x₈] = some c) :
      Escape c ['\\', 'U', x₁, x₂, x₃, x₄, x₅, x₆, x₇, x₈]

/-- What can stand between the quotes of a string on one line. -/
inductive SpellsText : Text → Text → Prop where
  | nil : SpellsText [] []
  | plain {c : Char} {s w : Text} (hcontrol : isControl c = false) (hquote : c ≠ '"')
      (hslash : c ≠ '\\') (h : SpellsText s w) : SpellsText (c :: s) (c :: w)
  | escape {c : Char} {e s w : Text} (he : Escape c e) (h : SpellsText s w) :
      SpellsText (c :: s) (e ++ w)

/-- What can stand behind the opening quotes `q` of a string on several lines, with the closing
ones.  Two more quotes than close the string belong to it.  An escaped line end takes along all
the white space and the line ends behind it. -/
inductive SpellsLines (q : Char) : Text → Text → Prop where
  | close {n : Nat} (hn : n ≤ 2) : SpellsLines q (List.replicate n q) (List.replicate (n + 3) q)
  | quote {s w : Text} (hw : w.take 2 ≠ [q, q]) (h : SpellsLines q s w) :
      SpellsLines q (q :: s) (q :: w)
  | plain {c : Char} {s w : Text} (hcontrol : isControl c = false) (hquote : c ≠ q)
      (hslash : q = '"' → c ≠ '\\') (h : SpellsLines q s w) : SpellsLines q (c :: s) (c :: w)
  | lineBreak {b s w : Text} (hb : LineBreak b) (h : SpellsLines q s w) :
      SpellsLines q ('\n' :: s) (b ++ w)
  | escape {c : Char} {e s w : Text} (hq : q = '"') (he : Escape c e) (h : SpellsLines q s w) :
      SpellsLines q (c :: s) (e ++ w)
  | fold {sp b gap s w : Text} (hq : q = '"') (hsp : sp.all isSpace) (hb : LineBreak b)
      (hgap : Filler false gap) (hw : Solid w) (h : SpellsLines q s w) :
      SpellsLines q s ('\\' :: (sp ++ (b ++ (gap ++ w))))

/-- The characters of a string on one line. -/
inductive SpellsLineString : Text → Text → Prop where
  | basic {s w : Text} (h : SpellsText s w) : SpellsLineString s ('"' :: (w ++ ['"']))
  | literal {s : Text} (hs : ∀ c ∈ s, isControl c = false ∧ c ≠ '\'') :
      SpellsLineString s ('\'' :: (s ++ ['\'']))

/-- The characters of a string.  A line end right behind three opening quotes is no part of
it. -/
inductive SpellsString : Text → Text → Prop where
  | line {s w : Text} (h : SpellsLineString s w) : SpellsString s w
  | lines {q : Char} {s w : Text} (hq : q = '"' ∨ q = '\'') (h : SpellsLines q s w)
      (hw : ∀ b w', LineBreak b → w ≠ b ++ w') : SpellsString s (q :: q :: q :: w)
  | linesBelow {q : Char} {b s w : Text} (hq : q = '"' ∨ q = '\'') (hb : LineBreak b)
      (h : SpellsLines q s w) : SpellsString s (q :: q :: q :: (b ++ w))

/-! ### Scalars -/

/-- The characters of a value that is no string and no container.  White space belongs to it
between a date and a time. -/
inductive SpellsScalar : Value → Text → Prop where
  | plain {v : Value} {w : Text} (hw : w.all isScalarChar) (hv : scalarValue? w = some v) :
      SpellsScalar v w
  | moment {v : Value} {date time : Text} {a b : Char} (hdate : date.all isScalarChar)
      (hday : isDate date) (ha : Text.isDigit a) (hb : Text.isDigit b)
      (htime : time.all isScalarChar)
      (hv : scalarValue? (date ++ ' ' :: a :: b :: ':' :: time) = some v) :
      SpellsScalar v (date ++ ' ' :: a :: b :: ':' :: time)

/-! ### Keys -/

/-- The characters of a part of a key. -/
inductive SpellsPart : Text → Text → Prop where
  | name {name : Text} (hne : name ≠ []) (hname : name.all isKeyChar) : SpellsPart name name
  | quoted {s w : Text} (h : SpellsLineString s w) : SpellsPart s w

/-- The characters of the parts of a key, with dots between them. -/
inductive SpellsParts : List Text → Text → Prop where
  | last {part w : Text} (h : SpellsPart part w) : SpellsParts [part] w
  | more {part w sp sp' rest : Text} {parts : List Text} (hpart : SpellsPart part w)
      (hsp : sp.all isSpace) (hsp' : sp'.all isSpace) (h : SpellsParts parts rest) :
      SpellsParts (part :: parts) (w ++ (sp ++ '.' :: (sp' ++ rest)))

/-- The characters of a key. -/
structure SpellsKey (keys : List Text) (w : Text) : Prop where
  parts : SpellsParts keys w
  depth : keys.length < maxDepth

/-! ### Values -/

mutual

/-- The characters of a value that stands inside of `depth` arrays and tables. -/
inductive SpellsValue : (depth : Nat) → Value → Text → Prop where
  | string {depth : Nat} {s w : Text} (h : SpellsString s w) : SpellsValue depth (.string s) w
  | scalar {depth : Nat} {v : Value} {w : Text} (h : SpellsScalar v w) : SpellsValue depth v w
  | emptyArray {depth : Nat} {gap : Text} (hdepth : depth + 1 < maxDepth) (hgap : Filler true gap) :
      SpellsValue depth (.array []) ('[' :: (gap ++ [']']))
  | array {depth : Nat} {gap w : Text} {vs : List Value} (hdepth : depth + 1 < maxDepth)
      (hgap : Filler true gap) (h : SpellsElements (depth + 1) vs w) :
      SpellsValue depth (.array vs) ('[' :: (gap ++ w))
  | emptyTable {depth : Nat} {sp : Text} (hdepth : depth + 1 < maxDepth) (hsp : sp.all isSpace) :
      SpellsValue depth (.table []) ('\x7b' :: (sp ++ ['\x7d']))
  | table {depth : Nat} {sp w : Text} {pairs : List (List Text × Value)} {ms : Members}
      (hdepth : depth + 1 < maxDepth) (hsp : sp.all isSpace)
      (h : SpellsMembers (depth + 1) pairs w) (hpairs : Members.ofPairs pairs = some ms) :
      SpellsValue depth (.table (Node.membersToValues ms)) ('\x7b' :: (sp ++ w))

/-- The characters of the elements of an array, with the bracket at its end.  A comma may stand
before that. -/
inductive SpellsElements : (depth : Nat) → List Value → Text → Prop where
  | last {depth : Nat} {v : Value} {w gap : Text} (hvalue : SpellsValue depth v w)
      (hgap : Filler true gap) : SpellsElements depth [v] (w ++ (gap ++ [']']))
  | trailing {depth : Nat} {v : Value} {w gap gap' : Text} (hvalue : SpellsValue depth v w)
      (hgap : Filler true gap) (hgap' : Filler true gap') :
      SpellsElements depth [v] (w ++ (gap ++ ',' :: (gap' ++ [']'])))
  | more {depth : Nat} {v : Value} {vs : List Value} {w gap gap' rest : Text}
      (hvalue : SpellsValue depth v w) (hgap : Filler true gap) (hgap' : Filler true gap')
      (h : SpellsElements depth vs rest) :
      SpellsElements depth (v :: vs) (w ++ (gap ++ ',' :: (gap' ++ rest)))

/-- The characters of the members of a table on one line, with the brace at its end. -/
inductive SpellsMembers : (depth : Nat) → List (List Text × Value) → Text → Prop where
  | last {depth : Nat} {keys : List Text} {v : Value} {k sp sp' w sp'' : Text}
      (hkey : SpellsKey keys k) (hsp : sp.all isSpace) (hsp' : sp'.all isSpace)
      (hvalue : SpellsValue depth v w) (hsp'' : sp''.all isSpace) :
      SpellsMembers depth [(keys, v)] (k ++ (sp ++ '=' :: (sp' ++ (w ++ (sp'' ++ ['\x7d'])))))
  | more {depth : Nat} {keys : List Text} {v : Value} {pairs : List (List Text × Value)}
      {k sp sp' w sp'' gap rest : Text} (hkey : SpellsKey keys k) (hsp : sp.all isSpace)
      (hsp' : sp'.all isSpace) (hvalue : SpellsValue depth v w) (hsp'' : sp''.all isSpace)
      (hgap : gap.all isSpace) (h : SpellsMembers depth pairs rest) :
      SpellsMembers depth ((keys, v) :: pairs)
        (k ++ (sp ++ '=' :: (sp' ++ (w ++ (sp'' ++ ',' :: (gap ++ rest))))))

end

end Toml
end Marginalia
