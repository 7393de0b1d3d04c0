import Marginalia.Toml.Scalar

/-!
# Reading TOML

## Main definitions

* `Toml.key?` — a key, which may have several parts between dots.
* `Toml.value?` — a value.
* `Toml.Reading`, `Toml.statement?` — what has been read, and the line that comes next.
* `Toml.read?` — the top-level keys of a document.
-/

namespace Marginalia
namespace Toml

/-! ### Keys -/

/-- A character of a key without quotes. -/
def isKeyChar (c : Char) : Bool := Text.isAlphanumeric c || c == '_' || c == '-'

/-- A part of a key, and the rest. -/
def keyPart? (t : Text) : Option (Text × Text) :=
  match lineString? t with
  | some found => some found
  | none =>
    let name := t.takeWhile isKeyChar
    if name.isEmpty then none else some (name, t.drop name.length)

/-- A key of at most `fuel` parts, and the rest. -/
def keyFrom? : Nat → Text → Option (List Text × Text)
  | 0, _ => none
  | fuel + 1, t => do
    let (part, t) ← keyPart? t
    match skipSpace t with
    | '.' :: t =>
      let (parts, t) ← keyFrom? fuel (skipSpace t)
      pure (part :: parts, t)
    | t => pure ([part], t)

/-- How many parts a key must not reach, and how deep values must not be nested. -/
def maxDepth : Nat := 80

/-- A key, and the rest without the white space it begins with. -/
def key? (t : Text) : Option (List Text × Text) :=
  (keyFrom? (t.length + 1) t).filter fun found => found.1.length < maxDepth

/-! ### Between values -/

/-- A text without the white space, comments and line ends it begins with. -/
def skipFiller (inComment : Bool) : Text → Option Text
  | [] => some []
  | c :: t =>
    if c = '\n' then skipFiller false t
    else if c = '\r' && t.head? == some '\n' then skipFiller inComment t
    else if inComment then if isControl c then none else skipFiller true t
    else if isSpace c then skipFiller false t
    else if c = '#' then skipFiller true t
    else some (c :: t)

/-- The rest of a text after the end of its first line, on which there is nothing but,
perhaps, a comment. -/
def lineEnd? (inComment : Bool) : Text → Option Text
  | [] => some []
  | c :: t =>
    if c = '\n' then some t
    else if c = '\r' && t.head? == some '\n' then lineEnd? inComment t
    else if inComment then if isControl c then none else lineEnd? true t
    else if isSpace c then lineEnd? false t
    else if c = '#' then lineEnd? true t
    else none

/-! ### Values -/

mutual

/-- The value that a text begins with, inside of `depth` arrays and tables, and the rest;
`fuel` bounds how much is read. -/
def valueFrom? : Nat → (depth : Nat) → Text → Option (Value × Text)
  | 0, _, _ => none
  | fuel + 1, depth, t =>
    match t with
    | '[' :: t => do
      if maxDepth ≤ depth + 1 then none
      let t ← skipFiller false t
      match t with
      | ']' :: t => pure (.array [], t)
      | t =>
        let (vs, t) ← elementsFrom? fuel (depth + 1) t
        pure (.array vs, t)
    | '\x7b' :: t =>
      if maxDepth ≤ depth + 1 then none
      else
        match skipSpace t with
        | '\x7d' :: t => some (.table [], t)
        | t => do
          let (pairs, t) ← membersFrom? fuel (depth + 1) t
          let ms ← Members.ofPairs pairs
          pure (.table (Node.membersToValues ms), t)
    | t =>
      match string? t with
      | some (s, t) => some (.string s, t)
      | none => scalar? t

/-- The elements of an array that is not empty, and the rest after its end. -/
def elementsFrom? : Nat → (depth : Nat) → Text → Option (List Value × Text)
  | 0, _, _ => none
  | fuel + 1, depth, t => do
    let (v, t) ← valueFrom? fuel depth t
    let t ← skipFiller false t
    match t with
    | ']' :: t => pure ([v], t)
    | ',' :: t =>
      let t ← skipFiller false t
      match t with
      | ']' :: t => pure ([v], t)
      | t =>
        let (vs, t) ← elementsFrom? fuel depth t
        pure (v :: vs, t)
    | _ => none

/-- The members of a table on one line that is not empty, and the rest after its end. -/
def membersFrom? : Nat → (depth : Nat) → Text → Option (List (List Text × Value) × Text)
  | 0, _, _ => none
  | fuel + 1, depth, t => do
    let (key, t) ← key? t
    let t ← Text.after? ['='] t
    let (v, t) ← valueFrom? fuel depth (skipSpace t)
    match skipSpace t with
    | '\x7d' :: t => pure ([(key, v)], t)
    | ',' :: t =>
      let (ms, t) ← membersFrom? fuel depth (skipSpace t)
      pure ((key, v) :: ms, t)
    | _ => none

end

/-- The value that a text begins with, and the rest.  Every step of reading it takes a
character, and no more than two steps take the same one. -/
def value? (t : Text) : Option (Value × Text) := valueFrom? (2 * t.length + 2) 0 t

/-! ### Documents -/

/-- What has been read of a document. -/
structure Reading where
  /-- The top-level keys. -/
  root : Members
  /-- The table that the last header opened. -/
  header : List Text

/-- Read the header of a table or of an array of tables, its first bracket having been
read already. -/
def header? (r : Reading) : Text → Option (Reading × Text)
  | '[' :: t => do
    let (keys, t) ← key? (skipSpace t)
    let t ← Text.after? "]]".toList t
    let root ← r.root.openElement keys
    pure (⟨root, keys⟩, t)
  | t => do
    let (keys, t) ← key? (skipSpace t)
    let t ← Text.after? [']'] t
    let root ← r.root.openTable keys
    pure (⟨root, keys⟩, t)

/-- Read a key and its value. -/
def pair? (r : Reading) (t : Text) : Option (Reading × Text) := do
  let (keys, t) ← key? t
  let t ← Text.after? ['='] t
  let (v, t) ← value? (skipSpace t)
  let root ← r.root.insertIn v keys r.header
  pure ({ r with root := root }, t)

/-- Read what stands on the next line, and pass to the line after it. -/
def statement? (r : Reading) (t : Text) : Option (Reading × Text) := do
  let (r, t) ←
    match skipSpace t with
    | '[' :: t => header? r t
    | [] => some (r, [])
    | c :: t =>
      if c == '#' || c == '\n' || c == '\r' then some (r, c :: t) else pair? r (c :: t)
  let t ← lineEnd? false t
  pure (r, t)

/-- Read the lines of a text.  Each takes at least a character. -/
def statements? (r : Reading) (t : Text) : Option Reading :=
  if t.isEmpty then some r
  else
    match statement? r t with
    | none => none
    | some (r, rest) => if rest.length < t.length then statements? r rest else none
termination_by t.length

/-- The top-level keys of a document.  A byte order mark may stand at its beginning. -/
def read? (t : Text) : Option Members :=
  let t := match t with
    | '\uFEFF' :: t => t
    | t => t
  (statements? ⟨[], []⟩ t).map (·.root)

end Toml
end Marginalia
