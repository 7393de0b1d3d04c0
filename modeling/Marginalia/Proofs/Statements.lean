import Marginalia.Toml.Read

/-!
# What a document of settings says

A document is read line by line, and what a line says does not depend on the lines before it.
So a document is a list of statements, which hold neither its layout nor its comments.  Only
what the statements do depends on those before them: a key must not be defined twice.

## Main definitions

* `Toml.Statement` — a key with its value, or a header.
* `Toml.row?`, `Toml.statementsOf?`, `Toml.documentOf?` — the statements of a text.
* `Toml.Reading.take` — what a statement does.
* `Toml.Consistent` — statements of which none contradicts those before it.

## Main results

* `Toml.statements?_eq` — reading a text is taking its statements in order.
* `Toml.read?_eq` — **a document is what its statements make.**
-/

namespace Marginalia
namespace Toml

/-! ### Statements -/

/-- What a line of a document says. -/
inductive Statement where
  /-- A key, which may have several parts, has a value. -/
  | pair (keys : List Text) (v : Value)
  /-- The pairs that follow are members of a table. -/
  | table (keys : List Text)
  /-- The pairs that follow are members of another table of an array. -/
  | element (keys : List Text)

namespace Statement

/-- The parts of the key that a statement names. -/
def keys : Statement → List Text
  | .pair keys _ => keys
  | .table keys => keys
  | .element keys => keys

/-- Whether a statement gives a value. -/
def isPair : Statement → Bool
  | .pair _ _ => true
  | _ => false

end Statement

/-- The header that a text begins with after its first bracket, and the rest. -/
def headerRow? : Text → Option (Statement × Text)
  | '[' :: t => do
    let (keys, t) ← key? (skipSpace t)
    let t ← Text.after? "]]".toList t
    pure (.element keys, t)
  | t => do
    let (keys, t) ← key? (skipSpace t)
    let t ← Text.after? [']'] t
    pure (.table keys, t)

/-- The key and the value that a text begins with, and the rest. -/
def pairRow? (t : Text) : Option (Statement × Text) := do
  let (keys, t) ← key? t
  let t ← Text.after? ['='] t
  let (v, t) ← value? (skipSpace t)
  pure (.pair keys v, t)

/-- What stands on the first line of a text before its end, perhaps nothing, and the rest. -/
def rowBody? (t : Text) : Option (Option Statement × Text) :=
  match skipSpace t with
  | '[' :: t => (headerRow? t).map fun found => (some found.1, found.2)
  | [] => some (none, [])
  | c :: t =>
    if c == '#' || c == '\n' || c == '\r' then some (none, c :: t)
    else (pairRow? (c :: t)).map fun found => (some found.1, found.2)

/-- What the first line of a text says, and the lines after it. -/
def row? (t : Text) : Option (Option Statement × Text) :=
  (rowBody? t).bind fun found => (lineEnd? false found.2).map fun t => (found.1, t)

/-- The statements of a text. -/
def statementsOf? (t : Text) : Option (List Statement) :=
  if t.isEmpty then some []
  else
    match row? t with
    | none => none
    | some (s, rest) =>
      if rest.length < t.length then (statementsOf? rest).map (s.toList ++ ·) else none
termination_by t.length

/-- A text without a byte order mark at its beginning. -/
def dropMark : Text → Text
  | '\uFEFF' :: t => t
  | t => t

/-- The statements of a document, which may begin with a byte order mark. -/
def documentOf? (t : Text) : Option (List Statement) := statementsOf? (dropMark t)

/-! ### What statements do -/

namespace Reading

/-- Nothing read yet. -/
def start : Reading := ⟨[], []⟩

/-- Take a statement; `none` if it contradicts what has been read. -/
def take (r : Reading) : Statement → Option Reading
  | .pair keys v => (r.root.insertIn v keys r.header).map fun root => ⟨root, r.header⟩
  | .table keys => (r.root.openTable keys).map fun root => ⟨root, keys⟩
  | .element keys => (r.root.openElement keys).map fun root => ⟨root, keys⟩

/-- Take what a line says, if it says anything. -/
def takeRow (r : Reading) (s : Option Statement) : Option Reading := s.toList.foldlM take r

end Reading

/-- Statements of which none contradicts those before it. -/
def Consistent (ss : List Statement) : Prop := ∃ r, ss.foldlM Reading.take .start = some r

/-! ### Reading is taking statements in order -/

theorem header?_eq (r : Reading) (t : Text) :
    header? r t = (headerRow? t).bind fun found => (r.take found.1).map (·, found.2) := by
  fun_cases header? r t with
  | case1 t =>
    cases hkey : key? (skipSpace t) with
    | none => simp [headerRow?, hkey]
    | some found =>
      cases hafter : Text.after? "]]".toList found.2 with
      | none => simp_all [headerRow?]
      | some rest =>
        cases hroot : r.root.openElement found.1 <;> simp_all [headerRow?, Reading.take]
  | case2 =>
    cases hkey : key? (skipSpace t) with
    | none => simp [headerRow?, hkey]
    | some found =>
      cases hafter : Text.after? [']'] found.2 with
      | none => simp_all [headerRow?]
      | some rest =>
        cases hroot : r.root.openTable found.1 <;> simp_all [headerRow?, Reading.take]

theorem pair?_eq (r : Reading) (t : Text) :
    pair? r t = (pairRow? t).bind fun found => (r.take found.1).map (·, found.2) := by
  unfold pair? pairRow?
  cases hkey : key? t with
  | none => rfl
  | some found =>
    cases hafter : Text.after? ['='] found.2 with
    | none => simp [hafter]
    | some rest =>
      cases hvalue : value? (skipSpace rest) with
      | none => simp [hafter, hvalue]
      | some read =>
        cases hroot : r.root.insertIn read.1 found.1 r.header <;>
          simp [hafter, hvalue, hroot, Reading.take]

theorem statement?_eq (r : Reading) (t : Text) :
    statement? r t = (row? t).bind fun found => (r.takeRow found.1).map (·, found.2) := by
  cases hspace : skipSpace t with
  | nil =>
    cases hend : lineEnd? false [] <;>
      simp [statement?, row?, rowBody?, Reading.takeRow, hspace, hend]
  | cons c rest =>
    by_cases hc : c = '['
    · subst hc
      cases hrow : headerRow? rest with
      | none => simp [statement?, row?, rowBody?, hspace, header?_eq, hrow]
      | some found =>
        cases hend : lineEnd? false found.2 <;> cases htake : r.take found.1 <;>
          simp [statement?, row?, rowBody?, hspace, header?_eq, hrow, Reading.takeRow, hend, htake]
    · by_cases hblank : c == '#' || c == '\n' || c == '\r'
      · cases hend : lineEnd? false (c :: rest) <;>
          simp [statement?, row?, rowBody?, hspace, hblank, Reading.takeRow, hend]
      · cases hrow : pairRow? (c :: rest) with
        | none => simp [statement?, row?, rowBody?, hspace, hblank, pair?_eq, hrow]
        | some found =>
          cases hend : lineEnd? false found.2 <;> cases htake : r.take found.1 <;>
            simp [statement?, row?, rowBody?, hspace, hblank, pair?_eq, hrow, Reading.takeRow, hend,
              htake]

theorem Reading.foldlM_take_row (r : Reading) (s : Option Statement) (ss : List Statement) :
    (s.toList ++ ss).foldlM take r = (r.takeRow s).bind fun r => ss.foldlM take r :=
  List.foldlM_append

theorem statements?_eq (r : Reading) (t : Text) :
    statements? r t = (statementsOf? t).bind fun ss => ss.foldlM Reading.take r := by
  fun_induction statementsOf? t generalizing r with
  | case1 t h => simp [statements?, h]
  | case2 t h hrow => simp [statements?, h, statement?_eq, hrow]
  | case3 t h s rest hrow hlt ih =>
    rw [statements?, if_neg h, statement?_eq, hrow, Option.bind_map]
    simp only [Function.comp_def, Reading.foldlM_take_row]
    cases htake : r.takeRow s with
    | none => simp [htake]
    | some r' => simp [htake, hlt, ih]
  | case4 t h s rest hrow hlt =>
    rw [statements?, if_neg h, statement?_eq, hrow]
    cases htake : r.takeRow s <;> simp [hlt, htake]

/-- A document is what its statements make. -/
theorem read?_eq (t : Text) :
    read? t = (documentOf? t).bind fun ss =>
      (ss.foldlM Reading.take .start).map (·.root) := by
  have hmark : read? t = (statements? .start (dropMark t)).map (·.root) := by
    unfold read? dropMark
    rfl
  rw [hmark, statements?_eq, Option.map_bind]
  rfl

end Toml
end Marginalia
