import Marginalia.Text

/-!
# TOML values and documents

## Main definitions

* `Toml.Value` — the values that can stand after a key.
* `Toml.Node`, `Toml.Members` — a table of a document while it is being read, with what
  is known about how it came about.
* `Toml.Members.insert`, `Toml.Members.openTable`, `Toml.Members.openElement`,
  `Toml.Members.insertIn` — what key/value lines and headers do.

A table is defined once.  A header may name a table that earlier headers only implied, and
it may lead through any table.  Keys with dots add values only to tables that such keys
made; they may lead to them through tables that headers implied and through arrays of
tables, but not through a table that a header defined.
-/

namespace Marginalia
namespace Toml

/-- A value. -/
inductive Value where
  /-- A string. -/
  | string (t : Text)
  /-- `true` or `false`. -/
  | boolean (b : Bool)
  /-- A number as written. -/
  | number (t : Text)
  /-- A date, a time or both, as written. -/
  | moment (t : Text)
  /-- An array. -/
  | array (elements : List Value)
  /-- A table on one line. -/
  | table (members : List (Text × Value))

/-- How a table of a document came about. -/
inductive Origin where
  /-- A header defined it. -/
  | header
  /-- The header of a table inside it implied it. -/
  | implied
  /-- A key with dots made it. -/
  | dotted
  deriving DecidableEq, Repr

/-- What a key of a document stands for. -/
inductive Node where
  /-- A value. -/
  | value (v : Value)
  /-- A table. -/
  | table (origin : Origin) (members : List (Text × Node))
  /-- An array of tables, the last one first; there is at least one. -/
  | tables (elements : List (List (Text × Node)))

/-- The keys of a table, in the order in which they were first named. -/
abbrev Members := List (Text × Node)

namespace Members

/-- What a key stands for. -/
def get? (ms : Members) (key : Text) : Option Node :=
  (ms.find? fun m => m.1 == key).map (·.2)

/-- Make a key stand for something: in its place if it is there, at the end if not. -/
def set (ms : Members) (key : Text) (n : Node) : Members :=
  match ms with
  | [] => [(key, n)]
  | m :: ms => if m.1 = key then (key, n) :: ms else m :: set ms key n

/-- Add a value under what is left of a key with dots; `none` if that is defined already.
`mayAdd` says whether values may be put directly into the table that has been reached. -/
def insertUnder (v : Value) : (mayAdd : Bool) → List Text → Members → Option Members
  | _, [], _ => none
  | mayAdd, [key], ms =>
    match ms.get? key with
    | none => if mayAdd then some (ms.set key (.value v)) else none
    | some _ => none
  | _, key :: keys, ms =>
    match ms.get? key with
    | none => (insertUnder v true keys []).map fun inner => ms.set key (.table .dotted inner)
    | some (.table .header _) => none
    -- a table that was only implied is led through, and stays so
    | some (.table origin inner) =>
      (insertUnder v (origin = .dotted) keys inner).map fun inner =>
        ms.set key (.table origin inner)
    | some (.tables (last :: others)) =>
      (insertUnder v false keys last).map fun last => ms.set key (.tables (last :: others))
    | some _ => none

/-- Add a value under a key with dots; `none` if that is defined already, or if one of its
tables takes no more values from such keys. -/
def insert (v : Value) (keys : List Text) (ms : Members) : Option Members :=
  insertUnder v true keys ms

/-- Change the table that a key stands for, or the last one of an array of tables. -/
def descend (ms : Members) (key : Text) (f : Members → Option Members) : Option Members :=
  match ms.get? key with
  | none => (f []).map fun inner => ms.set key (.table .implied inner)
  | some (.table origin inner) => (f inner).map fun inner => ms.set key (.table origin inner)
  | some (.tables (last :: others)) =>
    (f last).map fun last => ms.set key (.tables (last :: others))
  | some _ => none

/-- Define the table of a header; `none` if it is defined already. -/
def openTable : List Text → Members → Option Members
  | [], _ => none
  | [key], ms =>
    match ms.get? key with
    | none => some (ms.set key (.table .header []))
    | some (.table .implied inner) => some (ms.set key (.table .header inner))
    | some _ => none
  | key :: keys, ms => ms.descend key (openTable keys)

/-- Begin another table of the array of tables of a header. -/
def openElement : List Text → Members → Option Members
  | [], _ => none
  | [key], ms =>
    match ms.get? key with
    | none => some (ms.set key (.tables [[]]))
    | some (.tables elements) => some (ms.set key (.tables ([] :: elements)))
    | some _ => none
  | key :: keys, ms => ms.descend key (openElement keys)

/-- Add a value in the table that a header has opened. -/
def insertIn (v : Value) (keys : List Text) : List Text → Members → Option Members
  | [], ms => insert v keys ms
  | key :: header, ms => ms.descend key (insertIn v keys header)

end Members

/-- The members of a table on one line, by the keys that define them; `none` if one is
defined twice. -/
def Members.ofPairs (pairs : List (List Text × Value)) : Option Members :=
  pairs.foldlM (fun ms pair => Members.insert pair.2 pair.1 ms) []

mutual

/-- What a key of a table on one line stands for, as a value. -/
def Node.toValue : Node → Value
  | .value v => v
  | .table _ members => .table (Node.membersToValues members)
  | .tables elements => .array (Node.elementsToValues elements)

/-- The members of a table, as values. -/
def Node.membersToValues : List (Text × Node) → List (Text × Value)
  | [] => []
  | (key, n) :: ms => (key, n.toValue) :: Node.membersToValues ms

/-- The tables of an array, as values. -/
def Node.elementsToValues : List (List (Text × Node)) → List Value
  | [] => []
  | ms :: elements => .table (Node.membersToValues ms) :: Node.elementsToValues elements

end

end Toml
end Marginalia
