import Marginalia.Markdown.Link

/-!
# Definitions of labels

A label is defined by a line, or a few lines, that say where its links lead.

## Main definitions

* `Markdown.Definition`, `Markdown.lookup` — what labels stand for.
* `Markdown.definition?` — the definition that a text begins with.
-/

namespace Marginalia
namespace Markdown

/-- What a label stands for. -/
structure Definition where
  /-- The label, as it is compared. -/
  label : Text
  /-- Where links with the label lead. -/
  url : Text
  /-- The title of these links; it may be empty. -/
  title : Text
  deriving DecidableEq, Repr

/-- The first definition of a label. -/
def lookup (label : Text) (ds : List Definition) : Option Definition :=
  ds.find? fun d => d.label == label

/-! ### The parts of a definition

`onward t` says how many characters belong to the beginning of the line `t`, or that the
definition cannot go on there. -/

/-- What follows the white space between two parts of a definition, and whether a line ends
in it; `none` if the definition ends there. -/
def definitionGap? (onward : Text → Option Nat) (t : Text) : Option (Text × Bool) :=
  let t := t.dropWhile isSpacing
  match afterLineEnd? t with
  | none => if t.isEmpty then none else some (t, false)
  | some next =>
    match onward next with
    | none => none
    | some marks =>
      let rest := (next.drop marks).dropWhile isSpacing
      if rest.head?.all isLineEnd then none else some (rest, true)

/-- A title of a definition up to the character that closes it, as written but for the
beginnings of its lines, and the rest.  None of its lines is blank. -/
def definedTitleFrom (onward : Text → Option Nat) (closer : Char) :
    Text → (skip : Nat) → Option (Text × Text)
  | [], _ => none
  | _ :: t, skip + 1 => definedTitleFrom onward closer t skip
  | c :: t, 0 =>
    let next (shown : Text) (skip : Nat) : Option (Text × Text) :=
      (definedTitleFrom onward closer t skip).map fun r => (shown ++ r.1, r.2)
    if c = closer then some ([], t)
    else if c = '(' && closer = ')' then none
    else if endsLine c t then
      match onward t with
      | none => none
      | some marks =>
        let indentation := (t.drop marks).takeWhile isIndentation
        if (t.drop (marks + indentation.length)).head?.all isLineEnd then none
        else next ['\n'] (marks + indentation.length)
    -- the newline that follows is the end of the line
    else if c = '\r' then next [] 0
    else if c = '\\' then
      match t with
      | d :: _ => if isLineEnd d then next [c] 0 else next [c, d] 1
      | [] => none
    else next [c] 0

/-- The title of a definition that a text begins with, and the rest. -/
def definedTitle? (onward : Text → Option Nat) : Text → Option (Text × Text)
  | '"' :: t => definedTitleFrom onward '"' t 0
  | '\'' :: t => definedTitleFrom onward '\'' t 0
  | '(' :: t => definedTitleFrom onward ')' t 0
  | _ => none

/-- The definition that a text begins with, and the rest, which begins with the empty
remainder of a line.  A title on a line of its own that does not fit is no part of the
definition.  The first argument says, for the label and for the other parts, how a line may
go on. -/
def definition? (onwardLabel onward : Text → Option Nat) (t : Text) :
    Option (Definition × Text) := do
  let t ← Text.after? ['['] t
  let (label, length) ← label? false onwardLabel t
  let t ← Text.after? [':'] (t.drop length)
  let (start, _) ← definitionGap? onward t
  let (url, t) ← destination? start
  if t.length = start.length then none
  let plain : Definition := ⟨label, unescape false url, []⟩
  match definitionGap? onward t with
  | none => pure (plain, t)
  | some (beforeTitle, apart) =>
    -- something follows the destination without white space
    if beforeTitle.length = t.length then none
    else
      match (definedTitle? onward beforeTitle).filter fun r => isEmptyLine r.2 with
      | some (title, rest) => pure ({ plain with title := unescape false title }, rest)
      | none => if apart then pure (plain, t) else none

end Markdown
end Marginalia
