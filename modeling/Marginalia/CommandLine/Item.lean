import Marginalia.Text

/-!
# Arguments of a command line

## Main definitions

* `CommandLine.Flag`, `CommandLine.Key` — the options without and with a value.
* `CommandLine.Item` — what the arguments say, one thing at a time.
* `CommandLine.Grammar` — the options that are known in a place.
* `CommandLine.Grammar.items` — what a list of arguments says.

An option with a value takes it from the same argument, after a `=` or directly after its
letter, or from the next argument, which must not look like an option then.  After the
argument `--` everything is an operand.
-/

namespace Marginalia
namespace CommandLine

/-! ### Options -/

/-- An option without a value. -/
inductive Flag where
  /-- Report more about what is done. -/
  | verbose
  /-- Explain the usage. -/
  | help
  /-- Name the version. -/
  | version
  /-- Escape comments instead of formatting them. -/
  | plain
  /-- Escape code instead of highlighting it. -/
  | noHighlight
  /-- Make a complete page. -/
  | standalone
  deriving DecidableEq, Repr

/-- An option with a value. -/
inductive Key where
  /-- Where to write. -/
  | output
  /-- What marks comments. -/
  | marker
  /-- The theme of a page. -/
  | theme
  deriving DecidableEq, Repr

/-- The name of a flag, which follows two dashes. -/
def Flag.name : Flag → Text
  | .verbose => "verbose".toList
  | .help => "help".toList
  | .version => "version".toList
  | .plain => "plain".toList
  | .noHighlight => "no-highlight".toList
  | .standalone => "standalone".toList

/-- The letter of a flag, which follows one dash. -/
def Flag.letter? : Flag → Option Char
  | .verbose => some 'v'
  | .help => some 'h'
  | .version => some 'V'
  | _ => none

/-- The name of an option with a value, which follows two dashes. -/
def Key.name : Key → Text
  | .output => "output".toList
  | .marker => "marker".toList
  | .theme => "theme".toList

/-- The letter of an option with a value, which follows one dash. -/
def Key.letter? : Key → Option Char
  | .output => some 'o'
  | .marker => some 'm'
  | .theme => none

/-- What an argument, or a part of it, says. -/
inductive Item where
  /-- A flag is given. -/
  | flag (f : Flag)
  /-- A value is given. -/
  | setting (k : Key) (value : Text)
  /-- Something that is no option. -/
  | operand (t : Text)
  /-- A misuse; nothing after it counts. -/
  | wrong
  deriving DecidableEq, Repr

/-! ### One argument -/

/-- The options that are known in a place, and how many operands there may be. -/
structure Grammar where
  /-- The flags that are known. -/
  flags : List Flag
  /-- The options with a value that are known. -/
  keys : List Key
  /-- How many operands there may be at most, if that is limited. -/
  most : Option Nat

/-- What an argument with options says. -/
structure Options where
  /-- What is complete. -/
  items : List Item
  /-- An option whose value is the next argument. -/
  awaits : Option Key := none

/-- The argument after which there are no options. -/
def separator : Text := "--".toList

/-- Whether an argument stands for itself.  One that begins with a dash does not, unless the
dash is all of it. -/
def isOperand : Text → Bool
  | '-' :: _ :: _ => false
  | _ => true

namespace Grammar

/-- What follows two dashes: a name, and perhaps a value after a `=`. -/
def longOption (g : Grammar) (body : Text) : Options :=
  let name := body.takeWhile (· != '=')
  let value := body.drop name.length
  match g.flags.find? fun f => f.name == name with
  | some f => if value.isEmpty then ⟨[.flag f], none⟩ else ⟨[.wrong], none⟩
  | none =>
    match g.keys.find? fun k => k.name == name with
    | some k =>
      match value with
      | [] => ⟨[], some k⟩
      | _ :: value => ⟨[.setting k value], none⟩
    | none => ⟨[.wrong], none⟩

/-- What follows one dash: letters of flags, up to one whose option takes the rest as its
value. -/
def shortOptions (g : Grammar) : Text → Options
  | [] => ⟨[], none⟩
  | c :: rest =>
    match g.flags.find? fun f => f.letter? == some c with
    | some f =>
      let others := shortOptions g rest
      ⟨.flag f :: others.items, others.awaits⟩
    | none =>
      match g.keys.find? fun k => k.letter? == some c with
      | some k =>
        match rest with
        | [] => ⟨[], some k⟩
        | '=' :: value => ⟨[.setting k value], none⟩
        | value => ⟨[.setting k value], none⟩
      | none => ⟨[.wrong], none⟩

/-- What an argument that begins with a dash says. -/
def options (g : Grammar) : Text → Options
  | '-' :: '-' :: body => g.longOption body
  | '-' :: letters => g.shortOptions letters
  | _ => ⟨[.wrong], none⟩

/-! ### All arguments -/

/-- What arguments say. -/
def items (g : Grammar) : List Text → List Item
  | [] => []
  | arg :: args =>
    if arg = separator then args.map .operand
    else if isOperand arg then .operand arg :: items g args
    else
      let o := g.options arg
      match o.awaits, args with
      | none, args => o.items ++ items g args
      | some _, [] => o.items ++ [.wrong]
      | some k, value :: args =>
        if isOperand value then o.items ++ .setting k value :: items g args
        else o.items ++ [.wrong]

end Grammar
end CommandLine
end Marginalia
