import Marginalia.CommandLine.Help
import Marginalia.CommandLine.Item
import Marginalia.Settings

/-!
# Commands

## Main definitions

* `Command` — what the program can be asked to do.
* `CommandLine.Request` — the operands and options of a subcommand.
* `CommandLine.Subcommand` — the subcommands, each with its own grammar.
* `Command.ofArguments?` — the command that arguments give, or `none` if they give none.

Arguments count from left to right: a request for help is granted if nothing before it is
wrong, whatever follows.
-/

namespace Marginalia

/-- What the program can be asked to do. -/
inductive Command where
  /-- Render files, to a file or to the output. -/
  | render (files : List Path) (output : Option Path) (overrides : Overrides)
  /-- Show the sections of a file. -/
  | parse (file : Path) (overrides : Overrides)
  /-- List the themes. -/
  | themes
  /-- Explain something. -/
  | help (topic : CommandLine.Topic)
  /-- Name the version. -/
  | version
  deriving DecidableEq, Repr

/-- The files that a command reads. -/
def Command.files : Command → List Path
  | .render files _ _ => files
  | .parse file _ => [file]
  | _ => []

namespace CommandLine

/-! ### Requests -/

/-- The operands and options of a subcommand. -/
structure Request where
  /-- The files named, in order. -/
  files : List Path := []
  /-- The file to write, if named. -/
  output : Option Path := none
  /-- The settings given. -/
  overrides : Overrides := {}
  deriving DecidableEq, Repr, Inhabited

/-- Something that has not been given yet gets a value. -/
def once {α : Type} (old : Option α) (new : α) : Option (Option α) :=
  match old with
  | none => some (some new)
  | some _ => none

/-- A flag that has not been given yet is given. -/
def onceFlag (old : Bool) : Option Bool := if old then none else some true

/-- A path must not be empty. -/
def path? (t : Text) : Option Path := if t.isEmpty then none else some ⟨t⟩

namespace Request

/-- Add a file, of which there may be at most `most`. -/
def addFile (most : Option Nat) (r : Request) (p : Path) : Option Request :=
  if most.any fun n => n ≤ r.files.length then none
  else some { r with files := r.files ++ [p] }

/-- Take what an argument says.  Every option but the verbosity may be given once. -/
def take (most : Option Nat) (r : Request) : Item → Option Request
  | .operand t => path? t >>= addFile most r
  | .setting .output t => do
    let p ← path? t
    let output ← once r.output p
    pure { r with output := output }
  | .setting .marker t => do
    let marker ← once r.overrides.marker t
    pure { r with overrides := { r.overrides with marker := marker } }
  | .setting .theme t => do
    let theme ← once r.overrides.theme t
    pure { r with overrides := { r.overrides with theme := theme } }
  | .flag .plain => do
    let plain ← onceFlag r.overrides.plain
    pure { r with overrides := { r.overrides with plain := plain } }
  | .flag .noHighlight => do
    let noHighlight ← onceFlag r.overrides.noHighlight
    pure { r with overrides := { r.overrides with noHighlight := noHighlight } }
  | .flag .standalone => do
    let standalone ← onceFlag r.overrides.standalone
    pure { r with overrides := { r.overrides with standalone := standalone } }
  | .flag .verbose => some r
  | .flag .help => none
  | .flag .version => none
  | .wrong => none

end Request

/-! ### Subcommands -/

/-- A subcommand that does something. -/
inductive Subcommand where
  /-- Render files. -/
  | render
  /-- Show the sections of a file. -/
  | parse
  /-- List the themes. -/
  | themes
  deriving DecidableEq, Repr

namespace Subcommand

/-- The argument that gives a subcommand. -/
def name : Subcommand → Text
  | .render => "render".toList
  | .parse => "parse".toList
  | .themes => "themes".toList

/-- The subcommand that an argument gives. -/
def ofName? (t : Text) : Option Subcommand :=
  [render, parse, themes].find? fun s => s.name == t

/-- The help on a subcommand. -/
def topic : Subcommand → Topic
  | .render => .render
  | .parse => .parse
  | .themes => .themes

/-- The arguments of a subcommand. -/
def grammar : Subcommand → Grammar
  | .render =>
    ⟨[.verbose, .help, .plain, .noHighlight, .standalone], [.output, .marker, .theme], none⟩
  | .parse => ⟨[.verbose, .help], [.marker], some 1⟩
  | .themes => ⟨[.verbose, .help], [], some 0⟩

/-- The command of a request, if no operand is missing. -/
def command? (s : Subcommand) (r : Request) : Option Command :=
  match s, r.files with
  | .render, [] => none
  | .render, files => some (.render files r.output r.overrides)
  | .parse, [file] => some (.parse file r.overrides)
  | .parse, _ => none
  | .themes, _ => some .themes

/-- The request that items make. -/
def request? (s : Subcommand) (is : List Item) : Option Request :=
  is.foldlM (Request.take s.grammar.most) {}

/-- The command that the arguments of a subcommand give. -/
def read? (s : Subcommand) (args : List Text) : Option Command :=
  let is := s.grammar.items args
  let before := is.takeWhile (· != .flag .help)
  match s.request? before with
  | none => none
  | some r => if before.length < is.length then some (.help s.topic) else s.command? r

end Subcommand

/-! ### The program -/

/-- The name of the subcommand that explains the others. -/
def helpName : Text := "help".toList

/-- What the words after `help` ask about. -/
def topic? : List Text → Option Topic
  | [] => some .program
  | [word] => if word = helpName then some .help else (Subcommand.ofName? word).map (·.topic)
  | _ => none

/-- The options before a subcommand. -/
def programGrammar : Grammar := ⟨[.verbose, .help, .version], [], some 0⟩

/-- The command that options before a subcommand give: `some none` if they leave it to what
follows, `none` if they are wrong. -/
def early? : List Item → Option (Option Command)
  | [] => some none
  | .flag .verbose :: is => early? is
  | .flag .help :: _ => some (some (.help .program))
  | .flag .version :: _ => some (some .version)
  | _ => none

/-- The command that arguments give. -/
def read? : List Text → Option Command
  | [] => none
  | arg :: args =>
    if isOperand arg then
      if arg = helpName then (topic? args).map Command.help
      else
        match Subcommand.ofName? arg with
        | some s => s.read? args
        | none => none
    else if arg = separator then none
    else
      match early? (programGrammar.options arg).items with
      | some none => read? args
      | some (some c) => some c
      | none => none

end CommandLine

/-- The command that arguments give; `none` if they make no sense. -/
def Command.ofArguments? (args : List Text) : Option Command := CommandLine.read? args

end Marginalia
