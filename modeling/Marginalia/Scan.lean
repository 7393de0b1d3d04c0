import Marginalia.Marker
import Marginalia.Section

/-!
# From source text to sections

The source is read line by line.  A line is a comment line, a blank line or a
code line.  A comment line that arrives after code closes the section being
built.  Blank lines seen before any code are held back until the next line that is
not blank decides whether they belong to the prose or to the code.

## Main definitions

* `sourceLines` — the lines of a source, without their line ends.
* `Line`, `Line.classify` — what a line is, for a marker.
* `Scan`, `Scan.step`, `Scan.finish` — the section being built.
* `sectionsOf` — the sections of a source.  Every source has some, possibly none.
-/

namespace Marginalia

/-- A line without the carriage return of a `\r\n` line end. -/
def dropReturn : Text → Text
  | [] => []
  | [c] => if c = '\r' then [] else [c]
  | c :: rest => c :: dropReturn rest

/-- The lines of a source: the pieces between newlines, each without one carriage
return at its end. -/
def sourceLines (source : Text) : List Text := (Text.lines source).map dropReturn

/-- What a line of source is. -/
inductive Line where
  /-- A comment with the given text. -/
  | comment (text : Text)
  /-- Nothing but white space. -/
  | blank (line : Text)
  /-- Anything else. -/
  | code (line : Text)
  deriving DecidableEq, Repr

/-- What a line is when comments are marked by `m`. -/
def Line.classify (m : Marker) (line : Text) : Line :=
  match m.strip line with
  | some text => .comment text
  | none => if Text.isBlank line then .blank line else .code line

/-- The sections closed so far and the one being built. -/
structure Scan where
  /-- The sections closed so far, in order. -/
  closed : List Section := []
  /-- The prose of the section being built, each line ended by a newline. -/
  comments : Text := []
  /-- The code of the section being built, each line ended by a newline. -/
  code : Text := []
  /-- A newline for each blank line held back. -/
  pending : Text := []
  deriving DecidableEq, Repr

namespace Scan

/-- Nothing read yet. -/
def start : Scan := {}

/-- Close the section being built. -/
def close (s : Scan) : Scan :=
  { s with
    closed := s.closed ++ [⟨s.comments, Code.trim s.code⟩]
    comments := []
    code := [] }

/-- Take a comment line. -/
def addComment (s : Scan) (text : Text) : Scan :=
  let s := if s.code.isEmpty then s else s.close
  { s with comments := s.comments ++ s.pending ++ text ++ ['\n'], pending := [] }

/-- Take a line of code, or a blank line among code. -/
def addCode (s : Scan) (line : Text) : Scan :=
  { s with code := s.code ++ s.pending ++ line ++ ['\n'], pending := [] }

/-- Hold a blank line back. -/
def hold (s : Scan) : Scan := { s with pending := s.pending ++ ['\n'] }

/-- Take a line that has been classified. -/
def take (s : Scan) : Line → Scan
  | .comment text => s.addComment text
  | .blank line => if s.code.isEmpty then s.hold else s.addCode line
  | .code line => s.addCode line

/-- Take a line of source. -/
def step (m : Marker) (s : Scan) (line : Text) : Scan := s.take (Line.classify m line)

/-- Take lines of source in order. -/
def run (m : Marker) (s : Scan) (ls : List Text) : Scan := ls.foldl (step m) s

/-- The sections once the source has ended.  Blank lines still held back are
dropped. -/
def finish (s : Scan) : List Section :=
  if s.comments.isEmpty && s.code.isEmpty then s.closed else s.close.closed

@[simp] theorem run_nil (m : Marker) (s : Scan) : run m s [] = s := rfl

@[simp] theorem run_cons (m : Marker) (s : Scan) (l : Text) (ls : List Text) :
    run m s (l :: ls) = run m (step m s l) ls := rfl

theorem run_append (m : Marker) (s : Scan) (ls ls' : List Text) :
    run m s (ls ++ ls') = run m (run m s ls) ls' := by
  simp [run]

end Scan

/-- The sections of a source whose comments are marked by `m`. -/
def sectionsOf (m : Marker) (source : Text) : List Section :=
  (Scan.run m Scan.start (sourceLines source)).finish

end Marginalia
