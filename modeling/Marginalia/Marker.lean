import Marginalia.Text

/-!
# Line-comment markers

A marker is the text that makes a line a comment: optional indentation, the
marker, optional white space, and then the comment's own text.

## Main definitions

* `Marker` — the type; `Marker.slashes` is the one used when nothing is known.
* `Marker.ofExtension` — the usual marker for a file extension.
* `Marker.strip` — the text of a comment line, or `none` for any other line.
-/

namespace Marginalia

/-- The text a comment line begins with, after its indentation. -/
structure Marker where
  /-- The marker itself; an empty one marks no line. -/
  text : Text
  deriving DecidableEq, Repr, Inhabited

namespace Marker

/-- `//`, used when nothing else is known. -/
def slashes : Marker := ⟨"//".toList⟩

/-- `#`, of scripts and configuration files. -/
def hash : Marker := ⟨"#".toList⟩

/-- `--`, of query and functional languages. -/
def dashes : Marker := ⟨"--".toList⟩

/-- `;`, of the Lisp family and assembly. -/
def semicolon : Marker := ⟨";".toList⟩

/-- `%`, of typesetting sources and Erlang. -/
def percent : Marker := ⟨"%".toList⟩

/-- The extensions that have a marker other than `//`, in lower case. -/
def byExtension : List (Marker × List Text) :=
  [ (hash, ["py", "rb", "sh", "bash", "zsh", "pl", "r", "toml", "yaml", "yml", "coffee",
      "nim", "jl"].map String.toList),
    (dashes, ["sql", "lua", "hs", "elm", "ada"].map String.toList),
    (semicolon, ["lisp", "el", "clj", "cljs", "scm", "asm"].map String.toList),
    (percent, ["tex", "erl"].map String.toList) ]

/-- The usual marker for a file extension, in any case of its ASCII letters; `//`
for an extension that is not listed. -/
def ofExtension (extension : Text) : Marker :=
  match byExtension.find? fun entry => entry.2.contains (Text.lower extension) with
  | some entry => entry.1
  | none => slashes

/-- The text of a comment line: what follows the indentation, the marker and the
white space after it.  `none` for a line that is no comment. -/
def strip (m : Marker) (line : Text) : Option Text :=
  if m.text.isEmpty then none
  else (Text.after? m.text (Text.trimStart line)).map Text.trimStart

theorem strip_empty (line : Text) : strip ⟨[]⟩ line = none := rfl

end Marker

end Marginalia
