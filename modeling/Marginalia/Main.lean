import Marginalia.Program

/-!
# The command line

The files that a command needs are read first; what it comes to is decided without touching
the system again, and then printed or written.
-/

namespace Marginalia

/-- The number by which the system says that a path leads to a folder; some of its
functions give it with a minus sign. -/
def folderCode : UInt32 := 21

/-- Why the system refused, for the user. -/
def reasonOf : IO.Error → FileError
  | .noFileOrDirectory .. => .notFound
  | .inappropriateType _ code _ =>
    if code == folderCode || code == 0 - folderCode then .isFolder else .notFolder
  | e => .other (toString e).toList

/-- The text of a file of the system. -/
def readFile (p : Path) : IO (Except FileError Text) := do
  try
    let bytes ← IO.FS.readBinFile (String.ofList p.text)
    match Text.decode? bytes with
    | none => pure (.error .notText)
    | some text => pure (.ok text)
  catch e => pure (.error (reasonOf e))

/-- The texts of files, read once. -/
def readFiles (ps : List Path) : IO Reader := do
  let texts ← ps.mapM fun p => do
    let text ← readFile p
    pure (p, text)
  pure fun p =>
    match texts.find? fun entry => entry.1 == p with
    | some entry => entry.2
    | none => .error .notFound

/-- Write a text to a file of the system. -/
def writeFile (p : Path) (text : Text) : IO (Except FileError Unit) := do
  try
    IO.FS.writeBinFile (String.ofList p.text) text.encode
    pure (.ok ())
  catch e => pure (.error (reasonOf e))

/-- Carry out a command on the files of the system. -/
def perform (c : Command) : IO Outcome := do
  let read ← readFiles (settingsPath :: c.files)
  match c.answer read (Settings.ofFile (read settingsPath)) with
  | .error f => pure (.failure f)
  | .ok (.print text) => pure (.success text)
  | .ok (.save p text) =>
    match ← writeFile p text with
    | .error e => pure (.failure (.file e))
    | .ok () => pure (.success [])

/-- Run the program on arguments and report how it ends. -/
def execute (args : List Text) : IO UInt32 := do
  let outcome ←
    match Command.ofArguments? args with
    | none => pure Outcome.misuse
    | some c => perform c
  IO.print (String.ofList outcome.output)
  match outcome with
  | .success _ => pure ()
  | .failure f => IO.eprintln ("Error: " ++ String.ofList f.message)
  | .misuse => IO.eprint (String.ofList CommandLine.misuseText)
  pure outcome.status.toUInt32

end Marginalia

/-- Run the program on the arguments given. -/
def main (args : List String) : IO UInt32 := Marginalia.execute (args.map String.toList)
