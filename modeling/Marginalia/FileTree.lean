import Marginalia.Path
import Marginalia.Text.Utf8

/-!
# Files in folders

## Main definitions

* `FileError`, `FileError.message` — why a file cannot be read or written.
* `FileTree` — the files and folders there are, and the folder in which work is done.
* `FileTree.locate` — the place that a path leads to.
* `FileTree.read`, `FileTree.readText` — what a file holds.
* `FileTree.write` — the tree after a file has been written.

A tree says what is where and what the system lets be done with it.  It does not say who may make
files in a folder, nor is there a file here that may be written but not read.  Names are Unicode
texts.

## Main results

* `FileTree.get?_put` — what is put at a place is there, and nothing else changes.
* `FileTree.readText_write` — a file that has been written holds what was written.
-/

namespace Marginalia

/-! ### Errors -/

/-- Why a file cannot be read or written. -/
inductive FileError where
  /-- There is nothing at the path. -/
  | notFound
  /-- The path leads to a folder where a file is needed. -/
  | isFolder
  /-- The path goes on after a file. -/
  | notFolder
  /-- The bytes of the file are not text. -/
  | notText
  /-- The path holds a character that no name can hold. -/
  | impossibleName
  /-- Another reason, in the words of the system. -/
  | other (reason : Text)
  deriving DecidableEq, Repr

/-- The wording of an error. -/
def FileError.message : FileError → Text
  | .notFound => "No such file or directory (os error 2)".toList
  | .isFolder => "Is a directory (os error 21)".toList
  | .notFolder => "Not a directory (os error 20)".toList
  | .notText => "stream did not contain valid UTF-8".toList
  | .impossibleName => "file name contained an unexpected NUL byte".toList
  | .other reason => reason

/-! ### Trees -/

/-- A place in a tree: the names that lead to it from the root. -/
abbrev Location := List Text

/-- What is at a place. -/
inductive Entry where
  /-- A file with its bytes. -/
  | file (content : ByteArray)
  /-- A folder. -/
  | folder
  /-- Something that the system lets nobody write, and why.  If it has bytes, it is a file that
  can be read; else it cannot be opened at all. -/
  | barred (content : Option ByteArray) (reason : Text)
  deriving Inhabited

/-- The files and folders there are. -/
structure FileTree where
  /-- What is at the places that are taken; for a place named twice the first counts. -/
  entries : List (Location × Entry)
  /-- The folder from which paths start that do not start at the root. -/
  working : Location
  deriving Inhabited

namespace FileTree

/-- What is at a place.  The root is a folder. -/
def get? (t : FileTree) (place : Location) : Option Entry :=
  if place.isEmpty then some .folder
  else (t.entries.find? fun e => e.1 == place).map (·.2)

/-- Put something at a place, instead of what was there. -/
def put (t : FileTree) (place : Location) (e : Entry) : FileTree :=
  { t with entries := (place, e) :: t.entries }

theorem get?_root (t : FileTree) : t.get? [] = some .folder := rfl

theorem get?_put (t : FileTree) {place : Location} (hp : place ≠ []) (e : Entry)
    (l : Location) : (t.put place e).get? l = if l = place then some e else t.get? l := by
  unfold get? put
  by_cases hl : l = place
  · subst hl
    simp [hp]
  · have hne : ¬ place = l := fun h => hl h.symm
    simp [hl, hne]

@[simp] theorem working_put (t : FileTree) (place : Location) (e : Entry) :
    (t.put place e).working = t.working := rfl

/-- Make a folder at every place above one. -/
def addFolders (t : FileTree) (place : Location) : FileTree :=
  (List.range place.length).foldl (fun t n => t.put (place.take n) .folder) t

/-- The tree whose only folders are a working folder and those around it. -/
def empty (working : Location) : FileTree :=
  (⟨[], working⟩ : FileTree).addFolders working |>.put working .folder

/-- Add something under a path from the working folder, and the folders around it. -/
def add (t : FileTree) (p : Path) (e : Entry) : FileTree :=
  let place := t.working ++ p.names
  (t.addFolders place).put place e

/-! ### Following paths -/

/-- Check that there is a folder at a place. -/
def enter (t : FileTree) (place : Location) : Except FileError Unit :=
  match t.get? place with
  | none => .error .notFound
  | some (.file _) => .error .notFolder
  | some (.barred (some _) _) => .error .notFolder
  | some (.barred none reason) => .error (.other reason)
  | some .folder => .ok ()

/-- The place a step leads to from a folder. -/
def move (place : Location) (step : Text) : Location :=
  if Path.staysPut step then place
  else if step = Path.up then place.dropLast
  else place ++ [step]

/-- The place that steps lead to.  A step can be taken from a folder only. -/
def follow (t : FileTree) : Location → List Text → Except FileError Location
  | place, [] => .ok place
  | place, step :: steps => do
    t.enter place
    follow t (move place step) steps

@[simp] theorem follow_nil (t : FileTree) (place : Location) :
    t.follow place [] = .ok place := rfl

theorem follow_cons (t : FileTree) (place : Location) (step : Text) (steps : List Text) :
    t.follow place (step :: steps) =
      (t.enter place >>= fun _ => t.follow (move place step) steps) := rfl

theorem enter_eq_ok_iff (t : FileTree) (place : Location) :
    t.enter place = .ok () ↔ t.get? place = some .folder := by
  unfold enter
  split <;> simp_all

theorem follow_append (t : FileTree) (steps more : List Text) (place : Location) :
    t.follow place (steps ++ more) = (t.follow place steps >>= fun l => t.follow l more) := by
  induction steps generalizing place with
  | nil => rfl
  | cons step steps ih =>
    rw [List.cons_append, follow_cons, follow_cons]
    cases t.enter place with
    | error e => rfl
    | ok u => exact ih (move place step)

/-- A file that is put where no folder is does not bar any way. -/
theorem follow_put (t : FileTree) {place : Location} (hp : t.get? place ≠ some .folder)
    (content : ByteArray) (steps : List Text) (first l : Location)
    (h : t.follow first steps = .ok l) :
    (t.put place (.file content)).follow first steps = .ok l := by
  have hroot : place ≠ [] := fun h => hp (h ▸ t.get?_root)
  induction steps generalizing first with
  | nil => exact h
  | cons step steps ih =>
    rw [follow_cons] at h ⊢
    cases he : t.enter first with
    | error e => rw [he] at h; cases h
    | ok u =>
      rw [he] at h
      have hf : t.get? first = some .folder := (t.enter_eq_ok_iff first).1 he
      have hne : first ≠ place := fun heq => hp (heq ▸ hf)
      have he' : (t.put place (.file content)).enter first = .ok () := by
        rw [enter_eq_ok_iff, get?_put t hroot, if_neg hne, hf]
      rw [he']
      exact ih _ h

/-- Where a path starts. -/
def start (t : FileTree) (p : Path) : Location := if p.fromRoot then [] else t.working

/-- Check that a path can be followed at all. -/
def checkPath (p : Path) : Except FileError Unit :=
  if p.text.contains '\x00' then .error .impossibleName
  else if p.text.isEmpty then .error .notFound
  else .ok ()

/-- The place that a path leads to, whether or not there is something. -/
def locate (t : FileTree) (p : Path) : Except FileError Location := do
  checkPath p
  t.follow (t.start p) p.steps

/-! ### Reading and writing -/

/-- The bytes of a file. -/
def read (t : FileTree) (p : Path) : Except FileError ByteArray := do
  let place ← t.locate p
  match t.get? place with
  | none => .error .notFound
  | some .folder => .error .isFolder
  | some (.barred none reason) => .error (.other reason)
  | some (.barred (some content) _) => .ok content
  | some (.file content) => .ok content

/-- The text of a file. -/
def readText (t : FileTree) (p : Path) : Except FileError Text := do
  match Text.decode? (← t.read p) with
  | none => .error .notText
  | some text => .ok text

/-- Whether a step can be the name of a file. -/
def isName (step : Text) : Bool := !Path.staysPut step && step != Path.up

/-- The place where a path lets a file be written, which is in a folder that exists.  A path
that ends by a slash or a dot stands for a folder. -/
def target (t : FileTree) (p : Path) : Except FileError Location := do
  checkPath p
  let steps := p.steps
  let trailing := steps.reverse.takeWhile List.isEmpty
  match steps.reverse.dropWhile List.isEmpty with
  | [] => .error .isFolder
  | last :: before => do
    let above ← t.follow (t.start p) before.reverse
    t.enter above
    if isName last && trailing.isEmpty then
      match t.get? (above ++ [last]) with
      | some .folder => .error .isFolder
      | some (.barred _ reason) => .error (.other reason)
      | _ => .ok (above ++ [last])
    else .error .isFolder

/-- The tree after a text has been written to a file, which is made if it is not there. -/
def write (t : FileTree) (p : Path) (text : Text) : Except FileError FileTree := do
  let place ← t.target p
  pure (t.put place (.file text.encode))

/-! ### Reading what was written -/

theorem move_name {step : Text} (h : isName step = true) (place : Location) :
    move place step = place ++ [step] := by
  unfold isName at h
  simp only [Bool.and_eq_true, Bool.not_eq_true', bne_iff_ne] at h
  simp [move, h.1, h.2]

/-- Where a file may be written there is no folder, and the path leads there. -/
theorem locate_of_target {t : FileTree} {p : Path} {place : Location}
    (h : t.target p = .ok place) :
    t.locate p = .ok place ∧ t.get? place ≠ some .folder := by
  unfold target at h
  unfold locate
  cases hc : checkPath p with
  | error e => rw [hc] at h; cases h
  | ok u =>
    rw [hc] at h
    change (match p.steps.reverse.dropWhile List.isEmpty with
      | [] => _
      | last :: before => _) = _ at h
    change t.follow (t.start p) p.steps = _ ∧ _
    split at h
    · cases h
    · next last before hsteps =>
      cases hf : t.follow (t.start p) before.reverse with
      | error e => rw [hf] at h; cases h
      | ok above =>
        rw [hf] at h
        cases he : t.enter above with
        | error e =>
          change (t.enter above >>= _) = _ at h
          rw [he] at h
          cases h
        | ok u' =>
          change (t.enter above >>= _) = _ at h
          rw [he] at h
          change (if (isName last && _) = true then _ else _) = _ at h
          split at h
          · next hn =>
            simp only [Bool.and_eq_true, List.isEmpty_iff] at hn
            have hall : p.steps = before.reverse ++ [last] := by
              have hsplit := List.takeWhile_append_dropWhile
                (p := List.isEmpty) (l := p.steps.reverse)
              rw [hn.2, hsteps, List.nil_append] at hsplit
              rw [← List.reverse_reverse p.steps, ← hsplit, List.reverse_cons]
            split at h
            · cases h
            · cases h
            · next hnot _ =>
              cases h
              refine ⟨?_, hnot⟩
              rw [hall, follow_append, hf]
              change t.follow above [last] = _
              rw [follow_cons, he]
              change Except.ok (move above last) = _
              rw [move_name hn.1]
          · cases h

/-- A file that has been written holds what was written. -/
theorem readText_write {t t' : FileTree} {p : Path} {text : Text}
    (h : t.write p text = .ok t') : t'.readText p = .ok text := by
  unfold write at h
  cases hp : t.target p with
  | error e => rw [hp] at h; cases h
  | ok place =>
    rw [hp] at h
    cases h
    obtain ⟨hl, hn⟩ := locate_of_target hp
    have hroot : place ≠ [] := fun heq => hn (heq ▸ t.get?_root)
    have hl' : (t.put place (.file text.encode)).locate p = .ok place := by
      unfold locate at hl ⊢
      cases hc : checkPath p with
      | error e => rw [hc] at hl; cases hl
      | ok u =>
        rw [hc] at hl
        exact t.follow_put hn text.encode p.steps (t.start p) place hl
    have hr : (t.put place (.file text.encode)).read p = .ok text.encode := by
      unfold read
      rw [hl']
      change (match (t.put place (.file text.encode)).get? place with
        | none => _ | some .folder => _ | some (.barred none _) => _
        | some (.barred (some _) _) => _ | some (.file c) => _) = _
      rw [get?_put t hroot, if_pos rfl]
    unfold readText
    rw [hr]
    change (match Text.decode? text.encode with | none => _ | some t => _) = _
    rw [Text.decode?_encode]

end FileTree
end Marginalia
