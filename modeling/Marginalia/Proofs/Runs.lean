import Marginalia.Proofs.Rendering
import Marginalia.Proofs.Withdrawal
import Marginalia.Program

/-!
# What a run does to files

What can go wrong when a command is carried out is known beforehand, in the order in which it
would be met: the files to be read, from left to right, then the theme, then the file to be
written.  If there is something, the run fails with the first of it and leaves everything as
it was.  If there is nothing, it succeeds, and only a file named for the output changes.

## Main definitions

* `FileTree.readFailures`, `Settings.themeFailures`, `FileTree.writeFailures` — what can go
  wrong at each stage.
* `Command.failures` — all of it, in order.

## Main results

* `FileTree.readText_put_of_ne` — a file that is put leaves what other paths lead to.
* `FileTree.perform_of_failure`, `FileTree.perform_of_noFailure` — how a command ends.
* `FileTree.perform_output` — what a command with an output does, by what it does without.
* `run_allOrNothing` — **a run does all of what it is asked, or nothing.**
-/

namespace Marginalia

/-! ### Files beside a file that is put -/

namespace FileTree

variable {t : FileTree} {place l : Location} {content : ByteArray} {p q : Path}

/-- A file that is put where no folder is leaves every way that leads somewhere. -/
theorem locate_put (hp : t.get? place ≠ some .folder) (h : t.locate q = .ok l) :
    (t.put place (.file content)).locate q = .ok l := by
  unfold locate at h ⊢
  cases hc : checkPath q with
  | error e => rw [hc] at h; cases h
  | ok u =>
    rw [hc] at h
    exact t.follow_put hp content q.steps (t.start q) l h

/-- What is read at a path is decided by what is at the place to which it leads. -/
theorem readText_congr {t' : FileTree} (h : t.locate q = .ok l) (h' : t'.locate q = .ok l)
    (hl : t'.get? l = t.get? l) : t'.readText q = t.readText q := by
  have hread : t'.read q = t.read q := by
    rw [read, read, h, h']
    simp only [bind, Except.bind, hl]
  rw [readText, readText, hread]

/-- A file that is put leaves what other paths lead to. -/
theorem readText_put_of_ne (hp : t.get? place ≠ some .folder) (h : t.locate q = .ok l)
    (hne : l ≠ place) : (t.put place (.file content)).readText q = t.readText q := by
  have hroot : place ≠ [] := fun heq => hp (heq ▸ t.get?_root)
  refine readText_congr h (locate_put hp h) ?_
  rw [get?_put t hroot, if_neg hne]

theorem write_of_target (h : t.target p = .ok place) (text : Text) :
    t.write p text = .ok (t.put place (.file text.encode)) := by
  rw [write, h]
  rfl

theorem write_of_error {e : FileError} (h : t.target p = .error e) (text : Text) :
    t.write p text = .error e := by
  rw [write, h]
  rfl

end FileTree

/-! ### What can go wrong -/

/-- The failures of reading files, from left to right. -/
def FileTree.readFailures (t : FileTree) (ps : List Path) : List Failure :=
  ps.filterMap fun p =>
    match t.readText p with
    | .error e => some (.file e)
    | .ok _ => none

/-- The failure of a page with highlighted code whose theme is unknown. -/
def Settings.themeFailures (s : Settings) : List Failure :=
  if s.standalone = true ∧ s.highlight = true ∧ s.theme ∉ Theme.all.map Theme.name then
    [.unknownTheme s.theme]
  else []

/-- The failure of a file that is to be written, if there is one. -/
def FileTree.writeFailures (t : FileTree) : Option Path → List Failure
  | none => []
  | some p =>
    match t.target p with
    | .error e => [.file e]
    | .ok _ => []

/-- What can go wrong in a tree when a command is carried out, in order: reading the inputs,
then the theme, then writing the output. -/
def Command.failures (t : FileTree) : Command → List Failure
  | .render files output o =>
    t.readFailures files ++ (o.apply t.settings).themeFailures ++ t.writeFailures output
  | .parse file _ => t.readFailures [file]
  | _ => []

section Failures

variable {t : FileTree} {s : Settings} {pen : Highlighter} {ps : List Path} {f : Failure}
  {rest : List Failure}

theorem readFailures_of_readsAll {files : List (Path × Text)}
    (h : Reader.ReadsAll t.readText ps files) : t.readFailures ps = [] := by
  obtain ⟨rfl, htexts⟩ := h
  rw [FileTree.readFailures, List.filterMap_eq_nil_iff]
  intro p hp
  obtain ⟨f, hf, rfl⟩ := List.mem_map.mp hp
  rw [htexts f hf]

theorem readFailures_of_firstUnreadable {e : FileError}
    (h : Reader.FirstUnreadable t.readText ps e) : ∃ rest, t.readFailures ps = .file e :: rest := by
  obtain ⟨before, p, after, rfl, hbefore, hp⟩ := h
  have hnone : t.readFailures before = [] := by
    rw [FileTree.readFailures, List.filterMap_eq_nil_iff]
    intro q hq
    obtain ⟨text, htext⟩ := hbefore q hq
    rw [htext]
  refine ⟨t.readFailures after, ?_⟩
  rw [FileTree.readFailures, List.filterMap_append, List.filterMap_cons, hp]
  change t.readFailures before ++ _ = _
  rw [hnone]
  rfl

/-- Rendering files fails with the first thing that goes wrong. -/
theorem renderFiles_of_failure (h : t.readFailures ps ++ s.themeFailures = f :: rest) :
    renderFiles t.readText s ps pen = .error f := by
  rcases Reader.readsAll_or_firstUnreadable t.readText ps with ⟨files, hall⟩ | ⟨e, hfirst⟩
  · rw [readFailures_of_readsAll hall, List.nil_append, Settings.themeFailures] at h
    split at h
    · next htheme =>
      obtain ⟨hstandalone, hhighlight, hunknown⟩ := htheme
      obtain rfl := (List.cons.inj h).1
      rw [renderFiles_of_page hall hstandalone,
        Settings.stylesheet_of_unknown hhighlight hunknown]
      rfl
    · cases h
  · obtain ⟨others, hothers⟩ := readFailures_of_firstUnreadable hfirst
    rw [hothers, List.cons_append] at h
    obtain rfl := (List.cons.inj h).1
    exact renderFiles_of_firstUnreadable hfirst

/-- Rendering files succeeds if nothing goes wrong. -/
theorem renderFiles_of_noFailure (h : t.readFailures ps ++ s.themeFailures = []) :
    ∃ html, renderFiles t.readText s ps pen = .ok html := by
  obtain ⟨hreads, hthemes⟩ := List.append_eq_nil_iff.mp h
  rcases Reader.readsAll_or_firstUnreadable t.readText ps with ⟨files, hall⟩ | ⟨e, hfirst⟩
  · cases hstandalone : s.standalone with
    | false => exact ⟨_, renderFiles_of_fragments hall hstandalone⟩
    | true =>
      rw [renderFiles_of_page hall hstandalone]
      cases hhighlight : s.highlight with
      | false => exact ⟨_, by rw [Settings.stylesheet_of_plain hhighlight]; rfl⟩
      | true =>
        have hknown : s.theme ∈ Theme.all.map Theme.name := by
          by_contra hunknown
          rw [Settings.themeFailures, if_pos ⟨hstandalone, hhighlight, hunknown⟩] at hthemes
          cases hthemes
        obtain ⟨theme, -, htheme⟩ := List.mem_map.mp hknown
        exact ⟨_, by rw [Settings.stylesheet_of_known hhighlight htheme]; rfl⟩
  · obtain ⟨others, hothers⟩ := readFailures_of_firstUnreadable hfirst
    rw [hothers] at hreads
    cases hreads

end Failures

/-! ### Commands -/

namespace FileTree

variable {t : FileTree} {files : List Path} {output : Option Path} {o : Overrides} {html : Text}
  {p : Path} {place : Location} {c : Command} {f : Failure} {rest : List Failure}
  {pen : Highlighter}

theorem perform_render_error
    (h : renderFiles t.readText (o.apply t.settings) files pen = .error f) :
    t.perform (.render files output o) pen = (.failure f, t) := by
  rw [perform, Command.answer, h]
  rfl

theorem perform_print (h : renderFiles t.readText (o.apply t.settings) files pen = .ok html) :
    t.perform (.render files none o) pen = (.success html, t) := by
  rw [perform, Command.answer, h]
  rfl

theorem perform_save (h : renderFiles t.readText (o.apply t.settings) files pen = .ok html)
    (hp : t.target p = .ok place) :
    t.perform (.render files (some p) o) pen = (.success [], t.put place (.file html.encode)) := by
  simp only [perform, Command.answer, h, bind, Except.bind, pure, Except.pure,
    write_of_target hp]

theorem perform_save_error {e : FileError}
    (h : renderFiles t.readText (o.apply t.settings) files pen = .ok html)
    (hp : t.target p = .error e) :
    t.perform (.render files (some p) o) pen = (.failure (.file e), t) := by
  simp only [perform, Command.answer, h, bind, Except.bind, pure, Except.pure,
    write_of_error hp]

theorem perform_parse_error {e : FileError} (h : t.readText p = .error e) :
    t.perform (.parse p o) pen = (.failure (.file e), t) := by
  rw [perform, Command.answer, parseFile, Reader.get_of_error h]
  rfl

theorem perform_parse {source : Text} (h : t.readText p = .ok source) :
    t.perform (.parse p o) pen =
      (.success (Section.writeList (sectionsOf ((o.apply t.settings).markerFor p) source) ++
        ['\n']), t) := by
  rw [perform, Command.answer, parseFile, Reader.get_of_ok h]
  rfl

theorem readFailures_singleton (t : FileTree) (p : Path) :
    (∃ source, t.readText p = .ok source ∧ t.readFailures [p] = []) ∨
      ∃ e, t.readText p = .error e ∧ t.readFailures [p] = [.file e] := by
  cases h : t.readText p with
  | ok source => exact .inl ⟨source, rfl, by rw [readFailures, List.filterMap_cons, h]; rfl⟩
  | error e => exact .inr ⟨e, rfl, by rw [readFailures, List.filterMap_cons, h]; rfl⟩

/-- If something goes wrong, the command fails with the first of it, and nothing changes. -/
theorem perform_of_failure (h : c.failures t = f :: rest) : t.perform c pen = (.failure f, t) := by
  cases c with
  | render files output o =>
    rw [Command.failures] at h
    rcases List.append_eq_cons_iff.mp h with ⟨hnone, hwrite⟩ | ⟨others, hothers, -⟩
    · obtain ⟨html, hhtml⟩ := renderFiles_of_noFailure hnone
      cases output with
      | none => cases hwrite
      | some p =>
        cases hp : t.target p with
        | ok place => rw [writeFailures, hp] at hwrite; cases hwrite
        | error e =>
          rw [writeFailures, hp] at hwrite
          obtain rfl := (List.cons.inj hwrite).1
          exact perform_save_error hhtml hp
    · exact perform_render_error (renderFiles_of_failure hothers)
  | parse file o =>
    rw [Command.failures] at h
    rcases t.readFailures_singleton file with ⟨source, -, hnone⟩ | ⟨e, he, hsome⟩
    · rw [hnone] at h
      cases h
    · rw [hsome] at h
      obtain rfl := (List.cons.inj h).1
      exact perform_parse_error he
  | themes => cases h
  | help topic => cases h
  | version => cases h

/-- If nothing goes wrong, the command succeeds. -/
theorem perform_of_noFailure (h : c.failures t = []) :
    ∃ out t', t.perform c pen = (.success out, t') := by
  cases c with
  | render files output o =>
    obtain ⟨hnone, hwrite⟩ := List.append_eq_nil_iff.mp h
    obtain ⟨html, hhtml⟩ := renderFiles_of_noFailure hnone
    cases output with
    | none => exact ⟨_, _, perform_print hhtml⟩
    | some p =>
      cases hp : t.target p with
      | ok place => exact ⟨_, _, perform_save hhtml hp⟩
      | error e => rw [writeFailures, hp] at hwrite; cases hwrite
  | parse file o =>
    rcases t.readFailures_singleton file with ⟨source, hsource, -⟩ | ⟨e, -, hsome⟩
    · exact ⟨_, _, perform_parse hsource⟩
    · rw [Command.failures, hsome] at h
      cases h
  | themes => exact ⟨_, _, rfl⟩
  | help topic => exact ⟨_, _, rfl⟩
  | version => exact ⟨_, _, rfl⟩

/-- Without an output nothing changes. -/
theorem perform_tree (h : ∀ files p o, c ≠ .render files (some p) o) :
    (t.perform c pen).2 = t := by
  cases hfailures : c.failures t with
  | cons f rest => rw [perform_of_failure hfailures]
  | nil =>
    cases c with
    | render files output o =>
      cases output with
      | none =>
        obtain ⟨html, hhtml⟩ := renderFiles_of_noFailure (List.append_eq_nil_iff.mp hfailures).1
        rw [perform_print hhtml]
      | some p => exact absurd rfl (h files p o)
    | parse file o =>
      rcases t.readFailures_singleton file with ⟨source, hsource, -⟩ | ⟨e, -, hsome⟩
      · rw [perform_parse hsource]
      · rw [Command.failures, hsome] at hfailures
        cases hfailures
    | themes => rfl
    | help topic => rfl
    | version => rfl

/-- A command with an output that succeeds puts there what it prints without one. -/
theorem perform_output {out : Text} {t' : FileTree}
    (h : t.perform (.render files (some p) o) pen = (.success out, t')) :
    out = [] ∧ ∃ html place, t.perform (.render files none o) pen = (.success html, t) ∧
      t.target p = .ok place ∧ t' = t.put place (.file html.encode) := by
  cases hhtml : renderFiles t.readText (o.apply t.settings) files pen with
  | error f => rw [perform_render_error hhtml] at h; cases h
  | ok html =>
    cases hp : t.target p with
    | error e => rw [perform_save_error hhtml hp] at h; cases h
    | ok place =>
      rw [perform_save hhtml hp] at h
      cases h
      exact ⟨rfl, html, place, perform_print hhtml, rfl, rfl⟩

end FileTree

/-! ### Runs -/

section

variable {args : List Text} {t : FileTree} {c : Command} {pen : Highlighter}

theorem run_of_command (h : Command.ofArguments? args = some c) :
    run args t pen = t.perform c pen := by
  rw [run, h]

theorem run_of_misuse (h : Command.ofArguments? args = none) : run args t pen = (.misuse, t) := by
  rw [run, h]

/-- A command fails with the first thing that goes wrong, and else succeeds. -/
theorem run_failure_or_success (h : Command.ofArguments? args = some c) :
    (∃ f rest, c.failures t = f :: rest ∧ run args t pen = (.failure f, t)) ∨
      ∃ out t', c.failures t = [] ∧ run args t pen = (.success out, t') := by
  rw [run_of_command h]
  cases hfailures : c.failures t with
  | cons f rest => exact .inl ⟨f, rest, rfl, FileTree.perform_of_failure hfailures⟩
  | nil =>
    obtain ⟨out, t', hout⟩ := FileTree.perform_of_noFailure hfailures
    exact .inr ⟨out, t', rfl, hout⟩

/-- Whether a run is a misuse is decided by the arguments. -/
theorem status_eq_two_iff : (run args t pen).1.status = 2 ↔ Command.ofArguments? args = none := by
  constructor
  · intro h
    cases hc : Command.ofArguments? args with
    | none => rfl
    | some c =>
      rcases run_failure_or_success hc with ⟨f, -, -, hrun⟩ | ⟨out, t', -, hrun⟩
      · rw [hrun] at h
        cases h
      · rw [hrun] at h
        cases h
  · intro h
    rw [run_of_misuse h]
    rfl

/-- A run that does not succeed prints nothing and changes nothing. -/
theorem run_of_status_ne_zero (h : (run args t pen).1.status ≠ 0) :
    (run args t pen).1.output = [] ∧ (run args t pen).2 = t := by
  cases hc : Command.ofArguments? args with
  | none =>
    rw [run_of_misuse hc]
    exact ⟨rfl, rfl⟩
  | some c =>
    rcases run_failure_or_success hc with ⟨f, -, -, hrun⟩ | ⟨out, t', -, hrun⟩
    · rw [hrun]
      exact ⟨rfl, rfl⟩
    · rw [hrun] at h
      exact absurd rfl h

/-- A run that names no output changes nothing. -/
theorem run_tree (h : ∀ files p o, Command.ofArguments? args ≠ some (.render files (some p) o)) :
    (run args t pen).2 = t := by
  cases hc : Command.ofArguments? args with
  | none => rw [run_of_misuse hc]
  | some c =>
    rw [run_of_command hc]
    refine FileTree.perform_tree ?_
    rintro files p o rfl
    exact h files p o hc

end

/-- **A run does all of what it is asked, or nothing.**  Whether it makes sense is decided by
the arguments.  If it does not succeed, it prints nothing and changes nothing; if it fails, then
with the first thing that goes wrong, the inputs coming first, from left to right, then the
theme, then the output.  If files are rendered to an output, nothing is printed, the output
holds what is printed in the same tree by arguments that say the same but for the output, and
nothing else changes, wherever the output is.  Such arguments are those in which the output
is left out, which it always can be.  Without an output nothing changes at all. -/
theorem run_allOrNothing :
    ∀ (pen : Highlighter) (args : List Text) (t : FileTree),
      ((run args t pen).1.status = 2 ↔ Command.ofArguments? args = none) ∧
      ((run args t pen).1.status ≠ 0 → (run args t pen).1.output = [] ∧ (run args t pen).2 = t) ∧
      (∀ c, Command.ofArguments? args = some c →
        ((run args t pen).1.status = 0 ↔ c.failures t = []) ∧
        ((run args t pen).1.status = 1 → ∃ f rest, c.failures t = f :: rest ∧
          (run args t pen).1 = .failure f ∧ (run args t pen).1.error? = some f.message)) ∧
      (∀ files p o, Command.ofArguments? args = some (.render files (some p) o) →
        (run args t pen).1.status = 0 →
          (run args t pen).1.output = [] ∧
          (∃ place, t.target p = .ok place ∧
            (∀ l, l ≠ place → (run args t pen).2.get? l = t.get? l) ∧
            (∀ q l, t.locate q = .ok l → l ≠ place →
              (run args t pen).2.readText q = t.readText q)) ∧
          (run args t pen).2.working = t.working ∧
          ∀ args', Command.ofArguments? args' = some (.render files none o) →
            (run args' t pen).1.status = 0 ∧
              (run args t pen).2.readText p = .ok (run args' t pen).1.output) ∧
      (∀ before spelled kept after p files output o,
        args = before ++ (spelled ++ after) → CommandLine.Removal .output p spelled kept →
        CommandLine.separator ∉ before →
        Command.ofArguments? args = some (.render files output o) →
          output = some ⟨p⟩ ∧
            Command.ofArguments? (before ++ (kept ++ after)) = some (.render files none o)) ∧
      (∀ files p o, Command.ofArguments? args = some (.render files (some p) o) →
        ∃ before spelled kept after, args = before ++ (spelled ++ after) ∧
          CommandLine.separator ∉ before ∧
          CommandLine.Removal .output p.text spelled kept) ∧
      ((∀ files p o, Command.ofArguments? args ≠ some (.render files (some p) o)) →
        (run args t pen).2 = t) := by
  intro pen args t
  refine ⟨status_eq_two_iff, run_of_status_ne_zero, ?_, ?_, ?_, ?_, run_tree⟩
  · intro c hc
    rcases run_failure_or_success hc with
      ⟨f, rest, hfailures, hrun⟩ | ⟨out, t', hfailures, hrun⟩
    · rw [hrun, hfailures]
      have hone : (Outcome.failure f).status ≠ 0 := Nat.one_ne_zero
      exact ⟨iff_of_false hone (List.cons_ne_nil f rest), fun _ => ⟨f, rest, rfl, rfl, rfl⟩⟩
    · rw [hrun, hfailures]
      have hzero : (Outcome.success out).status ≠ 1 := Nat.zero_ne_one
      exact ⟨iff_of_true rfl rfl, fun h => absurd h hzero⟩
  · intro files p o hc hstatus
    rcases run_failure_or_success hc with ⟨f, rest, -, hrun⟩ | ⟨out, t', -, hrun⟩
    · rw [hrun] at hstatus
      cases hstatus
    · rw [hrun]
      rw [run_of_command hc] at hrun
      obtain ⟨rfl, html, place, hprint, htarget, rfl⟩ := FileTree.perform_output hrun
      obtain ⟨-, hplace⟩ := FileTree.locate_of_target htarget
      have hroot : place ≠ [] := fun heq => hplace (heq ▸ t.get?_root)
      refine ⟨rfl, ⟨place, htarget, ?_, ?_⟩, rfl, ?_⟩
      · intro l hl
        rw [FileTree.get?_put t hroot, if_neg hl]
      · intro q l hq hl
        exact FileTree.readText_put_of_ne hplace hq hl
      · intro args' hc'
        rw [run_of_command hc', hprint]
        exact ⟨rfl, FileTree.readText_write (FileTree.write_of_target htarget html)⟩
  · rintro before spelled kept after p files output o rfl hremoval hsep hc
    exact CommandLine.read?_erase_output hremoval before hsep hc
  · intro files p o hc
    exact CommandLine.removable_output args hc

/-- A file that is rendered to itself ends up as what would have been printed, and stays as it
is if another file cannot be read. -/
theorem run_allOrNothing_itself :
    Command.ofArguments? (["render", "--plain", "-vod/a.py", "d/a.py"].map String.toList) =
        some (.render [⟨"d/a.py".toList⟩] (some ⟨"d/a.py".toList⟩) { plain := true }) ∧
      CommandLine.Removal .output "d/a.py".toList ["-vod/a.py".toList] ["-v".toList] ∧
      Command.ofArguments? (["render", "--plain", "-v", "d/a.py"].map String.toList) =
        some (.render [⟨"d/a.py".toList⟩] none { plain := true }) ∧
      (run (["render", "--plain", "-vod/a.py", "d/a.py"].map String.toList)
        FileTree.sample).1.status = 0 ∧
      (run (["render", "--plain", "-vod/a.py", "d/a.py"].map String.toList)
          FileTree.sample).2.readText ⟨"d/a.py".toList⟩ =
        .ok (run (["render", "--plain", "-v", "d/a.py"].map String.toList)
          FileTree.sample).1.output ∧
      (run (["render", "-od/a.py", "d/a.py", "b.rs"].map String.toList)
        FileTree.sample).2 = FileTree.sample := by
  have hc : Command.ofArguments? (["render", "--plain", "-vod/a.py", "d/a.py"].map String.toList) =
      some (.render [⟨"d/a.py".toList⟩] (some ⟨"d/a.py".toList⟩) { plain := true }) := by
    decide +kernel
  have hremoval : CommandLine.Removal .output "d/a.py".toList ["-vod/a.py".toList]
      ["-v".toList] :=
    .bundled 0 (by decide) (.shortAttached (c := 'o') (d := 'd') rfl (by decide) rfl)
  have hc' : Command.ofArguments? (["render", "--plain", "-v", "d/a.py"].map String.toList) =
      some (.render [⟨"d/a.py".toList⟩] none { plain := true }) :=
    ((run_allOrNothing .plainText _ FileTree.sample).2.2.2.2.1
      (["render", "--plain"].map String.toList) ["-vod/a.py".toList] ["-v".toList]
      ["d/a.py".toList] _ _ _ _ rfl hremoval (by decide) hc).2
  have hstatus : (run (["render", "--plain", "-vod/a.py", "d/a.py"].map String.toList)
      FileTree.sample).1.status = 0 :=
    ((run_allOrNothing .plainText _ FileTree.sample).2.2.1 _ hc).1.mpr (by decide +kernel)
  have hfailed : (run (["render", "-od/a.py", "d/a.py", "b.rs"].map String.toList)
      FileTree.sample).1.status ≠ 0 := by
    have hc₂ : Command.ofArguments? (["render", "-od/a.py", "d/a.py", "b.rs"].map String.toList) =
        some (.render [⟨"d/a.py".toList⟩, ⟨"b.rs".toList⟩] (some ⟨"d/a.py".toList⟩) {}) := by
      decide +kernel
    rw [Ne, ((run_allOrNothing .plainText _ FileTree.sample).2.2.1 _ hc₂).1]
    decide +kernel
  refine ⟨hc, hremoval, hc', hstatus, ?_, ?_⟩
  · exact (((run_allOrNothing .plainText _ FileTree.sample).2.2.2.1 _ _ _ hc
      hstatus).2.2.2 _ hc').2
  · exact ((run_allOrNothing .plainText _ FileTree.sample).2.1 hfailed).2

end Marginalia
