import Marginalia.Proofs.Names
import Marginalia.Proofs.PageMarkup
import Marginalia.Publish

/-!
# What rendering files comes to

Paths either all lead to texts, or there is a first one among them that does not.  In the
second case that path decides, whatever the settings are.  In the first case the fragments
follow one another, each made of its own file; a page is put around them if one is asked for,
and only then, with code highlighted, does the theme matter.

## Main definitions

* `Reader.ReadsAll` — the texts that paths lead to.
* `Reader.FirstUnreadable` — the first path that leads to no text, and why.
* `Settings.joined` — the fragments of files, one after another.

## Main results

* `Reader.readsAll_or_firstUnreadable` — one of the two is the case.
* `fragments_of_readsAll`, `fragments_of_firstUnreadable` — what the fragments are in each.
* `renderFiles_inOrder` — **what rendering files comes to**, for all files and settings.
-/

namespace Marginalia

/-! ### Reading files in order -/

namespace Reader

/-- The files `files`, each with its text, are what is read at the paths `ps`. -/
structure ReadsAll (read : Reader) (ps : List Path) (files : List (Path × Text)) : Prop where
  paths : files.map Prod.fst = ps
  texts : ∀ f ∈ files, read f.1 = .ok f.2

/-- Among the paths `ps` there is a first one without a text, which cannot be read because
of `e`. -/
def FirstUnreadable (read : Reader) (ps : List Path) (e : FileError) : Prop :=
  ∃ before p after, ps = before ++ p :: after ∧ (∀ q ∈ before, ∃ t, read q = .ok t) ∧
    read p = .error e

variable {read : Reader} {p : Path} {ps qs : List Path} {files others : List (Path × Text)}

theorem readsAll_nil : read.ReadsAll [] [] := ⟨rfl, by simp⟩

theorem ReadsAll.cons {t : Text} (h : read p = .ok t) (hall : read.ReadsAll ps files) :
    read.ReadsAll (p :: ps) ((p, t) :: files) :=
  ⟨by rw [List.map_cons, hall.paths], List.forall_mem_cons.mpr ⟨h, hall.texts⟩⟩

theorem ReadsAll.append (h : read.ReadsAll ps files) (h' : read.ReadsAll qs others) :
    read.ReadsAll (ps ++ qs) (files ++ others) :=
  ⟨by rw [List.map_append, h.paths, h'.paths], List.forall_mem_append.mpr ⟨h.texts, h'.texts⟩⟩

/-- Either all paths lead to texts, or there is a first one that does not. -/
theorem readsAll_or_firstUnreadable (read : Reader) (ps : List Path) :
    (∃ files, read.ReadsAll ps files) ∨ ∃ e, read.FirstUnreadable ps e := by
  induction ps with
  | nil => exact .inl ⟨[], readsAll_nil⟩
  | cons p ps ih =>
    cases hp : read p with
    | error e => exact .inr ⟨e, [], p, ps, rfl, by simp, hp⟩
    | ok t =>
      rcases ih with ⟨files, hall⟩ | ⟨e, before, q, after, rfl, hbefore, hq⟩
      · exact .inl ⟨_, hall.cons hp⟩
      · exact .inr ⟨e, p :: before, q, after, rfl,
          List.forall_mem_cons.mpr ⟨⟨t, hp⟩, hbefore⟩, hq⟩

theorem get_of_ok {t : Text} (h : read p = .ok t) : read.get p = .ok t := by
  rw [get, h]

theorem get_of_error {e : FileError} (h : read p = .error e) : read.get p = .error (.file e) := by
  rw [get, h]

end Reader

/-! ### Fragments -/

/-- The fragments of files, one after another.  The marker of each and the language of its code
go by its own path. -/
def Settings.joined (s : Settings) (pen : Highlighter) (files : List (Path × Text)) : Text :=
  files.flatMap fun f => Fragment.render
    (if s.markdown then Hook.markdown .all else Hook.escape)
    (if s.highlight then pen.hook f.1.extension else Hook.escape)
    (sectionsOf (s.markerFor f.1) f.2)

theorem Settings.joined_append (s : Settings) (pen : Highlighter)
    (files others : List (Path × Text)) :
    s.joined pen (files ++ others) = s.joined pen files ++ s.joined pen others :=
  List.flatMap_append

/-- One file has the fragment that its renderer makes. -/
theorem Settings.joined_singleton (s : Settings) (pen : Highlighter) (f : Path × Text) :
    s.joined pen [f] = (s.rendererFor f.1 pen).fragment (.text f.2) :=
  List.flatMap_singleton _ _

variable {read : Reader} {s : Settings} {pen : Highlighter} {ps : List Path}
  {files : List (Path × Text)}

/-- The fragments of files that can all be read. -/
theorem fragments_of_readsAll (h : read.ReadsAll ps files) :
    fragments read s ps pen = .ok (s.joined pen files) := by
  obtain ⟨rfl, htexts⟩ := h
  induction files with
  | nil => rfl
  | cons f files ih =>
    obtain ⟨hf, hfiles⟩ := List.forall_mem_cons.mp htexts
    rw [List.map_cons, fragments, Reader.get_of_ok hf]
    change (fragments read s (files.map Prod.fst) pen >>= fun rest =>
      pure ((s.rendererFor f.1 pen).fragment (.text f.2) ++ rest)) = _
    rw [ih hfiles]
    rfl

/-- The first file that cannot be read decides the failure. -/
theorem fragments_of_firstUnreadable {e : FileError} (h : read.FirstUnreadable ps e) :
    fragments read s ps pen = .error (.file e) := by
  obtain ⟨before, p, after, rfl, hbefore, hp⟩ := h
  induction before with
  | nil =>
    rw [List.nil_append, fragments, Reader.get_of_error hp]
    rfl
  | cons q before ih =>
    obtain ⟨⟨t, hq⟩, hbefore⟩ := List.forall_mem_cons.mp hbefore
    rw [List.cons_append, fragments, Reader.get_of_ok hq]
    change (fragments read s (before ++ p :: after) pen >>= fun rest =>
      pure ((s.rendererFor q pen).fragment (.text t) ++ rest)) = _
    rw [ih hbefore]
    rfl

/-! ### Stylesheets and pages -/

theorem Settings.stylesheet_of_plain (h : s.highlight = false) : s.stylesheet pen = .ok none := by
  rw [stylesheet, h]
  rfl

theorem Settings.stylesheet_of_known (h : s.highlight = true) {theme : Theme}
    (htheme : theme.name = s.theme) : s.stylesheet pen = .ok (some (pen.stylesheet theme)) := by
  rw [stylesheet, if_pos h, Theme.ofName?_eq_some_iff.mpr htheme]

theorem Settings.stylesheet_of_unknown (h : s.highlight = true)
    (htheme : s.theme ∉ Theme.all.map Theme.name) :
    s.stylesheet pen = .error (.unknownTheme s.theme) := by
  rw [stylesheet, if_pos h, Theme.ofName?_eq_none_iff.mpr htheme]

/-- A page is called by the name of its first file. -/
theorem pageTitle_eq (ps : List Path) :
    pageTitle ps = (ps.head?.bind Path.fileName?).getD "lit".toList := by
  unfold pageTitle
  cases h : ps.head?.bind Path.fileName? with
  | none => rw [Option.bind_eq_bind, h]; rfl
  | some name => rw [Option.bind_eq_bind, h]; rfl

/-- A page with the stylesheet of a theme is not the page without one. -/
theorem Page.write_stylesheet_ne (pen : Highlighter) (theme : Theme) (title body : Text) :
    write ⟨title, body, some (pen.stylesheet theme)⟩ ≠ write ⟨title, body, none⟩ := by
  intro heq
  exact pen.stylesheet_ne_nil theme ((write_eq_write_iff title body _ _).mp heq)

theorem renderFiles_of_firstUnreadable {e : FileError} (h : read.FirstUnreadable ps e) :
    renderFiles read s ps pen = .error (.file e) := by
  rw [renderFiles, fragments_of_firstUnreadable h]
  rfl

/-- Without a page the fragments are all there is. -/
theorem renderFiles_of_fragments (h : read.ReadsAll ps files) (hstandalone : s.standalone = false) :
    renderFiles read s ps pen = .ok (s.joined pen files) := by
  rw [renderFiles, fragments_of_readsAll h]
  change (if s.standalone = true then _ else _) = _
  rw [hstandalone, if_neg Bool.false_ne_true]
  rfl

/-- A page fails as its stylesheet does, and else has the fragments in it. -/
theorem renderFiles_of_page (h : read.ReadsAll ps files) (hstandalone : s.standalone = true) :
    renderFiles read s ps pen = (s.stylesheet pen).map fun stylesheet => Page.write
      ⟨(ps.head?.bind Path.fileName?).getD "lit".toList, s.joined pen files, stylesheet⟩ := by
  rw [renderFiles, fragments_of_readsAll h, ← pageTitle_eq]
  change (if s.standalone = true then _ else _) = _
  rw [if_pos hstandalone]
  cases s.stylesheet pen <;> rfl

/-- The theme matters only on a page on which code is highlighted. -/
theorem renderFiles_theme (h : s.standalone = false ∨ s.highlight = false) (name : Text) :
    renderFiles read { s with theme := name } ps pen = renderFiles read s ps pen := by
  rcases read.readsAll_or_firstUnreadable ps with ⟨files, hall⟩ | ⟨e, hfirst⟩
  · rcases Bool.eq_false_or_eq_true s.standalone with hstandalone | hstandalone
    · have hplain : s.highlight = false := by
        rcases h with h | h
        · exact absurd (hstandalone.symm.trans h).symm Bool.false_ne_true
        · exact h
      rw [renderFiles_of_page hall hstandalone, Settings.stylesheet_of_plain hplain,
        renderFiles_of_page (s := { s with theme := name }) hall hstandalone,
        Settings.stylesheet_of_plain (s := { s with theme := name }) hplain]
      rfl
    · rw [renderFiles_of_fragments hall hstandalone,
        renderFiles_of_fragments (s := { s with theme := name }) hall hstandalone]
      rfl
  · rw [renderFiles_of_firstUnreadable hfirst, renderFiles_of_firstUnreadable hfirst]

/-- Lists of files that can be rendered without a page can be rendered together. -/
theorem renderFiles_append {qs : List Path} {out out' : Text} (hstandalone : s.standalone = false)
    (h : renderFiles read s ps pen = .ok out) (h' : renderFiles read s qs pen = .ok out') :
    renderFiles read s (ps ++ qs) pen = .ok (out ++ out') := by
  rcases read.readsAll_or_firstUnreadable ps with ⟨files, hall⟩ | ⟨e, hfirst⟩
  · rcases read.readsAll_or_firstUnreadable qs with ⟨others, hothers⟩ | ⟨e, hfirst⟩
    · rw [renderFiles_of_fragments hall hstandalone, Except.ok.injEq] at h
      rw [renderFiles_of_fragments hothers hstandalone, Except.ok.injEq] at h'
      rw [renderFiles_of_fragments (hall.append hothers) hstandalone, s.joined_append, h, h']
    · rw [renderFiles_of_firstUnreadable hfirst] at h'
      cases h'
  · rw [renderFiles_of_firstUnreadable hfirst] at h
    cases h

/-- **What rendering files comes to**, with any highlighter.  The first file that cannot be read
decides the failure, whatever the settings are.  If all can be read, an unknown theme is a
failure of a page with highlighted code.  Else there is a result: the fragments of the files,
each as it is by itself, with the marker and the language of its own path; or a page with
exactly these fragments, called by the name of the first file, with the stylesheet of the theme
if code is highlighted, which can be told from the page.  Nothing else depends on the theme. -/
theorem renderFiles_inOrder :
    ∀ (pen : Highlighter) (read : Reader) (s : Settings) (ps : List Path),
      ((∃ files, read.ReadsAll ps files) ∨ ∃ e, read.FirstUnreadable ps e) ∧
      (∀ e, read.FirstUnreadable ps e → renderFiles read s ps pen = .error (.file e)) ∧
      (∀ files, read.ReadsAll ps files →
        let fragment := fun f : Path × Text => Fragment.render
          (if s.markdown then Hook.markdown .all else Hook.escape)
          (if s.highlight then pen.hook f.1.extension else Hook.escape)
          (sectionsOf (s.markerFor f.1) f.2)
        let page := fun stylesheet : Option Text => Page.write
          ⟨(ps.head?.bind Path.fileName?).getD "lit".toList, files.flatMap fragment, stylesheet⟩
        (s.standalone = true → s.highlight = true → s.theme ∉ Theme.all.map Theme.name →
          renderFiles read s ps pen = .error (.unknownTheme s.theme)) ∧
        (s.standalone = false →
          renderFiles read s ps pen = .ok (files.flatMap fragment) ∧
          ∀ f ∈ files, renderFiles read s [f.1] pen = .ok (fragment f)) ∧
        (s.standalone = true → s.highlight = false →
          renderFiles read s ps pen = .ok (page none)) ∧
        (s.standalone = true → s.highlight = true → ∀ theme : Theme, theme.name = s.theme →
          renderFiles read s ps pen = .ok (page (some (pen.stylesheet theme))) ∧
          page (some (pen.stylesheet theme)) ≠ page none)) ∧
      (s.standalone = false → ∀ qs out out', renderFiles read s ps pen = .ok out →
        renderFiles read s qs pen = .ok out' →
          renderFiles read s (ps ++ qs) pen = .ok (out ++ out')) ∧
      (s.standalone = false ∨ s.highlight = false → ∀ name,
        renderFiles read { s with theme := name } ps pen = renderFiles read s ps pen) := by
  intro pen read s ps
  refine ⟨read.readsAll_or_firstUnreadable ps, fun e => renderFiles_of_firstUnreadable, ?_,
    fun hstandalone qs out out' => renderFiles_append hstandalone, renderFiles_theme⟩
  intro files hall fragment page
  refine ⟨?_, ?_, ?_, ?_⟩
  · intro hstandalone hhighlight htheme
    rw [renderFiles_of_page hall hstandalone, Settings.stylesheet_of_unknown hhighlight htheme]
    rfl
  · intro hstandalone
    refine ⟨renderFiles_of_fragments hall hstandalone, ?_⟩
    intro f hf
    -- a file by itself is a list of one
    have hone : read.ReadsAll [f.1] [f] := Reader.readsAll_nil.cons (hall.texts f hf)
    rw [renderFiles_of_fragments hone hstandalone, Settings.joined_singleton]
    rfl
  · intro hstandalone hhighlight
    rw [renderFiles_of_page hall hstandalone, Settings.stylesheet_of_plain hhighlight]
    rfl
  · intro hstandalone hhighlight theme htheme
    refine ⟨?_, Page.write_stylesheet_ne pen theme _ _⟩
    rw [renderFiles_of_page hall hstandalone, Settings.stylesheet_of_known hhighlight htheme]
    rfl

/-- A folder with a source in it, beside a file that is no text. -/
def FileTree.sample : FileTree :=
  ((FileTree.empty ["home".toList]).add ⟨"d/a.py".toList⟩ (.file (Text.encode "# x".toList))).add
    ⟨"b.rs".toList⟩ (.file ⟨#[0xC0, 0x80]⟩)

/-- A file that is no text comes before an unknown theme, without highlighted code the theme
does not matter, and with it a page has the stylesheet of the theme. -/
theorem renderFiles_inOrder_sample :
    Reader.FirstUnreadable FileTree.sample.readText [⟨"d/a.py".toList⟩, ⟨"b.rs".toList⟩]
        .notText ∧
      renderFiles FileTree.sample.readText { standalone := true, theme := "none".toList }
        [⟨"d/a.py".toList⟩, ⟨"b.rs".toList⟩] = .error (.file .notText) ∧
      Reader.ReadsAll FileTree.sample.readText [⟨"d/a.py".toList⟩]
        [(⟨"d/a.py".toList⟩, "# x".toList)] ∧
      "none".toList ∉ Theme.all.map Theme.name ∧
      renderFiles FileTree.sample.readText { standalone := true, theme := "none".toList }
        [⟨"d/a.py".toList⟩] = .error (.unknownTheme "none".toList) ∧
      renderFiles FileTree.sample.readText
          { standalone := true, highlight := false, theme := "none".toList }
          [⟨"d/a.py".toList⟩] =
        .ok (Page.write ⟨"a.py".toList,
          Fragment.render (Hook.markdown .all) Hook.escape [⟨"x\n".toList, []⟩], none⟩) ∧
      renderFiles FileTree.sample.readText { standalone := true } [⟨"d/a.py".toList⟩] =
        .ok (Page.write ⟨"a.py".toList,
          Fragment.render (Hook.markdown .all) (Highlighter.plainText.hook "py".toList)
            [⟨"x\n".toList, []⟩], some (Highlighter.plainText.stylesheet .inspiredGitHub)⟩) := by
  have hread : FileTree.sample.readText ⟨"d/a.py".toList⟩ = .ok "# x".toList := rfl
  have hfirst : Reader.FirstUnreadable FileTree.sample.readText
      [⟨"d/a.py".toList⟩, ⟨"b.rs".toList⟩] .notText := by
    refine ⟨[⟨"d/a.py".toList⟩], ⟨"b.rs".toList⟩, [], rfl, ?_, rfl⟩
    exact List.forall_mem_singleton.mpr ⟨"# x".toList, hread⟩
  have hall : Reader.ReadsAll FileTree.sample.readText [⟨"d/a.py".toList⟩]
      [(⟨"d/a.py".toList⟩, "# x".toList)] := Reader.readsAll_nil.cons hread
  have htheme : "none".toList ∉ Theme.all.map Theme.name := by decide +kernel
  have hsections : sectionsOf ⟨"#".toList⟩ "# x".toList = [⟨"x\n".toList, []⟩] := by
    decide +kernel
  have hextension : Path.extension ⟨"d/a.py".toList⟩ = "py".toList := by decide +kernel
  rw [← hsections, ← hextension]
  refine ⟨hfirst, ?_, hall, htheme, ?_, ?_, ?_⟩
  · exact (renderFiles_inOrder .plainText _
      { standalone := true, theme := "none".toList } _).2.1 _ hfirst
  · exact ((renderFiles_inOrder .plainText _ _ _).2.2.1 _ hall).1 rfl rfl htheme
  · exact ((renderFiles_inOrder .plainText _
      { standalone := true, highlight := false, theme := "none".toList } _).2.2.1 _ hall).2.2.1
      rfl rfl
  · have hpage := ((renderFiles_inOrder .plainText _ { standalone := true } _).2.2.1 _ hall).2.2.2
      rfl rfl .inspiredGitHub rfl
    exact hpage.1

end Marginalia
