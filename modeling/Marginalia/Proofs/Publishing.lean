import Marginalia.Proofs.Highlighting
import Marginalia.Proofs.PageMarkup
import Marginalia.Publish

/-!
# Published files

The settings choose the hooks, and the hooks choose the tags that may stand in the regions.
Whatever the files say and whatever they are called, the tags in what is published are those
of the frame and those of the hooks.

## Main definitions

* `Settings.commentVocabulary`, `Settings.codeVocabulary` — the tags that the hooks may write.
* `Settings.commentTags`, `Settings.codeTags`, `Settings.fileTags` — those that they do write,
  and all the tags of a file.
* `Html.Sound` — a text in which nothing but the given tags is markup.
* `Regions.Contained` — regions that cannot close what they stand in.
* `Published` — what is known of the HTML of files, with any stylesheets.

## Main results

* `Settings.tagged_commentRegion`, `Settings.tagged_codeRegion` — the tags in the regions.
* `fragments_eq_ok` — the fragments of files that can be read.
* `published_renderFiles` — **no character of a file or of its name becomes markup.**
-/

namespace Marginalia

open Html (Tagged Vocabulary)

/-! ### Regions -/

namespace Settings

/-- The tags that the hook for comments may write. -/
def commentVocabulary (s : Settings) : Vocabulary := if s.markdown then .prose else .empty

/-- The tags that the hook for code may write. -/
def codeVocabulary (s : Settings) : Vocabulary := if s.highlight then .listing else .empty

/-- The tags in the region of the comments `t`: those of the elements of a document. -/
def commentTags (s : Settings) (t : Text) : List Text :=
  if s.markdown && !t.isEmpty then
    Html.Node.elementTagsAll (Markdown.Block.nodesList (Markdown.read .all t))
  else []

/-- The tags in the region of the code `t`: those around all of it. -/
def codeTags (s : Settings) (t : Text) : List Text :=
  if s.highlight && !(Code.trim t).isEmpty then [Hook.span.opening, Hook.span.closing] else []

variable (s : Settings) (p : Path) (pen : Highlighter)

theorem tagged_comment (t : Text) (ht : t.isEmpty = false) :
    Tagged s.commentVocabulary ((s.rendererFor p pen).comment t) (s.commentTags t) := by
  unfold commentVocabulary commentTags rendererFor
  cases hmarkdown : s.markdown with
  | true => simpa [ht] using Hook.tagged_markdown .all t
  | false => simpa using Hook.tagged_escape .empty t

theorem tagged_code {pen : Highlighter} (hpen : pen.Unmarked) (t : Text)
    (ht : (Code.trim t).isEmpty = false) :
    Tagged s.codeVocabulary ((s.rendererFor p pen).code (Code.trim t)) (s.codeTags t) := by
  unfold codeVocabulary codeTags rendererFor
  cases hhighlight : s.highlight with
  | true => simpa [ht, hpen.hook_eq] using Hook.tagged_highlight (Code.trim t)
  | false => simpa using Hook.tagged_escape .empty (Code.trim t)

/-- The tags in a comment region are those that the hook has written. -/
theorem tagged_commentRegion (t : Text) :
    Tagged s.commentVocabulary (Fragment.commentRegion (s.rendererFor p pen).comment t)
      (s.commentTags t) := by
  have hplaceholder : Tagged s.commentVocabulary emptyComment [] := by
    unfold emptyComment
    exact .of_flat (by decide)
  unfold Fragment.commentRegion
  cases hempty : t.isEmpty with
  | true => simpa [commentTags, hempty] using hplaceholder
  | false =>
    have htagged := s.tagged_comment p pen t hempty
    cases hblank : Text.isBlank ((s.rendererFor p pen).comment t) with
    | true =>
      -- a blank text has no tags
      have hnone : s.commentTags t = [] := by
        rw [← htagged.tags_eq]
        exact Html.tags_flat (Html.flat_of_isBlank hblank)
      simpa [hnone] using hplaceholder
    | false => simpa using htagged

/-- The tags in a code region are those that the hook has written. -/
theorem tagged_codeRegion {pen : Highlighter} (hpen : pen.Unmarked) (t : Text) :
    Tagged s.codeVocabulary (Fragment.codeRegion (s.rendererFor p pen).code t)
      (s.codeTags t) := by
  unfold Fragment.codeRegion
  cases hempty : (Code.trim t).isEmpty with
  | true => simpa [codeTags, hempty] using Tagged.of_flat Html.flat_nil
  | false => simpa using s.tagged_code p hpen t hempty

end Settings

/-- The regions cannot close what they stand in. -/
structure Regions.Contained (r : Regions) : Prop where
  comments_div : ¬ "</div>".toList <:+: r.comments
  comments_section : ¬ "</section>".toList <:+: r.comments
  code_code : ¬ "</code>".toList <:+: r.code
  code_section : ¬ "</section>".toList <:+: r.code

namespace Settings

variable (s : Settings) (p : Path) {pen : Highlighter}

theorem notMem_commentVocabulary {n : Text} (hn : n ∉ Html.Names.prose.entries.map Prod.fst) :
    n ∉ s.commentVocabulary.elements.entries.map Prod.fst := by
  unfold commentVocabulary
  split
  · exact hn
  · exact List.not_mem_nil

theorem notMem_codeVocabulary {n : Text}
    (hn : n ∉ Vocabulary.listing.elements.entries.map Prod.fst) :
    n ∉ s.codeVocabulary.elements.entries.map Prod.fst := by
  unfold codeVocabulary
  split
  · exact hn
  · exact List.not_mem_nil

/-- The regions of a section cannot close what they stand in. -/
theorem contained_regions (hpen : pen.Unmarked) (x : Section) :
    (Fragment.regions (s.rendererFor p pen).comment (s.rendererFor p pen).code x).Contained := by
  have hcomments := (s.tagged_commentRegion p pen x.comments).markup
  have hcode := (s.tagged_codeRegion p hpen x.code).markup
  constructor
  · exact hcomments.not_closing (n := "div".toList) (by decide)
      (s.notMem_commentVocabulary (by decide)) (by simp)
  · exact hcomments.not_closing (n := "section".toList) (by decide)
      (s.notMem_commentVocabulary (by decide)) (by simp)
  · exact hcode.not_closing (n := "code".toList) (by decide)
      (s.notMem_codeVocabulary (by decide)) (by simp)
  · exact hcode.not_closing (n := "section".toList) (by decide)
      (s.notMem_codeVocabulary (by decide)) (by simp)

/-! ### Files -/

/-- The regions of a file with the text `source`. -/
def regions (pen : Highlighter) (source : Text) : List Regions :=
  (sectionsOf (s.markerFor p) source).map
    (Fragment.regions (s.rendererFor p pen).comment (s.rendererFor p pen).code)

/-- The tags of a file with the text `source`. -/
def fileTags (source : Text) : List Text :=
  Fragment.tagsAround ((sectionsOf (s.markerFor p) source).flatMap fun x =>
    Fragment.sectionTags (s.commentTags x.comments) (s.codeTags x.code))

/-- The tags of fragments. -/
def vocabulary : Vocabulary := (Vocabulary.frame.union s.commentVocabulary).union s.codeVocabulary

/-- The tags of pages. -/
def pageVocabulary : Vocabulary := Vocabulary.page.union s.vocabulary

theorem fragment_eq_write (source : Text) :
    (s.rendererFor p pen).fragment (.text source) = Fragment.write (s.regions p pen source) :=
  Fragment.render_eq_write _ _ _

/-- The tags in the fragment of a file are those of the frame and of the hooks. -/
theorem tagged_regions (hpen : pen.Unmarked) (source : Text) :
    Tagged s.vocabulary (Fragment.write (s.regions p pen source)) (s.fileTags p source) := by
  have hframe : Vocabulary.frame.elements.entries ⊆ s.vocabulary.elements.entries :=
    List.Subset.trans (List.subset_append_left _ _) (List.subset_append_left _ _)
  refine Fragment.tagged_write hframe ?_
  rw [regions, List.flatMap_map]
  refine Tagged.flatMap ?_
  intro x _
  exact Regions.tagged_write hframe
    (s.tagged_commentRegion p pen x.comments).union_right.union_left
    (s.tagged_codeRegion p hpen x.code).union_right

end Settings

/-- The HTML of files that have been read. -/
def Settings.body (s : Settings) (pen : Highlighter) (files : List (Path × Text)) : Text :=
  files.flatMap fun f => Fragment.write (s.regions f.1 pen f.2)

/-- The tags in the HTML of files. -/
def Settings.bodyTags (s : Settings) (files : List (Path × Text)) : List Text :=
  files.flatMap fun f => s.fileTags f.1 f.2

variable {pen : Highlighter}

theorem Settings.tagged_body (hpen : pen.Unmarked) (s : Settings) (files : List (Path × Text)) :
    Tagged s.vocabulary (s.body pen files) (s.bodyTags files) :=
  Tagged.flatMap fun f _ => s.tagged_regions f.1 hpen f.2

theorem Reader.get_eq_ok {read : Reader} {p : Path} {t : Text} (h : read.get p = .ok t) :
    read p = .ok t := by
  unfold Reader.get at h
  split at h
  · cases h
  · next u hu =>
    obtain rfl := Except.ok.inj h
    exact hu

/-- What succeeds after another step has a value of that step to go on with. -/
theorem except_bind_eq_ok {ε α β : Type} {x : Except ε α} {f : α → Except ε β} {b : β}
    (h : (x >>= f) = .ok b) : ∃ a, x = .ok a ∧ f a = .ok b := by
  cases x with
  | error e => cases h
  | ok a => exact ⟨a, rfl, h⟩

/-- The fragments of files come from texts that have been read, one for each path. -/
theorem fragments_eq_ok {read : Reader} {s : Settings} :
    ∀ {ps : List Path} {body : Text}, fragments read s ps pen = .ok body →
      ∃ files : List (Path × Text),
        files.map Prod.fst = ps ∧ (∀ f ∈ files, read f.1 = .ok f.2) ∧
          body = s.body pen files := by
  intro ps
  induction ps with
  | nil =>
    intro body h
    obtain rfl := Except.ok.inj h
    exact ⟨[], rfl, by simp, rfl⟩
  | cons p ps ih =>
    intro body h
    -- the file is read and its fragment written, and then the others are
    rw [fragments] at h
    obtain ⟨source, hsource, h⟩ := except_bind_eq_ok h
    obtain ⟨rest, hrest, h⟩ := except_bind_eq_ok h
    obtain ⟨files, hpaths, hfiles, rfl⟩ := ih hrest
    obtain rfl := Except.ok.inj h
    refine ⟨(p, source) :: files, by rw [List.map_cons, hpaths], ?_, ?_⟩
    · exact List.forall_mem_cons.mpr ⟨Reader.get_eq_ok hsource, hfiles⟩
    · rw [s.fragment_eq_write]
      rfl

/-! ### What is published -/

/-- The text `t` is markup with the tags `ts`, all of them of the vocabulary, and each opening
bracket in it begins one of them. -/
structure Html.Sound (v : Vocabulary) (t : Text) (ts : List Text) : Prop where
  nested : Html.Markup v t
  tags_eq : Html.tags t = ts
  isTag : ∀ tag ∈ ts, v.IsTag tag
  bracket : ∀ a b, t = a ++ '<' :: b → ∃ tag ∈ ts, tag <+: '<' :: b

theorem Html.Tagged.sound {v : Vocabulary} {t : Text} {ts : List Text} (h : Tagged v t ts) :
    Html.Sound v t ts :=
  ⟨h.markup, h.tags_eq, h.isTag, fun _ _ ht => h.exists_tag ht⟩

/-- The HTML `out` of files, each given by its path and its text, has no markup but that of
the frame and of the hooks. -/
structure Published (pen : Highlighter) (s : Settings) (files : List (Path × Text))
    (out : Text) : Prop where
  comments : ∀ f ∈ files, ∀ x ∈ sectionsOf (s.markerFor f.1) f.2,
    Html.Sound s.commentVocabulary
      (Fragment.commentRegion (s.rendererFor f.1 pen).comment x.comments) (s.commentTags x.comments)
  code : ∀ f ∈ files, ∀ x ∈ sectionsOf (s.markerFor f.1) f.2,
    Html.Sound s.codeVocabulary
      (Fragment.codeRegion (s.rendererFor f.1 pen).code x.code) (s.codeTags x.code)
  contained : ∀ f ∈ files, ∀ r ∈ s.regions f.1 pen f.2, r.Contained
  fragments : s.standalone = false →
    out = s.body pen files ∧ Html.Sound s.vocabulary out (s.bodyTags files)
  /-- Outside of its style a page is like that as well, and the style ends where it should. -/
  page : s.standalone = true → ∃ title stylesheet,
    title = pageTitle (files.map Prod.fst) ∧ s.stylesheet pen = .ok stylesheet ∧
    out = Page.doctype ++ Page.front title ++ Page.style stylesheet ++
      Page.back (s.body pen files) ∧
    Html.Sound s.pageVocabulary (Page.front title ++ Page.back (s.body pen files))
      (Page.tagsAround (s.bodyTags files)) ∧
    Html.Flat (Page.style stylesheet) ∧
    ¬ "</title>".toList <:+: Html.escape title

theorem Settings.flat_style (hpen : pen.Unmarked) {s : Settings} {stylesheet : Option Text}
    (h : s.stylesheet pen = .ok stylesheet) : Html.Flat (Page.style stylesheet) := by
  refine Html.flat_append.mpr ⟨Page.flat_layout, ?_⟩
  unfold Settings.stylesheet at h
  split at h
  · split at h
    · cases h
    · next theme _ =>
      obtain rfl := Except.ok.inj h
      exact hpen.flat_stylesheet theme
  · obtain rfl := Except.ok.inj h
    exact Html.flat_nil

/-- A page of files is markup outside of its style. -/
theorem Settings.tagged_page (hpen : pen.Unmarked) (s : Settings) (title : Text)
    (files : List (Path × Text)) :
    Tagged s.pageVocabulary (Page.front title ++ Page.back (s.body pen files))
      (Page.tagsAround (s.bodyTags files)) :=
  Page.tagged_around (List.subset_append_left _ _) (List.subset_append_left _ _) title
    (s.tagged_body hpen files).union_right

theorem Page.notInfix_title (title : Text) : ¬ "</title>".toList <:+: Html.escape title := by
  have hmarkup : Html.Markup .empty (Html.escape title) :=
    .of_flat (Html.quotable_escape title).flat
  exact hmarkup.not_closing (n := "title".toList) (by decide) List.not_mem_nil (by simp)

/-- **No character of a file or of its name becomes markup**, where code is highlighted as plain
text.  When files are published, each opening bracket in the HTML begins a tag of the frame or
one that a hook has written, no value of an attribute ends early, elements are nested, and no
region closes what it stands in. -/
theorem published_renderFiles :
    ∀ pen : Highlighter, pen.Unmarked →
      ∀ (read : Reader) (s : Settings) (ps : List Path) (out : Text),
        renderFiles read s ps pen = .ok out →
          ∃ files : List (Path × Text),
            files.map Prod.fst = ps ∧ (∀ f ∈ files, read f.1 = .ok f.2) ∧
              Published pen s files out := by
  intro pen hpen read s ps out h
  rw [renderFiles] at h
  obtain ⟨body, hbody, h⟩ := except_bind_eq_ok h
  obtain ⟨files, rfl, hfiles, rfl⟩ := fragments_eq_ok hbody
  refine ⟨files, rfl, hfiles, ?_⟩
  constructor
  case comments =>
    intro f _ x _
    exact (s.tagged_commentRegion f.1 pen x.comments).sound
  case code =>
    intro f _ x _
    exact (s.tagged_codeRegion f.1 hpen x.code).sound
  case contained =>
    intro f _ r hr
    obtain ⟨x, -, rfl⟩ := List.mem_map.mp hr
    exact s.contained_regions f.1 hpen x
  case fragments =>
    intro hstandalone
    rw [if_neg (by simp [hstandalone])] at h
    obtain rfl := Except.ok.inj h
    exact ⟨rfl, (s.tagged_body hpen files).sound⟩
  case page =>
    intro hstandalone
    rw [if_pos hstandalone] at h
    obtain ⟨stylesheet, hstylesheet, h⟩ := except_bind_eq_ok h
    obtain rfl := Except.ok.inj h
    exact ⟨_, stylesheet, rfl, hstylesheet, Page.write_eq _, (s.tagged_page hpen _ files).sound,
      Settings.flat_style hpen hstylesheet, Page.notInfix_title _⟩

/-- A page of a file whose name, comments and code all hold tags. -/
theorem published_renderFiles_page :
    Highlighter.plainText.Unmarked ∧
    ∃ out files,
      renderFiles (fun _ => .ok "// </div> <b>\nx </code> y\n".toList)
        { highlight := false, standalone := true } [⟨"</title>.rs".toList⟩] = .ok out ∧
      files = [(⟨"</title>.rs".toList⟩, "// </div> <b>\nx </code> y\n".toList)] ∧
      Published .plainText { highlight := false, standalone := true } files out := by
  refine ⟨Highlighter.unmarked_plainText, ?_⟩
  obtain ⟨files, hpaths, hread, hpublished⟩ := published_renderFiles _
    Highlighter.unmarked_plainText (fun _ => .ok "// </div> <b>\nx </code> y\n".toList)
    { highlight := false, standalone := true } [⟨"</title>.rs".toList⟩] _ rfl
  refine ⟨_, files, rfl, ?_, hpublished⟩
  obtain ⟨f, rfl⟩ : ∃ f, files = [f] := by
    simpa [List.length_eq_one_iff] using congrArg List.length hpaths
  have hpath : f.1 = ⟨"</title>.rs".toList⟩ := (List.cons.inj hpaths).1
  have htext : "// </div> <b>\nx </code> y\n".toList = f.2 := Except.ok.inj (hread f (by simp))
  rw [htext, ← hpath]

end Marginalia
