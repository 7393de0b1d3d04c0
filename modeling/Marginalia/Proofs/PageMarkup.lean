import Marginalia.Proofs.HookMarkup
import Marginalia.Proofs.Regions
import Marginalia.Proofs.Styles

/-!
# The frame of a page

The pieces around the regions of a fragment, and around the body of a page, are tags of a
fixed vocabulary.

## Main definitions

* `Fragment.sectionTags`, `Fragment.tagsAround`, `Page.tagsAround` — the tags of a section,
  of a fragment and of a page, given those inside.
* `Html.Vocabulary.frame`, `Html.Vocabulary.page` — the tags of fragments and pages.
* `Page.front`, `Page.style`, `Page.back` — a page in three pieces.

## Main results

* `Regions.tagged_write`, `Fragment.tagged_write` — a fragment is markup if its regions are.
* `Page.write_eq` — a page is its type, its front, its style and its back.
* `Page.tagged_around` — **a page without its style is markup if its body is.**
-/

namespace Marginalia

open Html (Tag Tagged Vocabulary)

/-! ### Sections and fragments -/

namespace Fragment

/-- What the tag around a fragment says. -/
def litTag : Tag := ⟨"div".toList, [⟨"class".toList, "lit".toList⟩]⟩

/-- What the tag around a section says. -/
def sectionTag : Tag := ⟨"section".toList, []⟩

/-- What the tag around a comment region says. -/
def commentTag : Tag := ⟨"div".toList, [⟨"class".toList, "lit-comment".toList⟩]⟩

/-- What the tag around a code region says. -/
def codeTag : Tag := ⟨"code".toList, [⟨"class".toList, "lit-code".toList⟩]⟩

/-- The tags of a section, given those of its regions. -/
def sectionTags (comments code : List Text) : List Text :=
  [sectionTag.opening, commentTag.opening] ++ comments ++
    [commentTag.closing, codeTag.opening] ++ code ++ [codeTag.closing, sectionTag.closing]

/-- The tags of a fragment, given those of its sections. -/
def tagsAround (sections : List Text) : List Text :=
  litTag.opening :: sections ++ [litTag.closing]

end Fragment

/-- The elements of fragments. -/
def Html.Vocabulary.frame : Vocabulary where
  elements :=
    ⟨[("div".toList, ["class".toList]), ("section".toList, []), ("code".toList, ["class".toList])],
      by decide⟩
  voids := .none

section Frame

variable {v : Vocabulary} (hv : Vocabulary.frame.elements.entries ⊆ v.elements.entries)

include hv

theorem Fragment.allows_litTag : v.elements.Allows Fragment.litTag := by
  refine Html.Names.Allows.mono hv (Html.Names.allows_single ?_ (List.mem_singleton_self _) ?_)
  · exact List.mem_cons_self
  · decide

theorem Fragment.allows_commentTag : v.elements.Allows Fragment.commentTag := by
  refine Html.Names.Allows.mono hv (Html.Names.allows_single ?_ (List.mem_singleton_self _) ?_)
  · exact List.mem_cons_self
  · decide

theorem Fragment.allows_sectionTag : v.elements.Allows Fragment.sectionTag := by
  have hlisted : ("section".toList, []) ∈ Vocabulary.frame.elements.entries :=
    List.mem_cons_of_mem _ List.mem_cons_self
  exact Html.Names.Allows.mono hv (Html.Names.allows_bare hlisted)

theorem Fragment.allows_codeTag : v.elements.Allows Fragment.codeTag := by
  refine Html.Names.Allows.mono hv (Html.Names.allows_single ?_ (List.mem_singleton_self _) ?_)
  · exact List.mem_cons_of_mem _ (List.mem_cons_of_mem _ List.mem_cons_self)
  · decide

/-- A section is markup if its regions are. -/
theorem Regions.tagged_write {r : Regions} {cs ks : List Text} (hcomments : Tagged v r.comments cs)
    (hcode : Tagged v r.code ks) : Tagged v r.write (Fragment.sectionTags cs ks) := by
  have hnewline : Tagged v ['\n'] [] := .of_flat (by decide)
  have hdiv := Tagged.element (Fragment.allows_commentTag hv)
    ((hnewline.append hcomments).append hnewline)
  have hlisting := Tagged.element (Fragment.allows_codeTag hv)
    ((hnewline.append hcode).append hnewline)
  have hsection := (Tagged.element (Fragment.allows_sectionTag hv)
    ((((hnewline.append hdiv).append hnewline).append hlisting).append hnewline)).append hnewline
  have hwrite : r.write = Fragment.sectionTag.opening ++
      (['\n'] ++ (Fragment.commentTag.opening ++ (['\n'] ++ r.comments ++ ['\n']) ++
        Fragment.commentTag.closing) ++ ['\n'] ++ (Fragment.codeTag.opening ++
          (['\n'] ++ r.code ++ ['\n']) ++ Fragment.codeTag.closing) ++ ['\n']) ++
            Fragment.sectionTag.closing ++ ['\n'] := by
    unfold write Fragment.sectionTag Fragment.commentTag Fragment.codeTag
    simp [Tag.opening, Tag.closing, Tag.inside, Html.Attribute.write]
  rw [hwrite, Fragment.sectionTags]
  simpa using hsection

/-- A fragment is markup if its sections are. -/
theorem Fragment.tagged_write {rs : List Regions} {ts : List Text}
    (h : Tagged v (rs.flatMap Regions.write) ts) : Tagged v (write rs) (tagsAround ts) := by
  have hnewline : Tagged v ['\n'] [] := .of_flat (by decide)
  have hdiv := (Tagged.element (allows_litTag hv) (hnewline.append h)).append hnewline
  have hwrite : write rs =
      litTag.opening ++ (['\n'] ++ rs.flatMap Regions.write) ++ litTag.closing ++ ['\n'] := by
    unfold write opening closing litTag
    simp [Tag.opening, Tag.closing, Tag.inside, Html.Attribute.write]
  rw [hwrite, tagsAround]
  simpa using hdiv

end Frame

/-! ### Pages -/

/-- The names in the frame of a page. -/
def Html.Vocabulary.page : Vocabulary where
  elements :=
    ⟨[("html".toList, []), ("head".toList, []), ("title".toList, []), ("style".toList, []),
      ("body".toList, [])], by decide⟩
  voids := ⟨[("meta".toList, ["charset".toList])], by decide⟩

namespace Page

/-- The line that says what kind of document a page is. -/
def doctype : Text := "<!DOCTYPE html>\n".toList

/-- A page between that line and its style. -/
def front (title : Text) : Text :=
  "<html>\n<head>\n<meta charset=\"utf-8\">\n<title>".toList ++ Html.escape title ++
    "</title>\n<style>\n".toList

/-- The style of a page. -/
def style (stylesheet : Option Text) : Text := layout ++ stylesheet.getD []

/-- A page after its style. -/
def back (body : Text) : Text :=
  "</style>\n</head>\n<body>\n".toList ++ body ++ "</body>\n</html>\n".toList

theorem write_eq (p : Page) :
    p.write = doctype ++ front p.title ++ style p.stylesheet ++ back p.body := by
  have hstart : "<!DOCTYPE html>\n<html>\n<head>\n<meta charset=\"utf-8\">\n<title>" =
      "<!DOCTYPE html>\n" ++ "<html>\n<head>\n<meta charset=\"utf-8\">\n<title>" := by
    decide +kernel
  unfold write doctype front style back
  rw [hstart, String.toList_append]
  simp only [List.append_assoc]

/-- What a stylesheet adds to a page can be told from the page. -/
theorem write_eq_write_iff (title body : Text) (stylesheet stylesheet' : Option Text) :
    write ⟨title, body, stylesheet⟩ = write ⟨title, body, stylesheet'⟩ ↔
      stylesheet.getD [] = stylesheet'.getD [] := by
  rw [write_eq, write_eq, List.append_left_inj, List.append_right_inj]
  exact List.append_right_inj layout

/-! ### Its tags -/

/-- What the tag around a page says. -/
def htmlTag : Tag := ⟨"html".toList, []⟩

/-- What the tag around the head says. -/
def headTag : Tag := ⟨"head".toList, []⟩

/-- What the tag that names the encoding says. -/
def metaTag : Tag := ⟨"meta".toList, [⟨"charset".toList, "utf-8".toList⟩]⟩

/-- What the tag around the title says. -/
def titleTag : Tag := ⟨"title".toList, []⟩

/-- What the tag around the style says. -/
def styleTag : Tag := ⟨"style".toList, []⟩

/-- What the tag around the body says. -/
def bodyTag : Tag := ⟨"body".toList, []⟩

/-- The tags of a page, given those of its body. -/
def tagsAround (body : List Text) : List Text :=
  [htmlTag.opening, headTag.opening, metaTag.void [], titleTag.opening, titleTag.closing,
    styleTag.opening, styleTag.closing, headTag.closing, bodyTag.opening] ++ body ++
    [bodyTag.closing, htmlTag.closing]

theorem around_eq (title body : Text) :
    front title ++ back body =
      htmlTag.opening ++ (['\n'] ++
        (headTag.opening ++ (['\n'] ++ metaTag.void [] ++ ['\n'] ++
          (titleTag.opening ++ Html.escape title ++ titleTag.closing) ++ ['\n'] ++
          (styleTag.opening ++ ['\n'] ++ styleTag.closing) ++ ['\n']) ++ headTag.closing) ++
        ['\n'] ++ (bodyTag.opening ++ (['\n'] ++ body) ++ bodyTag.closing) ++ ['\n']) ++
      htmlTag.closing ++ ['\n'] := by
  unfold front back htmlTag headTag metaTag titleTag styleTag bodyTag
  simp [Tag.opening, Tag.closing, Tag.void, Tag.inside, Html.Attribute.write]

/-- **A page without its style is markup if its body is.** -/
theorem tagged_around {v : Vocabulary}
    (helements : Vocabulary.page.elements.entries ⊆ v.elements.entries)
    (hvoids : Vocabulary.page.voids.entries ⊆ v.voids.entries) (title : Text) {body : Text}
    {ts : List Text} (h : Tagged v body ts) :
    Tagged v (front title ++ back body) (tagsAround ts) := by
  have hbare : ∀ {name : Text}, (name, []) ∈ Vocabulary.page.elements.entries →
      v.elements.Allows ⟨name, []⟩ :=
    fun hname => Html.Names.Allows.mono helements (Html.Names.allows_bare hname)
  have hcharset : v.voids.Allows metaTag :=
    Html.Names.Allows.mono hvoids
      (Html.Names.allows_single List.mem_cons_self List.mem_cons_self (by decide))
  have hnewline : Tagged v ['\n'] [] := .of_flat (by decide)
  -- the elements of the page from the inside to the outside
  have hmeta : Tagged v (metaTag.void []) _ := .void hcharset List.mem_cons_self
  have htitle : Tagged v (titleTag.opening ++ Html.escape title ++ titleTag.closing) _ :=
    .element (hbare (by simp [Vocabulary.page])) (.of_flat (Html.quotable_escape title).flat)
  have hstyle : Tagged v (styleTag.opening ++ ['\n'] ++ styleTag.closing) _ :=
    .element (hbare (by simp [Vocabulary.page])) hnewline
  have hhead : Tagged v (headTag.opening ++ _ ++ headTag.closing) _ :=
    .element (hbare (by simp [Vocabulary.page]))
      ((((((hnewline.append hmeta).append hnewline).append htitle).append hnewline).append
        hstyle).append hnewline)
  have hbody : Tagged v (bodyTag.opening ++ (['\n'] ++ body) ++ bodyTag.closing) _ :=
    .element (hbare (by simp [Vocabulary.page])) (hnewline.append h)
  have hhtml : Tagged v (htmlTag.opening ++ _ ++ htmlTag.closing) _ :=
    .element (hbare (by simp [Vocabulary.page]))
      ((((hnewline.append hhead).append hnewline).append hbody).append hnewline)
  rw [around_eq, tagsAround]
  simpa using hhtml.append hnewline

end Page
end Marginalia
