import Marginalia.Page
import Marginalia.Proofs.Escaping
import Marginalia.Theme

/-!
# The content of a style element

What stands in a style element is not escaped.  It is the layout and the stylesheet of a
theme, and none of them holds an angle bracket, so that the element ends where the page ends
it.

## Main definitions

* `Stylesheet.isBracketless` — a string whose bytes are not those of angle brackets.
* `Stylesheet.isClean` — a stylesheet made of such strings.

## Main results

* `Page.flat_layout`, `Theme.flat_stylesheet` — **no angle bracket stands in the layout or
  in the stylesheet of a theme.**
-/

namespace Marginalia
namespace Stylesheet

open Html (Flat flat_append)

/-! ### Strings -/

/-- No byte of the string is that of an angle bracket. -/
def isBracketless (s : String) : Bool :=
  s.toByteArray.data.toList.all fun b => b != 60 && b != 62

theorem flat_of_isBracketless {s : String} (h : isBracketless s = true) : Flat s.toList := by
  -- the bytes of a character are among those of the string
  have hbytes : ∀ c ∈ s.toList, ∀ b ∈ String.utf8EncodeChar c, b ≠ 60 ∧ b ≠ 62 := by
    intro c hc b hb
    rw [isBracketless, ← String.utf8Encode_toList, List.utf8Encode, List.data_toByteArray,
      List.all_eq_true] at h
    have hmem : b ∈ s.toList.flatMap String.utf8EncodeChar := List.mem_flatMap.mpr ⟨c, hc, hb⟩
    simpa using h b hmem
  intro c hc
  constructor
  · rintro rfl
    exact (hbytes '<' hc 60 (by decide)).1 rfl
  · rintro rfl
    exact (hbytes '>' hc 62 (by decide)).2 rfl

theorem flat_join {ss : List String} (h : ∀ s ∈ ss, Flat s.toList) :
    Flat (String.join ss).toList := by
  intro c hc
  rw [String.toList_join] at hc
  obtain ⟨s, hs, hcs⟩ := List.mem_flatMap.mp hc
  exact h s hs c hcs

/-! ### Rules -/

/-- A rule made of strings without angle brackets. -/
def Rule.isClean (r : Rule) : Bool :=
  isBracketless r.selector && isBracketless r.ink && isBracketless r.paper

theorem flat_declare {property colour : String} (hproperty : Flat property.toList)
    (hcolour : Flat colour.toList) : Flat (declare property colour).toList := by
  have hspace : Flat " ".toList := by decide
  have hcolon : Flat ": ".toList := by decide
  have hend : Flat ";\n".toList := by decide
  unfold declare
  split
  · decide
  · simp only [String.toList_append, flat_append]
    exact ⟨⟨⟨⟨hspace, hproperty⟩, hcolon⟩, hcolour⟩, hend⟩

theorem flat_declare_face (f : Face) : Flat f.declare.toList := by
  unfold Face.declare
  cases f
  · exact flat_of_isBracketless (by decide +kernel)
  · exact flat_of_isBracketless (by decide +kernel)

theorem Rule.flat_write {r : Rule} (h : r.isClean = true) : Flat r.write.toList := by
  rw [Rule.isClean, Bool.and_eq_true, Bool.and_eq_true] at h
  obtain ⟨⟨hselector, hink⟩, hpaper⟩ := h
  have hopen : Flat " \x7b\n".toList := by decide
  have hclose : Flat "\x7d\n".toList := by decide
  have hcolour : Flat "color".toList := by decide
  have hbackground : Flat "background-color".toList := flat_of_isBracketless (by decide +kernel)
  have hfaces : ∀ s ∈ r.faces.map Face.declare, Flat s.toList := by
    intro s hs
    obtain ⟨f, -, rfl⟩ := List.mem_map.mp hs
    exact flat_declare_face f
  simp only [Rule.write, String.toList_append, flat_append]
  exact ⟨⟨⟨⟨⟨flat_of_isBracketless hselector, hopen⟩,
    flat_declare hcolour (flat_of_isBracketless hink)⟩,
    flat_declare hbackground (flat_of_isBracketless hpaper)⟩, flat_join hfaces⟩, hclose⟩

/-! ### Stylesheets -/

/-- A stylesheet made of strings without angle brackets. -/
def isClean (s : Stylesheet) : Bool :=
  isBracketless s.title && isBracketless s.ink && isBracketless s.paper && s.rules.all Rule.isClean

theorem flat_write {s : Stylesheet} (h : s.isClean = true) : Flat s.write := by
  simp only [isClean, Bool.and_eq_true, List.all_eq_true] at h
  obtain ⟨⟨⟨htitle, hink⟩, hpaper⟩, hrules⟩ := h
  have hcode : Rule.isClean ⟨".code", s.ink, s.paper, []⟩ = true := by
    have hselector : isBracketless ".code" = true := by decide +kernel
    simp [Rule.isClean, hselector, hink, hpaper]
  have hopen : Flat "/*\n * theme \"".toList := flat_of_isBracketless (by decide +kernel)
  have hclose : Flat "\" generated by syntect\n */\n\n".toList :=
    flat_of_isBracketless (by decide +kernel)
  have hnewline : Flat "\n".toList := by decide
  have hall : ∀ t ∈ s.rules.map Rule.write, Flat t.toList := by
    intro t ht
    obtain ⟨r, hr, rfl⟩ := List.mem_map.mp ht
    exact Rule.flat_write (hrules r hr)
  simp only [write, String.toList_append, flat_append]
  exact ⟨⟨⟨⟨⟨hopen, flat_of_isBracketless htitle⟩, hclose⟩, Rule.flat_write hcode⟩, hnewline⟩,
    flat_join hall⟩

end Stylesheet

/-- No angle bracket stands in the stylesheet of a theme. -/
theorem Theme.flat_stylesheet (t : Theme) : Html.Flat t.stylesheet := by
  unfold stylesheet
  cases t with
  | _ => exact Stylesheet.flat_write (by decide +kernel)

/-- No angle bracket stands in the layout. -/
theorem Page.flat_layout : Html.Flat layout := by
  unfold layout
  exact Stylesheet.flat_of_isBracketless (by decide +kernel)

end Marginalia
