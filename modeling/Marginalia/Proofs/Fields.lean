import Mathlib.Data.Option.Basic
import Mathlib.Logic.Function.Basic
import Marginalia.Settings

/-!
# The fields of the settings

A settings file gives its fields one by one, and each field has a key and a type.  Settings are
no more than the values of their fields.

## Main definitions

* `Settings.Field` — the fields, with their keys and their types.
* `Settings.value?` — the value of a field, as a file spells it.
* `Settings.restrict` — settings with the defaults in all but some fields.
* `Settings.Made` — a field is what the keys at the top of a document make it.

## Main results

* `Settings.ext_value?` — settings with the same values in all fields are the same.
* `Settings.ofMembers?_eq_some_iff` — **keys make settings field by field.**
* `Settings.exists_ofMembers?` — they do so whenever each has a value of the right type.
-/

namespace Marginalia
namespace Settings

open Toml

/-! ### Fields -/

/-- The settings that a file can make. -/
inductive Field where
  /-- The marker of comments. -/
  | marker
  /-- Whether comments are formatted. -/
  | markdown
  /-- Whether code is highlighted. -/
  | highlight
  /-- The theme of a complete page. -/
  | theme
  /-- Whether a complete page is made. -/
  | standalone
  deriving DecidableEq

namespace Field

/-- The key of a field. -/
def name : Field → Text
  | .marker => "comment_marker".toList
  | .markdown => "markdown".toList
  | .highlight => "highlight".toList
  | .theme => "theme".toList
  | .standalone => "standalone".toList

/-- All fields. -/
def all : List Field := [.marker, .markdown, .highlight, .theme, .standalone]

theorem mem_all (f : Field) : f ∈ all := by cases f <;> decide

/-- Whether a value has the type of a field. -/
def accepts : Field → Value → Bool
  | .marker, .string _ => true
  | .theme, .string _ => true
  | .markdown, .boolean _ => true
  | .highlight, .boolean _ => true
  | .standalone, .boolean _ => true
  | _, _ => false

theorem name_injective : Function.Injective name := by
  intro f g h
  cases f <;> cases g <;> first | rfl | exact absurd h (by decide)

theorem name_ne_nil (f : Field) : f.name ≠ [] := by cases f <;> decide

theorem isKeyChar_of_mem_name (f : Field) : ∀ c ∈ f.name, isKeyChar c := by
  have hall : f.name.all isKeyChar = true := by cases f <;> rfl
  exact List.all_eq_true.mp hall

end Field

/-- The value of a field, as a file spells it.  No marker has no spelling. -/
def value? (s : Settings) : Field → Option Value
  | .marker => s.marker.map .string
  | .markdown => some (.boolean s.markdown)
  | .highlight => some (.boolean s.highlight)
  | .theme => some (.string s.theme)
  | .standalone => some (.boolean s.standalone)

theorem accepts_of_value? {s : Settings} {f : Field} {v : Value} (h : s.value? f = some v) :
    f.accepts v := by
  cases f with
  | marker =>
    obtain ⟨t, -, rfl⟩ := Option.map_eq_some_iff.1 h
    rfl
  | markdown | highlight | theme | standalone => cases h; rfl

theorem value?_default_of_none {s : Settings} {f : Field} (h : s.value? f = none) :
    ({} : Settings).value? f = none := by
  cases f <;> first | rfl | cases h

theorem ext_value? {s s' : Settings} (h : ∀ f, s.value? f = s'.value? f) : s = s' := by
  obtain ⟨marker, markdown, highlight, theme, standalone⟩ := s
  obtain ⟨marker', markdown', highlight', theme', standalone'⟩ := s'
  have hmarker : marker = marker' :=
    Option.map_injective (fun _ _ h => Value.string.inj h) (h .marker)
  have hmarkdown := h .markdown
  have hhighlight := h .highlight
  have htheme := h .theme
  have hstandalone := h .standalone
  simp [value?] at hmarkdown hhighlight htheme hstandalone
  simp [hmarker, hmarkdown, hhighlight, htheme, hstandalone]

/-- The settings with defaults in all but some fields. -/
def restrict (s : Settings) (fs : List Field) : Settings where
  marker := if .marker ∈ fs then s.marker else ({} : Settings).marker
  markdown := if .markdown ∈ fs then s.markdown else ({} : Settings).markdown
  highlight := if .highlight ∈ fs then s.highlight else ({} : Settings).highlight
  theme := if .theme ∈ fs then s.theme else ({} : Settings).theme
  standalone := if .standalone ∈ fs then s.standalone else ({} : Settings).standalone

theorem value?_restrict (s : Settings) (fs : List Field) (f : Field) :
    (s.restrict fs).value? f = if f ∈ fs then s.value? f else ({} : Settings).value? f := by
  cases f <;> simp only [restrict, value?] <;> split <;> rfl

/-- Settings are the values of all their fields. -/
theorem restrict_all (s : Settings) : s.restrict Field.all = s :=
  ext_value? fun f => by rw [value?_restrict, if_pos f.mem_all]

/-! ### What keys make of the settings -/

/-- A field has the value of its key, or the default without it. -/
def Made (ms : Members) (s : Settings) (f : Field) : Prop :=
  (ms.get? f.name = none ∧ s.value? f = ({} : Settings).value? f) ∨
    ∃ v, ms.get? f.name = some (.value v) ∧ s.value? f = some v

theorem string?_eq_some_iff {ms : Members} {key : String} {o : Option Text} :
    string? ms key = some o ↔
      (ms.get? key.toList = none ∧ o = none) ∨
        ∃ t, ms.get? key.toList = some (.value (.string t)) ∧ o = some t := by
  unfold string?
  split
  · next hget => simp [hget, eq_comm]
  · next hget => simp [hget, eq_comm]
  · next n hn hget =>
    refine iff_of_false (by simp) ?_
    rintro (⟨hnone, -⟩ | ⟨t, hvalue, -⟩)
    · simp [hget] at hnone
    · exact hn t (by simpa [hget] using hvalue)

theorem boolean?_eq_some_iff {ms : Members} {key : String} {o : Option Bool} :
    boolean? ms key = some o ↔
      (ms.get? key.toList = none ∧ o = none) ∨
        ∃ b, ms.get? key.toList = some (.value (.boolean b)) ∧ o = some b := by
  unfold boolean?
  split
  · next hget => simp [hget, eq_comm]
  · next b hget => cases b <;> simp [hget, eq_comm]
  · next n hn hget =>
    refine iff_of_false (by simp) ?_
    rintro (⟨hnone, -⟩ | ⟨b, hvalue, -⟩)
    · simp [hget] at hnone
    · exact hn b (by simpa [hget] using hvalue)

theorem made_marker_iff {ms : Members} {s : Settings} :
    Made ms s .marker ↔ string? ms "comment_marker" = some s.marker := by
  rw [string?_eq_some_iff]
  constructor
  · rintro (⟨hnone, heq⟩ | ⟨v, hget, heq⟩)
    · exact .inl ⟨hnone, Option.map_eq_none_iff.1 heq⟩
    · obtain ⟨t, ht, rfl⟩ := Option.map_eq_some_iff.1 heq
      exact .inr ⟨t, hget, ht⟩
  · rintro (⟨hnone, heq⟩ | ⟨t, hget, heq⟩)
    · exact .inl ⟨hnone, by rw [value?, heq]; rfl⟩
    · exact .inr ⟨.string t, hget, by rw [value?, heq]; rfl⟩

theorem made_theme_iff {ms : Members} {s : Settings} :
    Made ms s .theme ↔
      ∃ o, string? ms "theme" = some o ∧ s.theme = o.getD ({} : Settings).theme := by
  simp only [string?_eq_some_iff]
  constructor
  · rintro (⟨hnone, heq⟩ | ⟨v, hget, heq⟩)
    · exact ⟨none, .inl ⟨hnone, rfl⟩, Value.string.inj (Option.some.inj heq)⟩
    · cases heq
      exact ⟨some s.theme, .inr ⟨_, hget, rfl⟩, rfl⟩
  · rintro ⟨o, ⟨hnone, rfl⟩ | ⟨t, hget, rfl⟩, heq⟩
    · exact .inl ⟨hnone, by rw [value?, heq]; rfl⟩
    · exact .inr ⟨.string t, hget, by rw [value?, heq]; rfl⟩

theorem made_boolean_iff {ms : Members} {s : Settings} {f : Field} {b d : Bool} (key : String)
    (hkey : f.name = key.toList) (hvalue : s.value? f = some (.boolean b))
    (hdefault : ({} : Settings).value? f = some (.boolean d)) :
    Made ms s f ↔ ∃ o, boolean? ms key = some o ∧ b = o.getD d := by
  unfold Made
  simp only [hkey, hvalue, hdefault, boolean?_eq_some_iff]
  constructor
  · rintro (⟨hnone, heq⟩ | ⟨v, hget, heq⟩)
    · cases heq
      exact ⟨none, .inl ⟨hnone, rfl⟩, rfl⟩
    · cases heq
      exact ⟨some b, .inr ⟨b, hget, rfl⟩, rfl⟩
  · rintro ⟨o, ⟨hnone, rfl⟩ | ⟨b', hget, rfl⟩, rfl⟩
    · exact .inl ⟨hnone, rfl⟩
    · exact .inr ⟨_, hget, rfl⟩

theorem ofMembers?_eq_some_iff {ms : Members} {s : Settings} :
    ofMembers? ms = some s ↔ ∀ f, Made ms s f := by
  have hmarkdown : Made ms s .markdown ↔ _ := made_boolean_iff "markdown" rfl rfl rfl
  have hhighlight : Made ms s .highlight ↔ _ := made_boolean_iff "highlight" rfl rfl rfl
  have hstandalone : Made ms s .standalone ↔ _ := made_boolean_iff "standalone" rfl rfl rfl
  constructor
  · intro h
    obtain ⟨a, ha, h⟩ := Option.bind_eq_some_iff.1 h
    obtain ⟨b, hb, h⟩ := Option.bind_eq_some_iff.1 h
    obtain ⟨c, hc, h⟩ := Option.bind_eq_some_iff.1 h
    obtain ⟨d, hd, h⟩ := Option.bind_eq_some_iff.1 h
    obtain ⟨e, he, h⟩ := Option.bind_eq_some_iff.1 h
    cases h
    intro f
    cases f with
    | marker => exact made_marker_iff.2 ha
    | markdown => exact hmarkdown.2 ⟨b, hb, rfl⟩
    | highlight => exact hhighlight.2 ⟨c, hc, rfl⟩
    | theme => exact made_theme_iff.2 ⟨d, hd, rfl⟩
    | standalone => exact hstandalone.2 ⟨e, he, rfl⟩
  · intro h
    have ha := made_marker_iff.1 (h .marker)
    obtain ⟨b, hb, hb'⟩ := hmarkdown.1 (h .markdown)
    obtain ⟨c, hc, hc'⟩ := hhighlight.1 (h .highlight)
    obtain ⟨d, hd, hd'⟩ := made_theme_iff.1 (h .theme)
    obtain ⟨e, he, he'⟩ := hstandalone.1 (h .standalone)
    simp [ofMembers?, ha, hb, hc, hd, he, ← hb', ← hc', ← hd', ← he']

theorem exists_string? {ms : Members} {key : String}
    (h : ∀ n, ms.get? key.toList = some n → ∃ t, n = .value (.string t)) :
    ∃ o, string? ms key = some o := by
  cases hget : ms.get? key.toList with
  | none => exact ⟨none, string?_eq_some_iff.2 (.inl ⟨hget, rfl⟩)⟩
  | some n =>
    obtain ⟨t, rfl⟩ := h n hget
    exact ⟨some t, string?_eq_some_iff.2 (.inr ⟨t, hget, rfl⟩)⟩

theorem exists_boolean? {ms : Members} {key : String}
    (h : ∀ n, ms.get? key.toList = some n → ∃ b, n = .value (.boolean b)) :
    ∃ o, boolean? ms key = some o := by
  cases hget : ms.get? key.toList with
  | none => exact ⟨none, boolean?_eq_some_iff.2 (.inl ⟨hget, rfl⟩)⟩
  | some n =>
    obtain ⟨b, rfl⟩ := h n hget
    exact ⟨some b, boolean?_eq_some_iff.2 (.inr ⟨b, hget, rfl⟩)⟩

/-- Keys make settings if all those of fields have values of their types. -/
theorem exists_ofMembers? {ms : Members}
    (h : ∀ f : Field, ∀ n, ms.get? f.name = some n → ∃ v, n = .value v ∧ f.accepts v) :
    ∃ s, ofMembers? ms = some s := by
  have hstring : ∀ f : Field, (∀ v, f.accepts v → ∃ t, v = .string t) → ∀ n,
      ms.get? f.name = some n → ∃ t, n = .value (.string t) := fun f hf n hn => by
    obtain ⟨v, rfl, hv⟩ := h f n hn
    obtain ⟨t, rfl⟩ := hf v hv
    exact ⟨t, rfl⟩
  have hboolean : ∀ f : Field, (∀ v, f.accepts v → ∃ b, v = .boolean b) → ∀ n,
      ms.get? f.name = some n → ∃ b, n = .value (.boolean b) := fun f hf n hn => by
    obtain ⟨v, rfl, hv⟩ := h f n hn
    obtain ⟨b, rfl⟩ := hf v hv
    exact ⟨b, rfl⟩
  obtain ⟨a, ha⟩ := exists_string? (hstring .marker (by rintro ⟨⟩ <;> simp [Field.accepts]))
  obtain ⟨b, hb⟩ := exists_boolean? (hboolean .markdown (by rintro ⟨⟩ <;> simp [Field.accepts]))
  obtain ⟨c, hc⟩ := exists_boolean? (hboolean .highlight (by rintro ⟨⟩ <;> simp [Field.accepts]))
  obtain ⟨d, hd⟩ := exists_string? (hstring .theme (by rintro ⟨⟩ <;> simp [Field.accepts]))
  obtain ⟨e, he⟩ := exists_boolean? (hboolean .standalone (by rintro ⟨⟩ <;> simp [Field.accepts]))
  simp [ofMembers?, ha, hb, hc, hd, he]

end Settings
end Marginalia
