import Marginalia.Proofs.Fields
import Marginalia.Proofs.TopLevel
import Marginalia.Proofs.Layout
import Marginalia.Proofs.Spelling
import Marginalia.Program

/-!
# Settings from a file

A settings file counts as a whole or not at all.  A fault in any of its lines, a contradiction
between them or a field of the wrong type leaves the defaults.  Otherwise its statements give
the fields their values, each by itself.  What a statement says depends neither on the layout
nor on the other statements, so the fields can be written in any order, with any other keys
around them.

## Main definitions

* `Settings.WellTyped` — what names a field gives it a value of its type.
* `Settings.Written` — lines that spell some fields, in their order.

## Main results

* `Settings.read?_of_invalid`, `Settings.read?_of_not_wellTyped` — a fault leaves nothing.
* `Settings.read?_of_wellTyped` — a document makes settings field by field.
* `Settings.read?_of_written` — what was written is read back.
* `settings_fieldwise` — **the settings in a folder are all of its file, or none of it.**
-/

namespace Marginalia
namespace Settings

open Toml

/-! ### What statements make of the settings -/

/-- Statements that name a field at the top give it a value of its type. -/
def WellTyped (ss : List Statement) : Prop :=
  ∀ f : Field, ∀ s ∈ topLevel ss, s.keys.head? = some f.name →
    ∃ v, s = .pair [f.name] v ∧ f.accepts v

theorem exists_of_wellTyped {ss : List Statement} {r : Reading} (hr : r.Follows ss)
    (h : WellTyped ss) : ∃ s, ofMembers? r.root = some s := by
  refine exists_ofMembers? fun f n hn => ?_
  have hnamed : f.name ∈ namedKeys ss := by
    by_contra hnone
    simp [(hr.none_iff f.name).2 hnone] at hn
  obtain ⟨s, hs, hkey⟩ := List.mem_filterMap.1 hnamed
  obtain ⟨v, rfl, hv⟩ := h f s hs hkey
  rw [(hr.value_iff f.name v).2 hs] at hn
  cases hn
  exact ⟨v, rfl, hv⟩

theorem wellTyped_of_made {ss : List Statement} {r : Reading} {s : Settings} (hr : r.Follows ss)
    (h : ∀ f, Made r.root s f) : WellTyped ss := by
  intro f st hst hkey
  have hnamed : f.name ∈ namedKeys ss := List.mem_filterMap.2 ⟨st, hst, hkey⟩
  rcases h f with ⟨hnone, -⟩ | ⟨v, hget, hvalue⟩
  · exact absurd hnamed ((hr.none_iff f.name).1 hnone)
  · exact ⟨v, hr.once f.name v ((hr.value_iff f.name v).1 hget) st hst hkey,
      accepts_of_value? hvalue⟩

theorem Made.of_follows {ss : List Statement} {r : Reading} {s : Settings} {f : Field}
    (h : Made r.root s f) (hr : r.Follows ss) :
    (∀ v, .pair [f.name] v ∈ topLevel ss → s.value? f = some v) ∧
      (f.name ∉ namedKeys ss → s.value? f = ({} : Settings).value? f) := by
  rcases h with ⟨hnone, hdefault⟩ | ⟨v, hget, hvalue⟩
  · refine ⟨fun v hv => ?_, fun _ => hdefault⟩
    rw [(hr.value_iff f.name v).2 hv] at hnone
    cases hnone
  · refine ⟨fun w hw => ?_, fun hunnamed => ?_⟩
    · rw [(hr.value_iff f.name w).2 hw] at hget
      cases hget
      exact hvalue
    · rw [(hr.none_iff f.name).2 hunnamed] at hget
      cases hget

/-! ### What a text makes of the settings -/

theorem read?_of_laid {ss : List Statement} {t : Text} {r : Reading} (h : Laid ss (dropMark t))
    (hr : ss.foldlM Reading.take .start = some r) : read? t = ofMembers? r.root := by
  have hdocument : documentOf? t = some ss := statementsOf?_eq_some_iff.2 h
  rw [read?, Toml.read?_eq, hdocument, Option.bind_some, hr]
  rfl

theorem read?_of_invalid {t : Text} (h : ∀ ss, Laid ss (dropMark t) → ¬ Consistent ss) :
    read? t = none := by
  rw [read?, Toml.read?_eq]
  cases hdocument : documentOf? t with
  | none => rfl
  | some ss =>
    cases hr : ss.foldlM Reading.take .start with
    | none => simp [hr]
    | some r => exact absurd ⟨r, hr⟩ (h ss (statementsOf?_eq_some_iff.1 hdocument))

/-- A document in which a field has the wrong type makes no settings. -/
theorem read?_of_not_wellTyped {ss : List Statement} {t : Text} (h : Laid ss (dropMark t))
    (hss : Consistent ss) (htyped : ¬ WellTyped ss) : read? t = none := by
  obtain ⟨r, hr⟩ := hss
  rw [read?_of_laid h hr]
  cases hmembers : ofMembers? r.root with
  | none => rfl
  | some s =>
    exact absurd (wellTyped_of_made (follows_of_foldlM hr) (ofMembers?_eq_some_iff.1 hmembers))
      htyped

/-- A document makes settings field by field. -/
theorem read?_of_wellTyped {ss : List Statement} {t : Text} (h : Laid ss (dropMark t))
    (hss : Consistent ss) (htyped : WellTyped ss) :
    ∃ s, read? t = some s ∧ ∀ f : Field,
      (∀ v, .pair [f.name] v ∈ topLevel ss → s.value? f = some v) ∧
        (f.name ∉ namedKeys ss → s.value? f = ({} : Settings).value? f) := by
  obtain ⟨r, hr⟩ := hss
  have hfollows := follows_of_foldlM hr
  obtain ⟨s, hs⟩ := exists_of_wellTyped hfollows htyped
  refine ⟨s, by rw [read?_of_laid h hr, hs], fun f => ?_⟩
  exact (ofMembers?_eq_some_iff.1 hs f).of_follows hfollows

/-! ### Writing fields -/

/-- Lines that spell some fields, in their order, in any way that the grammar of values has. -/
inductive Written (s : Settings) : List Field → Text → Prop where
  | nil : Written s [] []
  | unset {f : Field} {fs : List Field} {t : Text} (hvalue : s.value? f = none)
      (h : Written s fs t) : Written s (f :: fs) t
  | line {f : Field} {fs : List Field} {v : Value} {w t : Text} (hvalue : s.value? f = some v)
      (hspells : SpellsValue 0 v w) (h : Written s fs t) :
      Written s (f :: fs) (f.name ++ (" = ".toList ++ (w ++ '\n' :: t)))

/-- The statements that give some fields their values. -/
def givings (s : Settings) (fs : List Field) : List Statement :=
  fs.filterMap fun f => (s.value? f).map fun v => .pair [f.name] v

theorem Written.lines {s : Settings} {fs : List Field} {t : Text} (h : Written s fs t) :
    Lines (s.givings fs) t := by
  induction h with
  | nil => exact .nil
  | unset hvalue _ ih => simpa [givings, hvalue] using ih
  | @line f fs v w t hvalue hspells _ ih =>
    have hkey : SpellsKey [f.name] f.name := spellsKey_name f.name_ne_nil f.isKeyChar_of_mem_name
    have hspace : [' '].all isSpace := rfl
    have hrow : Row (some (.pair [f.name] v)) ([] ++ (f.name ++ ([' '] ++ '=' :: ([' '] ++ w)))) :=
      .pair rfl hkey hspace hspace hspells
    have hempty : ([] : Text).all isSpace := rfl
    have hlines := Lines.cons hrow (.space hempty) .newline ih
    simpa [givings, hvalue] using hlines

theorem exists_spells_value? {s : Settings} {f : Field} {v : Value} (h : s.value? f = some v) :
    ∃ w, SpellsValue 0 v w := by
  cases f with
  | marker =>
    obtain ⟨t, -, rfl⟩ := Option.map_eq_some_iff.1 h
    exact exists_spells_string t
  | theme => cases h; exact exists_spells_string s.theme
  | markdown => cases h; exact exists_spells_boolean s.markdown
  | highlight => cases h; exact exists_spells_boolean s.highlight
  | standalone => cases h; exact exists_spells_boolean s.standalone

/-- All fields can be written. -/
theorem exists_written (s : Settings) (fs : List Field) : ∃ t, Written s fs t := by
  induction fs with
  | nil => exact ⟨[], .nil⟩
  | cons f fs ih =>
    obtain ⟨t, ht⟩ := ih
    cases hvalue : s.value? f with
    | none => exact ⟨t, .unset hvalue ht⟩
    | some v =>
      obtain ⟨w, hw⟩ := exists_spells_value? hvalue
      exact ⟨_, .line hvalue hw ht⟩

/-! ### Reading what was written -/

section

variable (s : Settings)

/-- The keys at the top that give some fields their values. -/
def entries (fs : List Field) : Members :=
  fs.filterMap fun f => (s.value? f).map fun v => (f.name, .value v)

theorem mem_givings {fs : List Field} {st : Statement} :
    st ∈ s.givings fs ↔ ∃ f ∈ fs, ∃ v, s.value? f = some v ∧ st = .pair [f.name] v := by
  simp only [givings, List.mem_filterMap, Option.map_eq_some_iff]
  constructor
  · rintro ⟨f, hf, v, hvalue, rfl⟩
    exact ⟨f, hf, v, hvalue, rfl⟩
  · rintro ⟨f, hf, v, hvalue, rfl⟩
    exact ⟨f, hf, v, hvalue, rfl⟩

theorem givings_all_isPair (fs : List Field) : (s.givings fs).all Statement.isPair := by
  rw [List.all_eq_true]
  intro st hst
  obtain ⟨f, -, v, -, rfl⟩ := (s.mem_givings).1 hst
  rfl

theorem name_mem_of_mem_entries {fs : List Field} {k : Text}
    (h : k ∈ (s.entries fs).map (·.1)) : ∃ f ∈ fs, k = f.name := by
  simp only [entries, List.mem_map, List.mem_filterMap, Option.map_eq_some_iff] at h
  obtain ⟨m, ⟨f, hf, v, -, rfl⟩, rfl⟩ := h
  exact ⟨f, hf, rfl⟩

theorem foldlM_givings {fs : List Field} (hfs : fs.Nodup) (others : Members)
    (h : ∀ f ∈ fs, f.name ∉ others.map (·.1)) :
    (s.givings fs).foldlM Reading.take ⟨others, []⟩ = some ⟨others ++ s.entries fs, []⟩ := by
  induction fs generalizing others with
  | nil => simp [givings, entries]
  | cons f fs ih =>
    obtain ⟨hf, hfs⟩ := List.nodup_cons.1 hfs
    cases hvalue : s.value? f with
    | none =>
      have htail := ih hfs others fun g hg => h g (List.mem_cons_of_mem f hg)
      simpa [givings, entries, hvalue] using htail
    | some v =>
      have hothers : ∀ g ∈ fs, g.name ∉ (others ++ [(f.name, Node.value v)]).map (·.1) := by
        intro g hg hmem
        rcases List.mem_append.1 (List.map_append ▸ hmem) with hmem | hmem
        · exact h g (List.mem_cons_of_mem f hg) hmem
        · have heq : g = f := Field.name_injective (by simpa using hmem)
          exact hf (heq ▸ hg)
      have htail := ih hfs _ hothers
      have htake := Reading.take_new (v := v) (h f (List.mem_cons_self ..))
      simpa [givings, entries, hvalue, htake] using htail

theorem consistent_givings {fs : List Field} (hfs : fs.Nodup) {ss : List Statement}
    (hss : Consistent ss) (hunknown : ∀ f : Field, f.name ∉ namedKeys ss) :
    Consistent (s.givings fs ++ ss) := by
  obtain ⟨r, hr⟩ := hss
  refine ⟨r.onto (s.entries fs), ?_⟩
  have hgivings : (s.givings fs).foldlM Reading.take .start =
      some (Reading.start.onto (s.entries fs)) := by
    simpa [Reading.onto, Reading.start] using s.foldlM_givings hfs [] (by simp)
  rw [List.foldlM_append, hgivings]
  have hothers : ∀ key ∈ namedKeys ss, key ∉ (s.entries fs).map (·.1) := by
    intro key hkey hmem
    obtain ⟨f, -, rfl⟩ := s.name_mem_of_mem_entries hmem
    exact hunknown f hkey
  have honto := foldlM_onto hothers
  rw [hr] at honto
  exact honto

theorem topLevel_givings (fs : List Field) (ss : List Statement) :
    topLevel (s.givings fs ++ ss) = s.givings fs ++ topLevel ss :=
  topLevel_append_of_all (s.givings_all_isPair fs) ss

/-- Only what was written for a field names it. -/
theorem exists_of_named {f : Field} {fs : List Field} {ss : List Statement} {st : Statement}
    (hunknown : ∀ f : Field, f.name ∉ namedKeys ss) (hst : st ∈ topLevel (s.givings fs ++ ss))
    (hkey : st.keys.head? = some f.name) :
    f ∈ fs ∧ ∃ v, s.value? f = some v ∧ st = .pair [f.name] v := by
  rw [topLevel_givings] at hst
  rcases List.mem_append.1 hst with hst | hst
  · obtain ⟨g, hg, v, hvalue, rfl⟩ := s.mem_givings.1 hst
    obtain rfl : g = f := Field.name_injective (by simpa [Statement.keys] using hkey)
    exact ⟨hg, v, hvalue, rfl⟩
  · exact absurd (List.mem_filterMap.2 ⟨st, hst, hkey⟩) (hunknown f)

theorem wellTyped_givings (fs : List Field) {ss : List Statement}
    (hunknown : ∀ f : Field, f.name ∉ namedKeys ss) : WellTyped (s.givings fs ++ ss) := by
  intro f st hst hkey
  obtain ⟨-, v, hvalue, rfl⟩ := s.exists_of_named hunknown hst hkey
  exact ⟨v, rfl, accepts_of_value? hvalue⟩

theorem not_named {f : Field} {fs : List Field} {ss : List Statement}
    (hunknown : ∀ f : Field, f.name ∉ namedKeys ss) (h : f ∈ fs → s.value? f = none) :
    f.name ∉ namedKeys (s.givings fs ++ ss) := by
  intro hnamed
  obtain ⟨st, hst, hkey⟩ := List.mem_filterMap.1 hnamed
  obtain ⟨hf, v, hvalue, rfl⟩ := s.exists_of_named hunknown hst hkey
  rw [h hf] at hvalue
  cases hvalue

/-- A file that spells some fields, and then says what it likes about other keys, makes these
fields and no others. -/
theorem read?_of_written {fs : List Field} (hfs : fs.Nodup) {lines tail : Text}
    {ss : List Statement} (hlines : s.Written fs lines) (htail : Laid ss tail)
    (hss : Consistent ss) (hunknown : ∀ f : Field, f.name ∉ namedKeys ss) :
    read? (lines ++ tail) = some (s.restrict fs) := by
  have hlaid : Laid (s.givings fs ++ ss) (lines ++ tail) := by
    rw [← statementsOf?_eq_some_iff, statementsOf?_append hlines.lines,
      statementsOf?_eq_some_iff.2 htail]
    rfl
  -- a text that is laid out does not begin with a mark, so that none is dropped
  rw [← dropMark_of_laid hlaid] at hlaid
  obtain ⟨s', hread, hfields⟩ := read?_of_wellTyped hlaid (s.consistent_givings hfs hss hunknown)
    (s.wellTyped_givings fs hunknown)
  have hs' : s' = s.restrict fs := ext_value? fun f => by
    obtain ⟨hgiven, hdefault⟩ := hfields f
    rw [value?_restrict]
    split
    · next hf =>
      cases hvalue : s.value? f with
      | some v =>
        refine hgiven v ?_
        rw [topLevel_givings]
        exact List.mem_append_left _ (s.mem_givings.2 ⟨f, hf, v, hvalue, rfl⟩)
      | none =>
        rw [hdefault (s.not_named hunknown fun _ => hvalue)]
        exact value?_default_of_none hvalue
    · next hf => exact hdefault (s.not_named hunknown fun h => absurd h hf)
  rw [hread, hs']

end

end Settings

/-! ### The settings in a folder -/

section

open Toml Settings

/-- The settings in the working folder.  Without a text there, with a fault anywhere in it, and
with a field of the wrong type, they are the defaults.  Otherwise each field is what the
statements at the top of the document give it, and the default if they do not name it.  Lines
that spell some fields in some order, before any document that does not name a field at its
top, make these fields. -/
theorem settings_fieldwise (t : FileTree) :
    (∀ e, t.readText settingsPath = .error e → t.settings = {}) ∧
      ∀ text, t.readText settingsPath = .ok text →
        ((∀ ss, Laid ss (dropMark text) → ¬ Consistent ss) → t.settings = {}) ∧
        (∀ ss before after, Lines ss before → row? after = none →
          dropMark text = before ++ after → t.settings = {}) ∧
        (∀ ss, Laid ss (dropMark text) → Consistent ss →
          (¬ WellTyped ss → t.settings = {}) ∧
          (WellTyped ss → ∀ f : Field,
            (∀ v, .pair [f.name] v ∈ topLevel ss → t.settings.value? f = some v) ∧
              (f.name ∉ namedKeys ss → t.settings.value? f = ({} : Settings).value? f))) ∧
        (∀ (s : Settings) (fs : List Field) (lines tail : Text) (ss : List Statement), fs.Nodup →
          s.Written fs lines → Laid ss tail → Consistent ss →
          (∀ f : Field, f.name ∉ namedKeys ss) → text = lines ++ tail →
          t.settings = s.restrict fs) := by
  refine ⟨fun e he => by simp [FileTree.settings, he, ofFile], fun text htext => ?_⟩
  have hsettings : t.settings = (Settings.read? text).getD {} := by
    simp [FileTree.settings, htext, ofFile]
  refine ⟨fun hinvalid => ?_, fun ss before after hlines hfault htext => ?_,
    fun ss hlaid hss => ⟨fun htyped => ?_, fun htyped => ?_⟩,
    fun s fs lines tail ss hfs hlines htail hss hunknown htext => ?_⟩
  · rw [hsettings, read?_of_invalid hinvalid]
    rfl
  · rw [hsettings, read?_of_invalid fun ss hlaid => ?_]
    · rfl
    · rw [htext] at hlaid
      have hread := statementsOf?_of_laid hlaid
      rw [statementsOf?_append hlines, statementsOf?_of_fault hfault] at hread
      cases hread
  · rw [hsettings, read?_of_not_wellTyped hlaid hss htyped]
    rfl
  · obtain ⟨s, hread, hfields⟩ := read?_of_wellTyped hlaid hss htyped
    rw [hsettings, hread]
    exact hfields
  · rw [hsettings, htext, s.read?_of_written hfs hlines htail hss hunknown]
    rfl

/-- A folder with nothing but a settings file. -/
def FileTree.configured (text : Text) : FileTree :=
  ⟨[(["lit.toml".toList], .file text.encode)], []⟩

/-- A line with a fault takes the line before it along.  A string is what it spells, and a key
in a table is not that of a field. -/
theorem settings_fieldwise_table :
    (FileTree.configured "markdown = false\ntheme = [not toml\n".toList).settings = {} ∧
      (FileTree.configured
        "standalone = true\ntheme = \"a\\\"\\u0062\"\n[x]\ntheme = false # no\n".toList).settings =
          { theme := "a\"b".toList, standalone := true } := by
  have hbefore := Written.line (s := { markdown := false }) (f := .markdown) rfl
    (spellsValue_boolean false) .nil
  have hfault : row? "theme = [not toml\n".toList = none :=
    Option.isNone_iff_eq_none.1 (by decide +kernel)
  have hspells : SpellsText "a\"b".toList "a\\\"\\u0062".toList :=
    .plain rfl (by decide) (by decide) (.escape (.named rfl) (.escape (.short rfl) .nil))
  have hlines := Written.line (s := { theme := "a\"b".toList, standalone := true })
    (f := .standalone) rfl (spellsValue_boolean true) (.line (f := .theme) rfl hspells.value .nil)
  have htail : Laid [.table ["x".toList], .pair ["theme".toList] (.boolean false)]
      "[x]\ntheme = false # no\n".toList := by
    have hnone : ([] : Text).all isSpace := rfl
    have hspace : [' '].all isSpace := rfl
    have hx : SpellsKey ["x".toList] "x".toList :=
      spellsKey_name (by decide) (List.all_eq_true.1 rfl)
    have htheme : SpellsKey ["theme".toList] "theme".toList :=
      spellsKey_name Field.theme.name_ne_nil Field.theme.isKeyChar_of_mem_name
    have hhead : Row (some (.table ["x".toList])) "[x]".toList := .table hnone hnone hx hnone
    have hpair : Row (some (.pair ["theme".toList] (.boolean false))) "theme = false".toList :=
      .pair hnone htheme hspace hspace (spellsValue_boolean false)
    have hremark : Trailing " # no".toList := .comment hspace (c := " no".toList) rfl
    exact .last (.cons hhead (.space hnone) .newline (.cons hpair hremark .newline .nil))
      (.blank hnone) (.space hnone)
  have hunknown : ∀ f : Field,
      f.name ∉ namedKeys [.table ["x".toList], .pair ["theme".toList] (.boolean false)] := by
    intro f
    cases f <;> decide
  constructor
  · exact ((settings_fieldwise (FileTree.configured _)).2 _ rfl).2.1 _ _ _ hbefore.lines hfault
      (by decide)
  · exact ((settings_fieldwise (FileTree.configured _)).2 _ rfl).2.2.2 _ _ _ _ _ (by decide) hlines
      htail ⟨_, rfl⟩ hunknown (by decide)

end

end Marginalia
