import Marginalia.Proofs.JsonReading
import Marginalia.Proofs.Runs

/-!
# Sections as JSON and back

Sections that have been written as JSON are read again as they were, whatever characters are
in them.  So what is printed about a file tells its sections.

## Main results

* `Section.readList?_writeList_append` — sections that have been written are read again.
* `Section.writeList_injective` — different sections are written differently.
* `parse_prints_sections` — **what is printed about a file is read as its sections.**
-/

namespace Marginalia

/-! ### Sections -/

namespace Section

theorem ofJson?_toJson (s : Section) : ofJson? s.toJson = some s := rfl

theorem mapM_ofJson?_toJson (ss : List Section) : (ss.map toJson).mapM ofJson? = some ss := by
  induction ss with
  | nil => rfl
  | cons s ss ih =>
    rw [List.map_cons, List.mapM_cons, ofJson?_toJson, ih]
    rfl

theorem listOfJson?_listToJson (ss : List Section) : listOfJson? (listToJson ss) = some ss :=
  mapM_ofJson?_toJson ss

theorem textual_toJson (s : Section) : s.toJson.Textual :=
  ⟨rfl, rfl, rfl, rfl, trivial⟩

theorem allTextual_map_toJson (ss : List Section) : Json.AllTextual (ss.map toJson) := by
  induction ss with
  | nil => trivial
  | cons s ss ih => exact ⟨textual_toJson s, ih⟩

theorem textual_listToJson (ss : List Section) : (listToJson ss).Textual :=
  ⟨rfl, allTextual_map_toJson ss, trivial⟩

/-- Sections that have been written are read again, and white space after them does not
matter. -/
theorem readList?_writeList_append (ss : List Section) (blank : Text)
    (hblank : ∀ c ∈ blank, Json.isSpace c = true) :
    readList? (writeList ss ++ blank) = some ss := by
  rw [readList?, writeList, Json.read?_pretty_append (textual_listToJson ss) hblank]
  exact listOfJson?_listToJson ss

theorem readList?_writeList (ss : List Section) : readList? (writeList ss) = some ss := by
  have h := readList?_writeList_append ss [] (by simp)
  rwa [List.append_nil] at h

/-- Different sections are written differently. -/
theorem writeList_injective : Function.Injective writeList := by
  intro ss ss' h
  have hread := readList?_writeList ss
  rw [h, readList?_writeList] at hread
  exact (Option.some.inj hread).symm

end Section

/-! ### The sections of a file -/

/-- The marker of comments in a file: the one given for the run, else the one in the settings,
else the usual one for the extension. -/
theorem markerFor_apply (o : Overrides) (s : Settings) (p : Path) :
    (o.apply s).markerFor p =
      ((o.marker <|> s.marker).map Marker.mk).getD (Marker.ofExtension p.extension) := by
  rw [Settings.markerFor, Overrides.apply]
  cases o.marker <|> s.marker <;> rfl

namespace CommandLine

/-- A file is asked about without a marker. -/
theorem read?_parse_plain {p : Text} (hp : p ≠ []) :
    read? [Subcommand.parse.name, separator, p] = some (.parse ⟨p⟩ {}) := by
  rw [read?_name]
  exact Subcommand.read?_parse [] [] hp (fun _ => rfl) List.not_mem_nil rfl

/-- A file is asked about with a marker, however that is spelled. -/
theorem read?_parse_marker {p m : Text} {spelled : List Text} (hp : p ≠ [])
    (h : Spelling .marker m spelled) :
    read? (Subcommand.parse.name :: (spelled ++ [separator, p])) =
      some (.parse ⟨p⟩ { marker := some m }) := by
  have hknown : Key.marker ∈ (Subcommand.grammar .parse).keys := List.mem_singleton.mpr rfl
  rw [read?_name]
  refine Subcommand.read?_parse spelled [.setting .marker m] hp ?_ ?_ rfl
  · exact Grammar.items_spelling h hknown
  · rw [List.mem_singleton]
    exact fun h => by cases h

end CommandLine

/-- **What is printed about a file is read as its sections.**  All sections are read again as
they were written, so that different ones are written differently.  If arguments ask about a
file that can be read, this succeeds, changes nothing, and prints what is read as the sections
of its text, under the marker given for the run, or in the settings, or usual for the file.
Every file can be asked about, with every marker. -/
theorem parse_prints_sections :
    (∀ ss : List Section, Section.readList? (Section.writeList ss) = some ss) ∧
    Function.Injective Section.writeList ∧
    (∀ (t : FileTree) (args : List Text) (p : Path) (o : Overrides) (source : Text),
      Command.ofArguments? args = some (.parse p o) → t.readText p = .ok source →
        ∃ out, (∀ pen, run args t pen = (.success out, t)) ∧
          Section.readList? out = some (sectionsOf
            (((o.marker <|> t.settings.marker).map Marker.mk).getD
              (Marker.ofExtension p.extension)) source)) ∧
    (∀ p : Text, p ≠ [] →
      Command.ofArguments? ["parse".toList, "--".toList, p] = some (.parse ⟨p⟩ {})) ∧
    ∀ (p m : Text) (spelled : List Text), p ≠ [] → CommandLine.Spelling .marker m spelled →
      Command.ofArguments? ("parse".toList :: (spelled ++ ["--".toList, p])) =
        some (.parse ⟨p⟩ { marker := some m }) := by
  refine ⟨Section.readList?_writeList, Section.writeList_injective, ?_, ?_, ?_⟩
  · intro t args p o source hc hsource
    refine ⟨_, fun pen => (run_of_command hc).trans (FileTree.perform_parse hsource), ?_⟩
    rw [← markerFor_apply]
    exact Section.readList?_writeList_append _ _ (List.forall_mem_singleton.mpr rfl)
  · exact fun p hp => CommandLine.read?_parse_plain hp
  · exact fun p m spelled hp hspelled => CommandLine.read?_parse_marker hp hspelled

/-- A folder with a source of quotes, backslashes and other special characters. -/
def FileTree.quotes : FileTree :=
  (FileTree.empty ["home".toList]).add ⟨"-q.sql".toList⟩
    (.file (Text.encode "-- \"\\\x00\u2028😀\r\n'\"'\x01".toList))

/-- A name that looks like an option, and a marker that looks like one. -/
theorem parse_prints_sections_quotes :
    "-q.sql".toList ≠ [] ∧ CommandLine.Spelling .marker "--".toList ["-m--".toList] ∧
      FileTree.quotes.readText ⟨"-q.sql".toList⟩ =
        .ok "-- \"\\\x00\u2028😀\r\n'\"'\x01".toList ∧
      ∃ out, run (["parse", "-m--", "--", "-q.sql"].map String.toList) FileTree.quotes =
          (.success out, FileTree.quotes) ∧
        Section.readList? out =
          some [⟨"\"\\\x00\u2028😀\n".toList, "'\"'\x01".toList⟩] := by
  have hp : "-q.sql".toList ≠ [] := by decide
  have hspelled : CommandLine.Spelling .marker "--".toList ["-m--".toList] :=
    .shortAttached (c := 'm') (d := '-') rfl (by decide) rfl
  have hread : FileTree.quotes.readText ⟨"-q.sql".toList⟩ =
      .ok "-- \"\\\x00\u2028😀\r\n'\"'\x01".toList := rfl
  have hc := parse_prints_sections.2.2.2.2 _ _ _ hp hspelled
  obtain ⟨out, hrun, hout⟩ := parse_prints_sections.2.2.1 FileTree.quotes _ _ _ _ hc hread
  refine ⟨hp, hspelled, hread, out, hrun _, ?_⟩
  rw [hout]
  rfl

end Marginalia
