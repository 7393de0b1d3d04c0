import Marginalia.Proofs.Agreement
import Marginalia.Proofs.SettingsFile

/-!
# Choices in the settings file

What options of a command line choose can be chosen in the settings file instead, and the
options win over the file.  So a command line does what it does without some of these options in
a folder where the settings file makes what they choose, and everything else is as it was.  There
always is such a file.

## Main definitions

* `FileTree.settingsPlace` — the place of the settings file.

## Main results

* `FileTree.exists_settings` — all settings can be made by a file.
* `choices_as_settings` — **options are another spelling of settings.**
-/

namespace Marginalia
namespace FileTree

variable {t : FileTree}

/-- The place of the settings file, in the working folder. -/
def settingsPlace (t : FileTree) : Location := t.working ++ [settingsPath.text]

@[simp] theorem settingsPlace_put (l : Location) (e : Entry) :
    (t.put l e).settingsPlace = t.settingsPlace := rfl

theorem settingsPlace_ne_nil (t : FileTree) : t.settingsPlace ≠ [] := by simp [settingsPlace]

theorem locate_settingsPath (h : t.get? t.working = some .folder) :
    t.locate settingsPath = .ok t.settingsPlace := by
  have hcheck : checkPath settingsPath = .ok () := rfl
  have hstart : t.start settingsPath = t.working := rfl
  have hsteps : settingsPath.steps = [settingsPath.text] := by decide
  have henter : t.enter t.working = .ok () := (t.enter_eq_ok_iff _).2 h
  have hmove : move t.working settingsPath.text = t.settingsPlace := move_name (by decide) _
  rw [locate, hcheck, hstart, hsteps]
  change t.follow t.working [settingsPath.text] = _
  rw [follow_cons, henter, ← hmove]
  rfl

/-- A text that is put in the place of the settings file makes the settings. -/
theorem settings_put (h : t.get? t.working = some .folder) (text : Text) :
    (t.put t.settingsPlace (.file text.encode)).settings = (Settings.read? text).getD {} := by
  have hne : t.working ≠ t.settingsPlace := by simp [settingsPlace]
  have hfolder : (t.put t.settingsPlace (.file text.encode)).get? t.working = some .folder := by
    rw [get?_put t t.settingsPlace_ne_nil, if_neg hne, h]
  have hplace : (t.put t.settingsPlace (.file text.encode)).get? t.settingsPlace =
      some (.file text.encode) := by
    rw [get?_put t t.settingsPlace_ne_nil, if_pos rfl]
  have hread : (t.put t.settingsPlace (.file text.encode)).readText settingsPath = .ok text := by
    simp only [readText, read, locate_settingsPath hfolder, settingsPlace_put, hplace, bind,
      Except.bind, Text.decode?_encode]
  rw [settings, hread]
  rfl

/-- Lines that spell all fields make the settings. -/
theorem settings_put_written (h : t.get? t.working = some .folder) {s : Settings} {lines : Text}
    {fs : List Settings.Field} (hfs : fs.Nodup) (hlines : s.Written fs lines) :
    (t.put t.settingsPlace (.file lines.encode)).settings = s.restrict fs := by
  have hlaid : Toml.Laid [] [] := Toml.statementsOf?_eq_some_iff.1 Toml.statementsOf?_nil
  have hunknown : ∀ f : Settings.Field, f.name ∉ Toml.namedKeys [] := by
    simp [Toml.namedKeys]
  have hread := s.read?_of_written hfs hlines hlaid ⟨_, rfl⟩ hunknown
  rw [List.append_nil] at hread
  rw [settings_put h, hread]
  rfl

theorem exists_settings (h : t.get? t.working = some .folder) (s : Settings) :
    ∃ text : Text, (t.put t.settingsPlace (.file text.encode)).settings = s := by
  obtain ⟨lines, hlines⟩ := s.exists_written Settings.Field.all
  refine ⟨lines, ?_⟩
  rw [settings_put_written h (by decide) hlines, s.restrict_all]

end FileTree

/-- **Options are another spelling of settings.**  Some options of a command line choose what
the settings file chooses too.  They can all be taken out, and what is left asks for the same
but for them.  However many of them are taken out, in whatever order and wherever they stand,
what is left ends in the same way, with the same output or the same failure, where the settings
are those of before with these choices made in them and all else is as it was.  The trees then
still agree but in their settings files, and these are as they were.  Paths that are named must
not be those of the settings file.  A settings file of this kind always exists. -/
theorem choices_as_settings :
    ∀ (args : List Text) (c : Command) (o : Overrides),
      Command.ofArguments? args = some c → c.overrides? = some o →
        (∃ xs args', CommandLine.TakenOut xs args args' ∧
          Command.ofArguments? args' = some (c.withOverrides {})) ∧
        ∀ (xs : List Choice) (args' : List Text), CommandLine.TakenOut xs args args' →
          (∃ o', Command.ofArguments? args' = some (c.withOverrides o') ∧
            ((∀ x : Choice, ¬ CommandLine.Takeable x.item args') → o' = {})) ∧
          ∀ t : FileTree,
            (t.get? t.working = some .folder → ∃ text : Text,
              (t.put t.settingsPlace (.file text.encode)).settings = t.settings.withChoices xs) ∧
            ∀ t', t.AgreeBut t.settingsPlace t' → t'.settings = t.settings.withChoices xs →
              (∀ p ∈ c.paths, t.Misses t.settingsPlace t' p) →
                ∀ pen, (run args' t' pen).1 = (run args t pen).1 ∧
                  (run args t pen).2.AgreeBut t.settingsPlace (run args' t' pen).2 ∧
                  (run args t pen).2.get? t.settingsPlace = t.get? t.settingsPlace ∧
                  (run args' t' pen).2.get? t.settingsPlace = t'.get? t.settingsPlace := by
  intro args c o hread hc
  refine ⟨CommandLine.exists_takenOut hc (fun _ hx => hx) hread, fun xs args' hout => ?_⟩
  obtain ⟨o', hread', ho'⟩ := hout.read?_eq hc hread
  refine ⟨⟨o', hread', ?_⟩, fun t => ⟨fun hfolder => t.exists_settings hfolder _, ?_⟩⟩
  · exact CommandLine.eq_default_of_not_takeable (Command.overrides?_withOverrides hc) hread'
  · intro t' hagree hsettings hpaths pen
    rw [run_of_command hread, run_of_command hread']
    exact hagree.perform hpaths hc (by rw [hsettings, ho'])

/-- An empty marker and plain comments, chosen by options and by a file. -/
theorem choices_as_settings_marker :
    Command.ofArguments? (["render", "-vm", "", "d/a.py", "--plain"].map String.toList) =
        some (.render [⟨"d/a.py".toList⟩] none { marker := some [], plain := true }) ∧
      CommandLine.TakenOut [.marker [], .plain]
        (["render", "-vm", "", "d/a.py", "--plain"].map String.toList)
        (["render", "-v", "d/a.py"].map String.toList) ∧
      (FileTree.sample.put FileTree.sample.settingsPlace (.file
          (Text.encode "comment_marker = \"\"\nmarkdown = false\n".toList))).settings =
        FileTree.sample.settings.withChoices [.marker [], .plain] ∧
      (run (["render", "-v", "d/a.py"].map String.toList)
          (FileTree.sample.put FileTree.sample.settingsPlace (.file
            (Text.encode "comment_marker = \"\"\nmarkdown = false\n".toList)))).1 =
        (run (["render", "-vm", "", "d/a.py", "--plain"].map String.toList)
          FileTree.sample).1 := by
  have hread : Command.ofArguments?
      (["render", "-vm", "", "d/a.py", "--plain"].map String.toList) =
        some (.render [⟨"d/a.py".toList⟩] none { marker := some [], plain := true }) := by
    decide +kernel
  have hmarker : CommandLine.Removal .marker [] ["-vm".toList, []] ["-v".toList] :=
    .bundled 0 (by decide) (.short (c := 'm') rfl rfl)
  have hplain : CommandLine.TakenOut [.plain]
      (["render", "-v", "d/a.py"].map String.toList ++ (["--plain".toList] ++ []))
      (["render", "-v", "d/a.py"].map String.toList) :=
    .cons (x := .plain) (.flag .plain) (by decide) .nil
  have hout : CommandLine.TakenOut [.marker [], .plain]
      (["render".toList] ++ (["-vm".toList, []] ++ ["d/a.py".toList, "--plain".toList]))
      (["render", "-v", "d/a.py"].map String.toList) :=
    .cons (x := .marker []) (.setting hmarker) (by decide) hplain
  have hlines : ({ marker := some [], markdown := false } : Settings).Written [.marker, .markdown]
      "comment_marker = \"\"\nmarkdown = false\n".toList :=
    .line rfl (Toml.SpellsText.value .nil) (.line rfl (Toml.spellsValue_boolean false) .nil)
  have hsettings : (FileTree.sample.put FileTree.sample.settingsPlace (.file
      (Text.encode "comment_marker = \"\"\nmarkdown = false\n".toList))).settings =
        FileTree.sample.settings.withChoices [.marker [], .plain] :=
    FileTree.settings_put_written rfl (by decide) hlines
  refine ⟨hread, hout, hsettings, ?_⟩
  refine (((choices_as_settings _ _ _ hread rfl).2 _ _ hout).2 FileTree.sample).2 _
    (FileTree.agreeBut_put FileTree.sample.settingsPlace_ne_nil _) hsettings ?_ .plainText |>.1
  intro p hp
  obtain rfl := List.mem_singleton.mp hp
  exact FileTree.misses_of_inits (by decide +kernel)

end Marginalia
