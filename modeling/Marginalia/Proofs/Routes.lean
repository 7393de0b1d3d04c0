import Marginalia.Proofs.Highlighting
import Marginalia.Proofs.SectionForm
import Marginalia.Proofs.SectionJson
import Mathlib.Logic.Function.Iterate

/-!
# The ways from a source to HTML

A source can be rendered as it is, or its sections can be found first and rendered then, also
after they have been written as JSON and read again, or have been trimmed once more.  All of
this comes to the same, for texts as for files.

## Main definitions

* `Section.trimmed` — a section whose code has been trimmed again.

## Main results

* `Renderer.mapIdx_trimmed_parse` — the sections of a source need no trimming.
* `Command.answer_parse_render` — what is printed about a file and what is made of it.
* `routes_agree` — **all ways from a source to HTML come to the same.**
-/

namespace Marginalia

/-! ### Sections that are trimmed again -/

/-- A section whose code has been trimmed `n` times more. -/
def Section.trimmed (n : Nat) (s : Section) : Section := { s with code := Code.trim^[n] s.code }

/-- Trimming leaves a section of a source as it is. -/
theorem Section.trimmed_of_mem {m : Marker} {source : Text} {s : Section}
    (hs : s ∈ sectionsOf m source) (n : Nat) : s.trimmed n = s := by
  rw [trimmed, Function.iterate_fixed (trim_code_of_mem hs)]

namespace Renderer

variable (r : Renderer) (t : Text)

theorem mapIdx_trimmed_parse (n : Nat → Nat) :
    ((r.parse t).mapIdx fun i s => s.trimmed (n i)) = r.parse t := by
  rw [List.mapIdx_eq_iff]
  intro i
  cases hs : (r.parse t)[i]? with
  | none => rfl
  | some s => rw [Option.map_some, Section.trimmed_of_mem (List.mem_of_getElem? hs)]

/-- A text is rendered by its sections. -/
theorem fragment_sections_parse : r.fragment (.sections (r.parse t)) = r.fragment (.text t) := rfl

/-- What is rendered does not depend on how the sections have been kept. -/
theorem fragment_readList?_writeList :
    (Section.readList? (Section.writeList (r.parse t))).map (fun ss => r.fragment (.sections ss)) =
      some (r.fragment (.text t)) := by
  rw [Section.readList?_writeList]
  rfl

end Renderer

/-! ### Files -/

/-- Settings with the same marker find the same sections in a file. -/
theorem Settings.markerFor_congr {s s' : Settings} (h : s'.marker = s.marker) (p : Path)
    (pen : Highlighter) : s'.markerFor p = (s.rendererFor p pen).marker := by
  rw [markerFor, h]
  rfl

section Files

variable {read : Reader} {s : Settings} {pen : Highlighter} {p : Path} {source : Text}
  {o o' : Overrides}

/-- One file that can be read is all there is to read. -/
theorem readsAll_singleton (h : read p = .ok source) : read.ReadsAll [p] [(p, source)] :=
  Reader.readsAll_nil.cons h

/-- What is printed about a file can be rendered, and that is what is made of the file. -/
theorem Command.answer_parse_render (h : read p = .ok source)
    (hmarker : (o'.apply s).marker = (o.apply s).marker) :
    ∃ out ss, Command.answer read s (.parse p o') pen = .ok (.print out) ∧
      Section.readList? out = some ss ∧
      ((o.apply s).standalone = false → Command.answer read s (.render [p] none o) pen =
        .ok (.print (((o.apply s).rendererFor p pen).fragment (.sections ss)))) ∧
      ((o.apply s).standalone = true →
        ∀ stylesheet, (o.apply s).stylesheet pen = .ok stylesheet →
          Command.answer read s (.render [p] none o) pen = .ok (.print
            (((o.apply s).rendererFor p pen).document (p.fileName?.getD "lit".toList)
              (.text source) stylesheet))) := by
  have hsections : sectionsOf ((o'.apply s).markerFor p) source =
      ((o.apply s).rendererFor p pen).parse source := by
    rw [Settings.markerFor_congr hmarker p pen, Renderer.parse]
  refine ⟨Section.writeList (((o.apply s).rendererFor p pen).parse source) ++ ['\n'],
    ((o.apply s).rendererFor p pen).parse source, ?_, ?_, ?_, ?_⟩
  · rw [Command.answer, parseFile, Reader.get_of_ok h, ← hsections]
    rfl
  · exact Section.readList?_writeList_append _ _ (List.forall_mem_singleton.mpr rfl)
  · intro hstandalone
    rw [Command.answer, renderFiles_of_fragments (readsAll_singleton h) hstandalone,
      Renderer.fragment_sections_parse, Settings.joined_singleton]
    rfl
  · intro hstandalone stylesheet hstylesheet
    rw [Command.answer, renderFiles_of_page (readsAll_singleton h) hstandalone, hstylesheet,
      Settings.joined_singleton]
    rfl

end Files

/-- A text that a command prints is what the run ends with. -/
theorem run_of_print {args : List Text} {t : FileTree} {pen : Highlighter} {c : Command}
    {out : Text} (hc : Command.ofArguments? args = some c)
    (h : Command.answer t.readText t.settings c pen = .ok (.print out)) :
    run args t pen = (.success out, t) := by
  rw [run_of_command hc, FileTree.perform, h]

/-- **All ways from a source to HTML come to the same.**  A text is rendered as its sections
are, and these may have been written as JSON and read again, or trimmed any number of times
more; nor does it matter whether a renderer or only its hooks are used, for `//` even on the
text itself.  What is printed about the sections of a file is read as sections that are
rendered as the file is, under the same marker, and the page of a file is the page of its
text, called by the name of the file, with the same stylesheet. -/
theorem routes_agree :
    (∀ (r : Renderer) (t : Text),
      r.fragment (.sections (r.parse t)) = r.fragment (.text t) ∧
      (Section.readList? (Section.writeList (r.parse t))).map
          (fun ss => r.fragment (.sections ss)) = some (r.fragment (.text t)) ∧
      (∀ n : Nat → Nat,
        r.fragment (.sections ((r.parse t).mapIdx fun i s => s.trimmed (n i))) =
          r.fragment (.text t)) ∧
      Source.fragment r.comment r.code (.sections (r.parse t)) = r.fragment (.text t) ∧
      (r.marker = Marker.slashes →
        Source.fragment r.comment r.code (.text t) = r.fragment (.text t))) ∧
    ∀ (pen : Highlighter) (t : FileTree) (args args' : List Text) (p : Path)
      (o o' : Overrides) (source : Text),
      Command.ofArguments? args = some (.render [p] none o) →
      Command.ofArguments? args' = some (.parse p o') →
      (o'.apply t.settings).marker = (o.apply t.settings).marker →
      t.readText p = .ok source →
        ∃ out ss, run args' t pen = (.success out, t) ∧ Section.readList? out = some ss ∧
          ((o.apply t.settings).standalone = false →
            run args t pen =
              (.success (((o.apply t.settings).rendererFor p pen).fragment (.sections ss)), t)) ∧
          ((o.apply t.settings).standalone = true →
            ∀ stylesheet, (o.apply t.settings).stylesheet pen = .ok stylesheet →
              run args t pen = (.success (((o.apply t.settings).rendererFor p pen).document
                (p.fileName?.getD "lit".toList) (.text source) stylesheet), t)) := by
  constructor
  · intro r t
    refine ⟨r.fragment_sections_parse t, r.fragment_readList?_writeList t, ?_, rfl, ?_⟩
    · intro n
      rw [r.mapIdx_trimmed_parse t n, r.fragment_sections_parse t]
    · intro hmarker
      rw [Renderer.fragment, hmarker]
      rfl
  · intro pen t args args' p o o' source hc hc' hmarker hread
    obtain ⟨out, ss, hout, hss, hfragment, hpage⟩ :=
      Command.answer_parse_render (s := t.settings) hread hmarker
    refine ⟨out, ss, run_of_print hc' hout, hss, ?_, ?_⟩
    · exact fun hstandalone => run_of_print hc (hfragment hstandalone)
    · exact fun hstandalone stylesheet hstylesheet =>
        run_of_print hc (hpage hstandalone stylesheet hstylesheet)

/-- A script whose marker is given for both runs, by itself and as a page. -/
theorem routes_agree_sample :
    ∃ out ss, run (["parse", "d/a.py", "--marker=#"].map String.toList) FileTree.sample =
        (.success out, FileTree.sample) ∧ Section.readList? out = some ss ∧
      run (["render", "-m#", "--plain", "d/a.py"].map String.toList) FileTree.sample =
        (.success ((⟨⟨"#".toList⟩, Hook.escape, Hook.highlight⟩ : Renderer).fragment
          (.sections ss)), FileTree.sample) ∧
      run (["render", "-m#", "--standalone", "--no-highlight", "d/a.py"].map String.toList)
          FileTree.sample =
        (.success ((⟨⟨"#".toList⟩, Hook.markdown .all, Hook.escape⟩ : Renderer).document
          "a.py".toList (.text "# x".toList) none), FileTree.sample) := by
  have hparse : Command.ofArguments? (["parse", "d/a.py", "--marker=#"].map String.toList) =
      some (.parse ⟨"d/a.py".toList⟩ { marker := some "#".toList }) := by decide +kernel
  have hfragment : Command.ofArguments?
      (["render", "-m#", "--plain", "d/a.py"].map String.toList) =
        some (.render [⟨"d/a.py".toList⟩] none { marker := some "#".toList, plain := true }) := by
    decide +kernel
  have hpage : Command.ofArguments?
      (["render", "-m#", "--standalone", "--no-highlight", "d/a.py"].map String.toList) =
        some (.render [⟨"d/a.py".toList⟩] none
          { marker := some "#".toList, noHighlight := true, standalone := true }) := by
    decide +kernel
  have hread : FileTree.sample.readText ⟨"d/a.py".toList⟩ = .ok "# x".toList := rfl
  obtain ⟨out, ss, hout, hss, hprinted, -⟩ :=
    routes_agree.2 .plainText FileTree.sample _ _ _ _ _ _ hfragment hparse rfl hread
  obtain ⟨-, -, -, -, -, hdocument⟩ :=
    routes_agree.2 .plainText FileTree.sample _ _ _ _ _ _ hpage hparse rfl hread
  rw [← Highlighter.hook_plainText (Path.extension ⟨"d/a.py".toList⟩)]
  exact ⟨out, ss, hout, hss, hprinted rfl, hdocument rfl none rfl⟩

end Marginalia
