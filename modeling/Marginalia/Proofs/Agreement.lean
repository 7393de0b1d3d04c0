import Marginalia.Proofs.Choices
import Marginalia.Proofs.Runs
import Mathlib.Data.List.Infix

/-!
# Trees that agree but at one place

Trees may differ in what is at one place.  A path that does not name this place leads to the
same in both, for reading as for writing.  So a command that names no such path, and of which
overrides and settings make the same in both trees, ends in the same way, and the trees still
agree but at the place.

## Main definitions

* `FileTree.AgreeBut` — trees that differ at most at one place.
* `FileTree.Misses` — a path that does not name a place.
* `Command.paths` — the paths that a command names.

## Main results

* `FileTree.AgreeBut.readText_eq`, `FileTree.AgreeBut.target_eq` — such a path leads to the
  same in both trees.
* `Command.answer_withOverrides` — what a command comes to depends on the texts it reads, and
  on what overrides and settings make together.
* `FileTree.AgreeBut.perform` — **a command does the same in both trees.**
-/

namespace Marginalia
namespace FileTree

/-! ### Paths -/

/-- Two trees differ at most in what is at one place. -/
structure AgreeBut (place : Location) (t t' : FileTree) : Prop where
  working : t'.working = t.working
  get?_eq : ∀ l, l ≠ place → t'.get? l = t.get? l

/-- A path does not name a place at which trees may differ: it does not lead there, and if it
goes on from there, this is possible in both trees or fails in both for the same reason. -/
structure Misses (place : Location) (t t' : FileTree) (p : Path) : Prop where
  leads : p.steps.foldl move (t.start p) ≠ place
  passes : ∀ before step after, p.steps = before ++ step :: after →
    before.foldl move (t.start p) = place → t'.enter place = t.enter place

variable {t t' : FileTree} {place l : Location} {p : Path}

theorem agreeBut_put (hroot : place ≠ []) (e : Entry) : t.AgreeBut place (t.put place e) :=
  ⟨rfl, fun l hl => by rw [get?_put t hroot, if_neg hl]⟩

/-- A path that never comes to a place does not name it. -/
theorem misses_of_inits (h : ∀ steps ∈ p.steps.inits, steps.foldl move (t.start p) ≠ place) :
    t.Misses place t' p where
  leads := h p.steps ((List.mem_inits _ _).mpr List.prefix_rfl)
  passes before step after hsteps hplace :=
    absurd hplace (h before ((List.mem_inits _ _).mpr ⟨step :: after, hsteps.symm⟩))

/-- Steps that can be followed lead to where they say. -/
theorem eq_of_follow {steps : List Text} {first : Location} (h : t.follow first steps = .ok l) :
    l = steps.foldl move first := by
  induction steps generalizing first with
  | nil => exact (Except.ok.inj h).symm
  | cons step steps ih =>
    rw [follow_cons] at h
    cases hfirst : t.enter first with
    | error e => rw [hfirst] at h; cases h
    | ok u => rw [hfirst] at h; exact ih h

theorem eq_of_locate (h : t.locate p = .ok l) : l = p.steps.foldl move (t.start p) := by
  unfold locate at h
  cases hc : checkPath p with
  | error e => rw [hc] at h; cases h
  | ok u => rw [hc] at h; exact eq_of_follow h

/-- The last step of a path that is not empty, between those before it and the empty ones. -/
theorem steps_eq {last : Text} {before : List Text}
    (h : p.steps.reverse.dropWhile List.isEmpty = last :: before) :
    p.steps = before.reverse ++ last :: (p.steps.reverse.takeWhile List.isEmpty).reverse := by
  have hsplit := List.takeWhile_append_dropWhile (p := List.isEmpty) (l := p.steps.reverse)
  rw [h] at hsplit
  calc p.steps = (p.steps.reverse.takeWhile List.isEmpty ++ last :: before).reverse := by
        rw [hsplit, List.reverse_reverse]
    _ = before.reverse ++ last :: (p.steps.reverse.takeWhile List.isEmpty).reverse := by
        rw [List.reverse_append, List.reverse_cons, List.append_assoc]
        rfl

namespace AgreeBut

variable (h : t.AgreeBut place t')

include h

theorem enter_eq (hplace : l = place → t'.enter place = t.enter place) :
    t'.enter l = t.enter l := by
  by_cases hl : l = place
  · rw [hl, hplace hl]
  · rw [enter, enter, h.get?_eq l hl]

theorem start_eq (p : Path) : t'.start p = t.start p := by
  rw [start, start, h.working]

theorem follow_eq : ∀ (steps : List Text) (first : Location),
    (∀ before step after, steps = before ++ step :: after → before.foldl move first = place →
      t'.enter place = t.enter place) → t'.follow first steps = t.follow first steps := by
  intro steps
  induction steps with
  | nil => exact fun first _ => rfl
  | cons step steps ih =>
    intro first hpasses
    have hfirst : t'.enter first = t.enter first :=
      h.enter_eq fun hplace => hpasses [] step steps rfl hplace
    have hrest := ih (move first step) fun before next after hsteps =>
      hpasses (step :: before) next after (by rw [hsteps]; rfl)
    rw [follow_cons, follow_cons, hfirst, hrest]

variable (hp : t.Misses place t' p)

include hp

theorem locate_eq : t'.locate p = t.locate p := by
  rw [locate, locate, h.start_eq, h.follow_eq _ _ hp.passes]

theorem readText_eq : t'.readText p = t.readText p := by
  have hlocate := h.locate_eq hp
  cases hl : t.locate p with
  | error e =>
    have hread : t'.read p = t.read p := by
      rw [read, read, hlocate, hl]
      rfl
    rw [readText, readText, hread]
  | ok l =>
    have hne : l ≠ place := eq_of_locate hl ▸ hp.leads
    exact readText_congr hl (hlocate.trans hl) (h.get?_eq l hne)

theorem target_eq : t'.target p = t.target p := by
  unfold target
  cases hc : checkPath p with
  | error e => rfl
  | ok u =>
    cases hlast : p.steps.reverse.dropWhile List.isEmpty with
    | nil => simp only [bind, Except.bind, hlast]
    | cons last before =>
      have hsteps := steps_eq hlast
      have hfollow : t'.follow (t'.start p) before.reverse =
          t.follow (t.start p) before.reverse := by
        rw [h.start_eq]
        refine h.follow_eq _ _ fun front step after hfront => ?_
        rw [hfront, List.append_assoc] at hsteps
        exact hp.passes front step _ hsteps
      simp only [bind, Except.bind, hlast, hfollow]
      cases habove : t.follow (t.start p) before.reverse with
      | error e => rfl
      | ok above =>
        have hend := eq_of_follow habove
        -- the path goes on from this folder with its last step
        have henter : t'.enter above = t.enter above :=
          h.enter_eq fun hplace => hp.passes _ last _ hsteps (hend ▸ hplace)
        simp only [henter]
        split
        · rfl
        · split
          · next hname =>
            -- the file would be where the path leads
            have hne : above ++ [last] ≠ place := by
              rw [Bool.and_eq_true, List.isEmpty_iff] at hname
              have hleads := hp.leads
              rw [hsteps, hname.2, List.foldl_append, ← hend] at hleads
              rw [← move_name hname.1]
              exact hleads
            rw [h.get?_eq _ hne]
          · rfl

omit hp

theorem put (hroot : l ≠ []) (e : Entry) : (t.put l e).AgreeBut place (t'.put l e) := by
  refine ⟨h.working, fun l' hl' => ?_⟩
  rw [get?_put t hroot, get?_put t' hroot, h.get?_eq l' hl']

end AgreeBut
end FileTree

/-! ### Commands -/

section

variable {read read' : Reader} {s s' : Settings} {pen : Highlighter}

/-- Fragments depend on the texts of their files. -/
theorem fragments_congr {ps : List Path} (h : ∀ p ∈ ps, read' p = read p) :
    fragments read' s ps pen = fragments read s ps pen := by
  induction ps with
  | nil => rfl
  | cons p ps ih =>
    obtain ⟨hp, hps⟩ := List.forall_mem_cons.mp h
    rw [fragments, fragments, Reader.get, Reader.get, hp, ih hps]

namespace Command

/-- The paths that a command names. -/
def paths : Command → List Path
  | .render files output _ => files ++ output.toList
  | c => c.files

variable {c : Command} {o o' : Overrides} {p : Path} {text : Text}

theorem files_subset_paths (c : Command) : c.files ⊆ c.paths := by
  cases c with
  | render files output o => exact List.subset_append_left _ _
  | parse file o => exact List.Subset.refl _
  | themes => exact List.Subset.refl _
  | help topic => exact List.Subset.refl _
  | version => exact List.Subset.refl _

theorem answer_withOverrides (hc : c.overrides? = some o) (hread : ∀ p ∈ c.files, read' p = read p)
    (hs : o'.apply s' = o.apply s) :
    (c.withOverrides o').answer read' s' pen = c.answer read s pen := by
  cases c with
  | render files output o₁ =>
    obtain rfl := Option.some.inj hc
    have hfragments : fragments read' (o₁.apply s) files pen =
        fragments read (o₁.apply s) files pen := fragments_congr hread
    rw [withOverrides, answer, answer, hs, renderFiles, renderFiles, hfragments]
  | parse file o₁ =>
    obtain rfl := Option.some.inj hc
    rw [withOverrides, answer, answer, hs, parseFile, parseFile, Reader.get, Reader.get,
      hread file (List.mem_singleton_self _)]
  | themes => cases hc
  | help topic => cases hc
  | version => cases hc

/-- A text is saved at a path that was named. -/
theorem mem_paths_of_save (h : c.answer read s pen = .ok (.save p text)) : p ∈ c.paths := by
  cases c with
  | render files output o =>
    rw [answer] at h
    cases hhtml : renderFiles read (o.apply s) files pen with
    | error f => rw [hhtml] at h; cases h
    | ok html =>
      rw [hhtml] at h
      cases output with
      | none => cases h
      | some q => cases h; exact List.mem_append_right _ (List.mem_singleton_self _)
  | parse file o =>
    rw [answer, parseFile] at h
    cases hsource : read.get file with
    | error f => rw [hsource] at h; cases h
    | ok source => rw [hsource] at h; cases h
  | themes => cases h
  | help topic => cases h
  | version => cases h

end Command

end

namespace FileTree

variable {t t' : FileTree} {place l : Location} {c : Command} {o o' : Overrides} {p : Path}
  {text : Text} {pen : Highlighter}

theorem perform_of_error {f : Failure} (h : c.answer t.readText t.settings pen = .error f) :
    t.perform c pen = (.failure f, t) := by
  rw [FileTree.perform, h]

theorem perform_of_print (h : c.answer t.readText t.settings pen = .ok (.print text)) :
    t.perform c pen = (.success text, t) := by
  rw [FileTree.perform, h]

theorem perform_of_save_error {e : FileError}
    (h : c.answer t.readText t.settings pen = .ok (.save p text)) (hp : t.target p = .error e) :
    t.perform c pen = (.failure (.file e), t) := by
  simp only [FileTree.perform, h, write_of_error hp]

theorem perform_of_save (h : c.answer t.readText t.settings pen = .ok (.save p text))
    (hp : t.target p = .ok l) : t.perform c pen = (.success [], t.put l (.file text.encode)) := by
  simp only [FileTree.perform, h, write_of_target hp]

/-- **A command does the same in trees that agree but at a place which it does not name**, if
overrides and settings make the same of it. -/
theorem AgreeBut.perform (h : t.AgreeBut place t') (hpaths : ∀ p ∈ c.paths, t.Misses place t' p)
    (hc : c.overrides? = some o) (hs : o'.apply t'.settings = o.apply t.settings) :
    (t'.perform (c.withOverrides o') pen).1 = (t.perform c pen).1 ∧
      (t.perform c pen).2.AgreeBut place (t'.perform (c.withOverrides o') pen).2 ∧
      (t.perform c pen).2.get? place = t.get? place ∧
      (t'.perform (c.withOverrides o') pen).2.get? place = t'.get? place := by
  have hanswer : (c.withOverrides o').answer t'.readText t'.settings pen =
      c.answer t.readText t.settings pen :=
    Command.answer_withOverrides hc
      (fun p hp => h.readText_eq (hpaths p (c.files_subset_paths hp))) hs
  cases hresult : c.answer t.readText t.settings pen with
  | error f =>
    rw [perform_of_error hresult, perform_of_error (hanswer.trans hresult)]
    exact ⟨rfl, h, rfl, rfl⟩
  | ok answer =>
    cases answer with
    | print text =>
      rw [perform_of_print hresult, perform_of_print (hanswer.trans hresult)]
      exact ⟨rfl, h, rfl, rfl⟩
    | save p text =>
      have hp := hpaths p (Command.mem_paths_of_save hresult)
      have htarget := h.target_eq hp
      cases hplace : t.target p with
      | error e =>
        rw [perform_of_save_error hresult hplace,
          perform_of_save_error (hanswer.trans hresult) (htarget.trans hplace)]
        exact ⟨rfl, h, rfl, rfl⟩
      | ok l =>
        obtain ⟨hlocate, hfolder⟩ := locate_of_target hplace
        have hroot : l ≠ [] := fun heq => hfolder (heq ▸ t.get?_root)
        -- both trees change at one place, which is not the one where they may differ
        have hne : place ≠ l := fun heq => hp.leads (eq_of_locate hlocate ▸ heq.symm)
        rw [perform_of_save hresult hplace,
          perform_of_save (hanswer.trans hresult) (htarget.trans hplace)]
        refine ⟨rfl, h.put hroot _, ?_, ?_⟩
        · rw [get?_put t hroot, if_neg hne]
        · rw [get?_put t' hroot, if_neg hne]

end FileTree
end Marginalia
