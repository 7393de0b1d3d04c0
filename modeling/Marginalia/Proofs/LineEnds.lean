import Marginalia.Proofs.Lines
import Marginalia.Program
import Mathlib.Data.List.Forall2

/-!
# Line ends

A line of a source may end in `\n` or in `\r\n`, and the last one, which no newline ends, in
nothing or in `\r`.  Whatever mixture of these a source is written with, its lines are the same,
and so is all that is made of them: its sections, its HTML and its JSON.

## Main definitions

* `Text.Unreturned` — a text none of whose lines ends in a carriage return.
* `Text.withReturns` — a text with a carriage return added to some of its lines.
* `Reader.Rewritten` — files whose line ends have been written anew.

## Main results

* `Text.forall₂_lines_withReturns` — the lines of a text with carriage returns added.
* `sourceLines_withReturns` — the lines of a source do not depend on its line ends.
* `lineEnds_make_no_difference` — **nothing that is made of a source depends on them.**
-/

namespace Marginalia
namespace Text

/-! ### Adding carriage returns -/

/-- No line ends in a carriage return. -/
def Unreturned (t : Text) : Prop := ∀ l ∈ List.splitOn '\n' t, l.getLast? ≠ some '\r'

instance (t : Text) : Decidable (Unreturned t) :=
  inferInstanceAs (Decidable (∀ l ∈ List.splitOn '\n' t, l.getLast? ≠ some '\r'))

/-- What is written for a character at a place of a text, when the newlines at some places are
chosen. -/
def writeReturn (chosen : Nat → Bool) (c : Char × Nat) : Text :=
  if c.1 = '\n' ∧ chosen c.2 then ['\r', '\n'] else [c.1]

/-- A text with a carriage return added before each newline that is chosen, by its place in the
text, and perhaps another one at the end. -/
def withReturns (chosen : Nat → Bool) (final : Bool) (t : Text) : Text :=
  t.zipIdx.flatMap (writeReturn chosen) ++ if final then ['\r'] else []

/-- A line, perhaps with a carriage return added. -/
def MayReturn (l l' : Text) : Prop := l' = l ∨ l' = l ++ ['\r']

theorem MayReturn.cons {l l' : Text} (h : MayReturn l l') (c : Char) :
    MayReturn (c :: l) (c :: l') := by
  rcases h with rfl | rfl
  · exact .inl rfl
  · exact .inr rfl

theorem lines_cons {c : Char} (hc : c ≠ '\n') (t : Text) : lines (c :: t) = consHead c (lines t) :=
  if_neg hc

/-- A character at the beginning of both texts is one of their first lines. -/
theorem forall₂_consHead {ls ls' : List Text} (h : List.Forall₂ MayReturn ls ls') (c : Char) :
    List.Forall₂ MayReturn (consHead c ls) (consHead c ls') := by
  cases h with
  | nil => exact .cons (.inl rfl) .nil
  | cons hl hls => exact .cons (hl.cons c) hls

/-- The lines of a text with carriage returns added are its own lines, each perhaps with one. -/
theorem forall₂_lines_withReturns (chosen : Nat → Bool) (final : Bool) (t : Text) :
    List.Forall₂ MayReturn (lines t) (lines (withReturns chosen final t)) := by
  rw [withReturns]
  -- the places of the rest of the text are those from any number on
  generalize 0 = n
  induction t generalizing n with
  | nil =>
    cases final with
    | false => exact .cons (.inl rfl) .nil
    | true => exact .cons (.inr rfl) .nil
  | cons c t ih =>
    have ih := ih (n + 1)
    rw [List.zipIdx_cons, List.flatMap_cons, List.append_assoc, writeReturn]
    by_cases hc : c = '\n'
    · subst hc
      by_cases hchosen : chosen n
      · rw [if_pos ⟨rfl, hchosen⟩]
        exact .cons (.inr rfl) ih
      · rw [if_neg fun h => hchosen h.2]
        exact .cons (.inl rfl) ih
    · rw [if_neg fun h => hc h.1, List.singleton_append, lines_cons hc, lines_cons hc]
      exact forall₂_consHead ih c

end Text

/-! ### Reading the lines -/

/-- A carriage return that has been added to a line is dropped again. -/
theorem dropReturn_of_mayReturn {l l' : Text} (h : Text.MayReturn l l')
    (hl : l.getLast? ≠ some '\r') : dropReturn l' = dropReturn l := by
  rcases h with rfl | rfl
  · rfl
  · rw [dropReturn_append_return, dropReturn_of_getLast? hl]

theorem map_dropReturn {ls ls' : List Text} (h : List.Forall₂ Text.MayReturn ls ls')
    (hls : ∀ l ∈ ls, l.getLast? ≠ some '\r') : ls'.map dropReturn = ls.map dropReturn := by
  induction h with
  | nil => rfl
  | cons hl _ ih =>
    obtain ⟨hreturn, hrest⟩ := List.forall_mem_cons.mp hls
    rw [List.map_cons, List.map_cons, dropReturn_of_mayReturn hl hreturn, ih hrest]

section

variable {t : Text} (ht : t.Unreturned) (chosen : Nat → Bool) (final : Bool)

include ht

/-- The lines of a source do not depend on its line ends. -/
theorem sourceLines_withReturns : sourceLines (t.withReturns chosen final) = sourceLines t := by
  refine map_dropReturn (Text.forall₂_lines_withReturns chosen final t) ?_
  rw [Text.lines_eq_splitOn]
  exact ht

theorem sectionsOf_withReturns (m : Marker) :
    sectionsOf m (t.withReturns chosen final) = sectionsOf m t := by
  rw [sectionsOf, sectionsOf, sourceLines_withReturns ht]

theorem fragment_withReturns (r : Renderer) :
    r.fragment (.text (t.withReturns chosen final)) = r.fragment (.text t) := by
  simp only [Renderer.fragment, Source.toSections, sectionsOf_withReturns ht]

end

/-! ### Files -/

namespace Reader

/-- Files are as they were but for their line ends: each of them is the same, or it is without
carriage returns at the ends of its lines and some have been added. -/
def Rewritten (read read' : Reader) : Prop :=
  ∀ p, read' p = read p ∨ ∃ (t : Text) (chosen : Nat → Bool) (final : Bool),
    t.Unreturned ∧ read p = .ok t ∧ read' p = .ok (t.withReturns chosen final)

variable {read read' : Reader}

/-- What is made of a file through the sections of its text does not depend on its line ends. -/
theorem Rewritten.get_bind {α : Type} (h : read.Rewritten read') (p : Path)
    {f : Text → Except Failure α}
    (hf : ∀ (t : Text) (chosen : Nat → Bool) (final : Bool), t.Unreturned →
      f (t.withReturns chosen final) = f t) : read'.get p >>= f = read.get p >>= f := by
  rcases h p with heq | ⟨t, chosen, final, ht, hread, hread'⟩
  · rw [get, get, heq]
  · rw [get, get, hread, hread']
    exact hf t chosen final ht

variable (h : read.Rewritten read') (s : Settings) (pen : Highlighter)

include h

theorem Rewritten.parseFile (p : Path) :
    Marginalia.parseFile read' s p = Marginalia.parseFile read s p :=
  h.get_bind p fun t chosen final ht => by rw [sectionsOf_withReturns ht]

theorem Rewritten.fragments (ps : List Path) :
    Marginalia.fragments read' s ps pen = Marginalia.fragments read s ps pen := by
  induction ps with
  | nil => rfl
  | cons p ps ih =>
    refine (h.get_bind p ?_).trans ?_
    · intro t chosen final ht
      rw [fragment_withReturns ht]
    · rw [ih]
      rfl

theorem Rewritten.renderFiles (ps : List Path) :
    Marginalia.renderFiles read' s ps pen = Marginalia.renderFiles read s ps pen := by
  rw [Marginalia.renderFiles, Marginalia.renderFiles, h.fragments]

theorem Rewritten.answer (c : Command) : c.answer read' s pen = c.answer read s pen := by
  cases c with
  | render files output overrides => rw [Command.answer, Command.answer, h.renderFiles]
  | parse file overrides => rw [Command.answer, Command.answer, h.parseFile]
  | themes => rfl
  | help topic => rfl
  | version => rfl

end Reader

/-! ### Whatever is made of a source -/

/-- **Nothing that is made of a source depends on its line ends.**  Carriage returns may be added
at the ends of any of its lines, if there are none: its sections are the same, and so are the
fragment and the page of every renderer.  If this is done to files, every command comes to the
same, whether it renders them or prints the JSON of their sections. -/
theorem lineEnds_make_no_difference :
    (∀ t : Text, t.Unreturned → ∀ (chosen : Nat → Bool) (final : Bool),
      (∀ m, sectionsOf m (t.withReturns chosen final) = sectionsOf m t) ∧
      ∀ r : Renderer, r.fragment (.text (t.withReturns chosen final)) = r.fragment (.text t) ∧
        ∀ title stylesheet, r.document title (.text (t.withReturns chosen final)) stylesheet =
          r.document title (.text t) stylesheet) ∧
    ∀ read read' : Reader, read.Rewritten read' →
      ∀ (s : Settings) (c : Command) (pen : Highlighter),
        c.answer read' s pen = c.answer read s pen := by
  refine ⟨fun t ht chosen final => ⟨sectionsOf_withReturns ht chosen final, fun r => ?_⟩, ?_⟩
  · have hfragment := fragment_withReturns ht chosen final r
    refine ⟨hfragment, fun title stylesheet => ?_⟩
    rw [Renderer.document, Renderer.document, hfragment]
  · exact fun read read' h s c pen => h.answer s pen c

/-- A marker that ends in a carriage return does not take one that ends a line for its own. -/
theorem lineEnds_make_no_difference_marker :
    Text.Unreturned "%\rA\n%\n\nx".toList ∧
      Text.withReturns (· != 3) true "%\rA\n%\n\nx".toList = "%\rA\n%\r\n\r\nx\r".toList ∧
      sectionsOf ⟨"%\r".toList⟩ "%\rA\n%\r\n\r\nx\r".toList =
        [⟨"A\n".toList, "%\n\nx".toList⟩] ∧
      (Command.parse ⟨"a".toList⟩ {}).answer (fun _ => .ok "%\rA\n%\r\n\r\nx\r".toList) {} =
        (Command.parse ⟨"a".toList⟩ {}).answer (fun _ => .ok "%\rA\n%\n\nx".toList) {} := by
  have hreturns : Text.withReturns (· != 3) true "%\rA\n%\n\nx".toList =
      "%\rA\n%\r\n\r\nx\r".toList := by decide
  have ht : Text.Unreturned "%\rA\n%\n\nx".toList := by decide
  have hsections := (lineEnds_make_no_difference.1 _ ht (· != 3) true).1 ⟨"%\r".toList⟩
  rw [hreturns] at hsections
  refine ⟨ht, hreturns, hsections.trans (by decide), ?_⟩
  refine lineEnds_make_no_difference.2 _ _ (fun _ => .inr ⟨_, (· != 3), true, ht, rfl, ?_⟩) _ _ _
  rw [hreturns]

end Marginalia
