import Mathlib.Data.List.Basic
import Marginalia.Proofs.Grammar

/-!
# Reading strings

The readers of strings are compared with the grammar in two ways: what has the form of a string is
taken off every text that goes on otherwise, and what is taken off a text has the form of a string.

## Main definitions

* `Toml.Reads` — a reader takes some characters off any text that goes on in a certain way.
* `Toml.BasicLines` — what the reader of strings on several lines has taken off.

## Main results

* `Toml.SpellsText.basicBody?_append`, `Toml.SpellsLines.basicLinesBody?_append`,
  `Toml.SpellsLines.literalLinesBody?_append` — what stands between the quotes is read back.
* `Toml.SpellsString.reads` — what has the form of a string is read.
* `Toml.exists_spells_of_string?` — what is read has the form of a string.
-/

namespace Marginalia
namespace Toml

/-- A reader reads `w` as `a` before every rest that `after` allows, and leaves that rest. -/
def Reads (read : Text → Option (α × Text)) (after : Text → Prop) (w : Text) (a : α) : Prop :=
  ∀ r, after r → read (w ++ r) = some (a, r)

/-! ### White space -/

theorem isSpace_iff (c : Char) : isSpace c ↔ c = ' ' ∨ c = '\t' := by simp [isSpace]

theorem exists_skipSpace (t : Text) : ∃ sp, t = sp ++ skipSpace t ∧ sp.all isSpace :=
  ⟨_, List.takeWhile_append_dropWhile.symm, List.all_takeWhile⟩

theorem skipSpace_cons_of_not {c : Char} (h : isSpace c = false) (t : Text) :
    skipSpace (c :: t) = c :: t := by
  simp [skipSpace, h]

theorem skipSpace_append {sp : Text} (h : sp.all isSpace) (t : Text) :
    skipSpace (sp ++ t) = skipSpace t :=
  List.dropWhile_append_of_pos (by simpa using h)

theorem skipSpace_append_cons {sp : Text} (hsp : sp.all isSpace) {c : Char}
    (hc : isSpace c = false) (t : Text) : skipSpace (sp ++ c :: t) = c :: t :=
  (skipSpace_append hsp _).trans (skipSpace_cons_of_not hc t)

theorem exists_of_skipSpace {c : Char} {t r : Text} (h : skipSpace t = c :: r) :
    ∃ sp, t = sp ++ c :: r ∧ sp.all isSpace := by
  obtain ⟨sp, hsp, hspace⟩ := exists_skipSpace t
  exact ⟨sp, h ▸ hsp, hspace⟩

/-! ### Strings on one line -/

theorem push_eq_some {c : Option Char} {found : Option (Text × Text)} {s r : Text}
    (h : push c found = some (s, r)) :
    ∃ a s', c = some a ∧ found = some (s', r) ∧ s = a :: s' := by
  cases c with
  | none => cases h
  | some a =>
    cases found with
    | none => cases h
    | some found =>
      cases h
      exact ⟨a, found.1, rfl, rfl, rfl⟩

theorem push_some_eq_some {a : Char} {found : Option (Text × Text)} {s r : Text}
    (h : push (some a) found = some (s, r)) : ∃ s', found = some (s', r) ∧ s = a :: s' := by
  obtain ⟨b, s', hb, hs', rfl⟩ := push_eq_some h
  cases hb
  exact ⟨s', hs', rfl⟩

@[simp] theorem push_some (c : Char) (s r : Text) :
    push (some c) (some (s, r)) = some (c :: s, r) := rfl

theorem basicBody?_plain {c : Char} (hcontrol : isControl c = false) (hquote : c ≠ '"')
    (hslash : c ≠ '\\') (t : Text) : basicBody? (c :: t) = push (some c) (basicBody? t) := by
  rw [basicBody?.eq_6] <;> simp [hcontrol, hquote, hslash]

theorem basicBody?_escape {c : Char} {e : Text} (h : Escape c e) (t : Text) :
    basicBody? (e ++ t) = push (some c) (basicBody? t) := by
  cases h with
  | @named x hx =>
    have hu : x ≠ 'u' := by rintro rfl; cases hx
    have hU : x ≠ 'U' := by rintro rfl; cases hx
    rw [List.cons_append, List.cons_append, List.nil_append, basicBody?.eq_5, hx]
    · simp [hu]
    · simp [hU]
  | short hx => simp [basicBody?, hx]
  | long hx => simp [basicBody?, hx]

/-- What stands between the quotes is read back. -/
theorem SpellsText.basicBody?_append {s w : Text} (h : SpellsText s w) (r : Text) :
    basicBody? (w ++ '"' :: r) = some (s, r) := by
  induction h with
  | nil => exact basicBody?_quote r
  | plain hcontrol hquote hslash _ ih =>
    rw [List.cons_append, basicBody?_plain hcontrol hquote hslash, ih, push_some]
  | escape he _ ih => rw [List.append_assoc, basicBody?_escape he, ih, push_some]

theorem exists_spells_of_basicBody? {t s r : Text} (h : basicBody? t = some (s, r)) :
    ∃ w, t = w ++ '"' :: r ∧ SpellsText s w := by
  fun_induction basicBody? t generalizing s with
  | case1 => cases h
  | case2 t =>
    cases h
    exact ⟨[], rfl, .nil⟩
  | case3 a b c d t ih =>
    obtain ⟨x, s, hx, hs, rfl⟩ := push_eq_some h
    obtain ⟨w, rfl, hw⟩ := ih hs
    exact ⟨_, rfl, .escape (.short hx) hw⟩
  | case4 a b c d e f g h' t ih =>
    obtain ⟨x, s, hx, hs, rfl⟩ := push_eq_some h
    obtain ⟨w, rfl, hw⟩ := ih hs
    exact ⟨_, rfl, .escape (.long hx) hw⟩
  | case5 c t hu hU ih =>
    obtain ⟨x, s, hx, hs, rfl⟩ := push_eq_some h
    obtain ⟨w, rfl, hw⟩ := ih hs
    exact ⟨_, rfl, .escape (.named hx) hw⟩
  | case6 => cases h
  | case7 c t hquote _ _ _ hplain ih =>
    simp only [Bool.or_eq_true, decide_eq_true_eq, not_or, Bool.not_eq_true] at hplain
    obtain ⟨s, hs, rfl⟩ := push_some_eq_some h
    obtain ⟨w, rfl, hw⟩ := ih hs
    exact ⟨c :: w, rfl, .plain hplain.1 hquote hplain.2 hw⟩

theorem literalBody?_append {s : Text} (hs : ∀ c ∈ s, isControl c = false ∧ c ≠ '\'') (r : Text) :
    literalBody? (s ++ '\'' :: r) = some (s, r) := by
  induction s with
  | nil => simp [literalBody?]
  | cons c s ih =>
    obtain ⟨hcontrol, hquote⟩ := hs c (List.mem_cons_self ..)
    have hread := ih fun a ha => hs a (List.mem_cons_of_mem c ha)
    simp [literalBody?, hcontrol, hread]

theorem exists_of_literalBody? {t s r : Text} (h : literalBody? t = some (s, r)) :
    t = s ++ '\'' :: r ∧ ∀ c ∈ s, isControl c = false ∧ c ≠ '\'' := by
  fun_induction literalBody? t generalizing s with
  | case1 => cases h
  | case2 t =>
    cases h
    exact ⟨rfl, by simp⟩
  | case3 => cases h
  | case4 c t hquote hcontrol ih =>
    obtain ⟨s, hs, rfl⟩ := push_some_eq_some h
    obtain ⟨rfl, hplain⟩ := ih hs
    exact ⟨rfl, List.forall_mem_cons.2 ⟨⟨by simpa using hcontrol, hquote⟩, hplain⟩⟩

theorem SpellsLineString.reads {s w : Text} (h : SpellsLineString s w) :
    Reads lineString? (fun _ => True) w s := by
  intro r _
  cases h with
  | basic h => simpa [lineString?] using h.basicBody?_append r
  | literal hs => simpa [lineString?] using literalBody?_append hs r

theorem exists_spells_of_lineString? {t s r : Text} (h : lineString? t = some (s, r)) :
    ∃ w, t = w ++ r ∧ SpellsLineString s w := by
  unfold lineString? at h
  split at h
  · obtain ⟨w, rfl, hw⟩ := exists_spells_of_basicBody? h
    exact ⟨'"' :: (w ++ ['"']), by simp, .basic hw⟩
  · obtain ⟨rfl, hs⟩ := exists_of_literalBody? h
    exact ⟨'\'' :: (s ++ ['\'']), by simp, .literal hs⟩
  · cases h

/-! ### Strings on several lines -/

theorem SpellsLines.three_le {q : Char} {s w : Text} (h : SpellsLines q s w) : 3 ≤ w.length := by
  induction h with
  | close hn => simp
  | quote _ _ ih | plain _ _ _ _ ih => exact Nat.le_succ_of_le ih
  | lineBreak _ _ ih | escape _ _ _ ih => simp; omega
  | fold _ _ _ _ _ _ ih => simp; omega

theorem SpellsLines.ne_nil {q : Char} {s w : Text} (h : SpellsLines q s w) : w ≠ [] := by
  rintro rfl
  exact absurd h.three_le (by simp)

/-- The closing quotes are there, so that what follows them does not matter. -/
theorem SpellsLines.take_two_append {q : Char} {s w : Text} (h : SpellsLines q s w) (r : Text) :
    (w ++ r).take 2 = w.take 2 :=
  List.take_append_of_le_length (Nat.le_of_succ_le h.three_le)

theorem restOfLineEmpty_lineBreak {sp b : Text} (hsp : sp.all isSpace) (hb : LineBreak b)
    (t : Text) : restOfLineEmpty (sp ++ (b ++ t)) = true := by
  rw [restOfLineEmpty, skipSpace_append hsp]
  cases hb <;> rfl

theorem restOfLineEmpty_of_solid {w : Text} (h : Solid w) (hne : w ≠ []) (r : Text) :
    restOfLineEmpty (w ++ r) = false := by
  obtain ⟨c, w, rfl⟩ := List.exists_cons_of_ne_nil hne
  obtain ⟨hspace, hline, hreturn⟩ := h c rfl
  simp [restOfLineEmpty, skipSpace_cons_of_not hspace, hline, hreturn]

theorem basicLinesBody?_fold {c : Char} {t : Text} (h : restOfLineEmpty (c :: t)) (joining : Bool) :
    basicLinesBody? joining ('\\' :: c :: t) = basicLinesBody? true t := by
  have hu : c ≠ 'u' := by rintro rfl; simp [restOfLineEmpty, skipSpace, isSpace] at h
  have hU : c ≠ 'U' := by rintro rfl; simp [restOfLineEmpty, skipSpace, isSpace] at h
  rw [basicLinesBody?.eq_7, if_pos h] <;> simp [hu, hU]

theorem basicLinesBody?_plain {c : Char} {t : Text} (hslash : c ≠ '\\')
    (hquote : c = '"' → t.take 2 ≠ ['"', '"']) (hreturn : c ≠ '\r')
    (joining : Bool) :
    basicLinesBody? joining (c :: t) =
      if joining && (isSpace c || c == '\n') then basicLinesBody? true t
      else if c = '\n' then push (some c) (basicLinesBody? false t)
      else if isControl c then none
      else push (some c) (basicLinesBody? false t) := by
  rw [basicLinesBody?.eq_9]
  · simp [hslash]
  · rintro t' rfl rfl; simp at hquote
  · rintro t' rfl rfl; simp at hquote
  · rintro t' rfl rfl; simp at hquote
  · simp [hslash]
  · simp [hslash]
  · simp [hslash]
  · rintro t' rfl; simp at hreturn

theorem Escape.solid {c : Char} {e : Text} (h : Escape c e) (w : Text) : Solid (e ++ w) := by
  cases h <;> · rintro c ⟨⟩; decide

theorem solid_of_escaped? {c x : Char} (h : escaped? x = some c) : Solid [x] := by
  rintro a ⟨⟩
  refine ⟨?_, ?_, ?_⟩
  · by_contra hspace
    rcases (isSpace_iff x).1 (by simpa using hspace) with rfl | rfl <;> cases h
  · rintro rfl; cases h
  · rintro rfl; cases h

theorem basicLinesBody?_escape {c : Char} {e : Text} (h : Escape c e) (joining : Bool) (t : Text) :
    basicLinesBody? joining (e ++ t) = push (some c) (basicLinesBody? false t) := by
  cases h with
  | @named x hx =>
    have hu : x ≠ 'u' := by rintro rfl; cases hx
    have hU : x ≠ 'U' := by rintro rfl; cases hx
    have hempty : restOfLineEmpty (x :: t) = false :=
      restOfLineEmpty_of_solid (solid_of_escaped? hx) (List.cons_ne_nil x []) t
    rw [List.cons_append, List.cons_append, List.nil_append, basicLinesBody?.eq_7,
      if_neg (by simp [hempty]), hx]
    · simp [hu]
    · simp [hU]
  | short hx => simp [basicLinesBody?, hx]
  | long hx => simp [basicLinesBody?, hx]

/-- After an escaped line end, white space and line ends are passed over. -/
theorem basicLinesBody?_filler {gap : Text} (h : Filler false gap) (t : Text) :
    basicLinesBody? true (gap ++ t) = basicLinesBody? true t := by
  induction h with
  | nil => rfl
  | @space c w hc _ ih =>
    rcases (isSpace_iff c).1 hc with rfl | rfl
    · rw [List.cons_append, basicLinesBody?_plain] <;> simp [isSpace, ih]
    · rw [List.cons_append, basicLinesBody?_plain] <;> simp [isSpace, ih]
  | lineBreak hb _ ih =>
    cases hb with
    | newline =>
      rw [List.cons_append, List.cons_append, basicLinesBody?_plain] <;> simp [isSpace, ih]
    | returned => simp [basicLinesBody?_return, ih]
  | comment hcomments => cases hcomments

theorem Filler.append_space {comments : Bool} {sp w : Text} (hsp : sp.all isSpace)
    (h : Filler comments w) : Filler comments (sp ++ w) := by
  induction sp with
  | nil => exact h
  | cons c sp ih =>
    simp only [List.all_cons, Bool.and_eq_true] at hsp
    exact .space hsp.1 (ih hsp.2)

theorem basicLinesBody?_fold_append {sp b gap : Text} (hsp : sp.all isSpace) (hb : LineBreak b)
    (hgap : Filler false gap) (joining : Bool) (t : Text) :
    basicLinesBody? joining ('\\' :: (sp ++ (b ++ (gap ++ t)))) = basicLinesBody? true t := by
  have hempty := restOfLineEmpty_lineBreak hsp hb (gap ++ t)
  -- the first character is passed over with the backslash
  obtain ⟨c, rest, hrest, hfiller⟩ :
      ∃ c rest, sp ++ (b ++ gap) = c :: rest ∧ Filler false rest := by
    cases sp with
    | nil =>
      cases hb with
      | newline => exact ⟨_, _, rfl, hgap⟩
      | returned => exact ⟨_, _, rfl, .lineBreak .newline hgap⟩
    | cons c sp =>
      simp only [List.all_cons, Bool.and_eq_true] at hsp
      exact ⟨_, _, rfl, .append_space hsp.2 (.lineBreak hb hgap)⟩
  have heq : sp ++ (b ++ (gap ++ t)) = c :: (rest ++ t) := by
    rw [← List.cons_append, ← hrest]
    simp
  rw [heq] at hempty ⊢
  rw [basicLinesBody?_fold hempty, basicLinesBody?_filler hfiller]

/-- What stands behind three double quotes is read back, also after an escaped line end unless
that passes over its beginning. -/
theorem SpellsLines.basicLinesBody?_append {s w : Text} (h : SpellsLines '"' s w) (joining : Bool)
    (hsolid : joining → Solid w) {r : Text} (hr : r.head? ≠ some '"') :
    basicLinesBody? joining (w ++ r) = some (s, r) := by
  -- an escaped line end only matters to the first character, so that all but the last case go on
  -- without one
  induction h generalizing joining with
  | @close n hn =>
    have hcases : n = 0 ∨ n = 1 ∨ n = 2 := by omega
    rcases hcases with rfl | rfl | rfl
    · cases r <;> simp_all [basicLinesBody?]
    · cases r <;> simp_all [basicLinesBody?, List.replicate]
    · simp [basicLinesBody?, List.replicate]
  | @quote s w hw h ih =>
    rw [List.cons_append, basicLinesBody?_plain (by decide) (fun _ => ?_) (by decide),
      ih false (by simp)]
    · simp [isSpace, isControl]
    · rwa [h.take_two_append]
  | @plain c s w hcontrol hquote hslash h ih =>
    have hreturn : c ≠ '\r' := by rintro rfl; cases hcontrol
    have hline : c ≠ '\n' := by rintro rfl; cases hcontrol
    have hpassed : ¬ (joining && (isSpace c || c == '\n')) := by
      intro hpassed
      simp only [Bool.and_eq_true, Bool.or_eq_true, beq_iff_eq, hline, or_false] at hpassed
      simp [(hsolid hpassed.1 c rfl).1] at hpassed
    rw [List.cons_append, basicLinesBody?_plain (hslash rfl) (fun hc => absurd hc hquote) hreturn,
      if_neg hpassed, if_neg hline, if_neg (by simp [hcontrol]), ih false (by simp), push_some]
  | @lineBreak b s w hb h ih =>
    -- after an escaped line end this one would have been passed over
    have hjoining : joining = false := by
      cases joining with
      | false => rfl
      | true => cases hb <;> exact absurd (hsolid rfl _ rfl) (by decide)
    subst hjoining
    cases hb with
    | newline =>
      rw [List.append_assoc, List.cons_append, basicLinesBody?_plain] <;> simp [ih]
    | returned => simp [basicLinesBody?_return, ih]
  | escape _ he _ ih =>
    rw [List.append_assoc, basicLinesBody?_escape he, ih false (by simp), push_some]
  | fold _ hsp hb hgap hw _ ih =>
    simpa using (basicLinesBody?_fold_append hsp hb hgap joining _).trans (ih true fun _ => hw)

theorem Filler.of_newline {comments : Bool} {g : Text} (h : Filler comments ('\n' :: g)) :
    Filler comments g := by
  generalize hw : '\n' :: g = w at h
  cases h with
  | nil | comment => cases hw
  | space hc _ =>
    cases hw
    cases hc
  | lineBreak hb h =>
    cases hb <;> cases hw
    exact h

/-- White space and line ends that make a line end empty begin with its rest and itself. -/
theorem Filler.exists_lineBreak {gap w : Text} (h : Filler false gap) (hw : Solid w) (hne : w ≠ [])
    {r : Text} (hempty : restOfLineEmpty (gap ++ (w ++ r))) :
    ∃ sp b gap', gap = sp ++ (b ++ gap') ∧ sp.all isSpace ∧ LineBreak b ∧ Filler false gap' := by
  induction h with
  | nil =>
    rw [List.nil_append, restOfLineEmpty_of_solid hw hne r] at hempty
    cases hempty
  | @space c gap hc _ ih =>
    have hrest : restOfLineEmpty (gap ++ (w ++ r)) := by
      rw [← hempty]
      simp [restOfLineEmpty, skipSpace, hc]
    obtain ⟨sp, b, gap', rfl, hsp, hb, hgap⟩ := ih hrest
    exact ⟨c :: sp, b, gap', rfl, by simp [hc, hsp], hb, hgap⟩
  | lineBreak hb h => exact ⟨[], _, _, rfl, rfl, hb, h⟩
  | comment hcomments => cases hcomments

/-- A character that takes part in no other form stands for itself, a quote among them. -/
theorem SpellsLines.cons {q c : Char} {s w r : Text} (h : SpellsLines q s w)
    (hcontrol : isControl c = false) (hquote : ∀ t, c = q → w ++ r = q :: q :: t → False)
    (hslash : q = '"' → c ≠ '\\') : SpellsLines q (c :: s) (c :: w) := by
  by_cases hc : c = q
  · -- the quotes behind a quote are looked for in `w`, which has all three of the closing ones
    subst hc
    refine .quote (fun htake => ?_) h
    have hw : w = c :: c :: w.drop 2 := by rw [← List.take_append_drop 2 w, htake]; rfl
    exact hquote (w.drop 2 ++ r) rfl (by rw [hw]; rfl)
  · exact .plain hcontrol hc hslash h

/-- What is read as `s` behind three double quotes, before the rest `r`: after an escaped line end,
white space and line ends, and then the characters of the string. -/
def BasicLines (joining : Bool) (t s r : Text) : Prop :=
  ∃ gap w, t = gap ++ (w ++ r) ∧ Filler false gap ∧ SpellsLines '"' s w ∧
    if joining then Solid w else gap = []

theorem BasicLines.of_spells {joining : Bool} {s w r : Text} (h : SpellsLines '"' s w)
    (hw : Solid w) : BasicLines joining (w ++ r) s r := by
  refine ⟨[], w, rfl, .nil, h, ?_⟩
  cases joining with
  | false => rfl
  | true => exact hw

theorem BasicLines.exists_spells {t s r : Text} (h : BasicLines false t s r) :
    ∃ w, t = w ++ r ∧ SpellsLines '"' s w := by
  obtain ⟨gap, w, rfl, -, hw, rfl⟩ := h
  exact ⟨w, rfl, hw⟩

/-- A line end that was escaped takes along white space and line ends. -/
theorem BasicLines.fold {joining : Bool} {c : Char} {t s r : Text} (h : BasicLines true t s r)
    (hempty : restOfLineEmpty (c :: t)) : BasicLines joining ('\\' :: c :: t) s r := by
  obtain ⟨gap, w, rfl, hgap, hspells, hw⟩ := h
  have hfiller : ∃ sp b gap', c :: gap = sp ++ (b ++ gap') ∧ sp.all isSpace ∧ LineBreak b ∧
      Filler false gap' := by
    by_cases hspace : isSpace c
    · exact (Filler.space hspace hgap).exists_lineBreak hw hspells.ne_nil hempty
    · -- `c` is the line end itself, or the carriage return before it
      have hskip := skipSpace_cons_of_not (by simpa using hspace) (gap ++ (w ++ r))
      rw [restOfLineEmpty, hskip] at hempty
      split at hempty
      · next hline =>
        cases hline
        exact ⟨[], ['\n'], gap, rfl, rfl, .newline, hgap⟩
      · next t' hline =>
        obtain ⟨rfl, hline⟩ := List.cons.inj hline
        cases gap with
        | nil =>
          obtain ⟨a, w, rfl⟩ := List.exists_cons_of_ne_nil hspells.ne_nil
          cases hline
          exact absurd rfl (hw '\n' rfl).2.1
        | cons a gap =>
          cases hline
          exact ⟨[], ['\r', '\n'], gap, rfl, rfl, .returned, hgap.of_newline⟩
      · cases hempty
  obtain ⟨sp, b, gap', heq, hsp, hb, hgap'⟩ := hfiller
  have hfold : '\\' :: c :: (gap ++ (w ++ r)) = '\\' :: (sp ++ (b ++ (gap' ++ w))) ++ r := by
    rw [← List.cons_append, heq]
    simp
  rw [hfold]
  exact .of_spells (.fold rfl hsp hb hgap' hw hspells) (by rintro c ⟨⟩; decide)

/-- What is escaped stands for a character, with or without an escaped line end before it. -/
theorem BasicLines.escape {joining : Bool} {x : Option Char} {e t s r : Text}
    (h : push x (basicLinesBody? false t) = some (s, r)) (hx : ∀ c, x = some c → Escape c e)
    (ht : ∀ {s}, basicLinesBody? false t = some (s, r) → BasicLines false t s r) :
    BasicLines joining (e ++ t) s r := by
  obtain ⟨c, s, hc, hs, rfl⟩ := push_eq_some h
  obtain ⟨w, rfl, hw⟩ := (ht hs).exists_spells
  have he := hx c hc
  rw [← List.append_assoc]
  exact .of_spells (.escape rfl he hw) (he.solid w)

/-- A line end that is not passed over belongs to the string. -/
theorem BasicLines.lineBreak {b t s r : Text} (hb : LineBreak b) (h : BasicLines false t s r) :
    BasicLines false (b ++ t) ('\n' :: s) r := by
  obtain ⟨w, rfl, hw⟩ := h.exists_spells
  exact ⟨[], b ++ w, by simp, .nil, .lineBreak hb hw, rfl⟩

theorem basicLines_of_basicLinesBody? {joining : Bool} {t s r : Text}
    (h : basicLinesBody? joining t = some (s, r)) : BasicLines joining t s r := by
  fun_induction basicLinesBody? joining t generalizing s with
  | case1 => cases h
  -- one or two of the quotes before the closing ones belong to the string
  | case2 =>
    cases h
    exact .of_spells (.close (n := 2) (by decide)) (by rintro c ⟨⟩; decide)
  | case3 =>
    cases h
    exact .of_spells (.close (n := 1) (by decide)) (by rintro c ⟨⟩; decide)
  | case4 =>
    cases h
    exact .of_spells (.close (n := 0) (by decide)) (by rintro c ⟨⟩; decide)
  | case5 joining a b c d t ih => exact BasicLines.escape h (fun _ => .short) ih
  | case6 joining a b c d e f g h' t ih => exact BasicLines.escape h (fun _ => .long) ih
  -- a backslash escapes the line end if only white space stands before it, else a character
  | case7 joining c t hu hU hempty ih => exact (ih h).fold hempty
  | case8 joining c t hu hU hempty ih => exact BasicLines.escape h (fun _ => .named) ih
  | case9 t ih =>
    obtain ⟨gap, w, rfl, hgap, hw⟩ := ih h
    exact ⟨'\r' :: '\n' :: gap, w, rfl, .lineBreak .returned hgap, hw⟩
  | case10 joining t hjoining ih =>
    obtain rfl : joining = false := by simpa using hjoining
    obtain ⟨s, hs, rfl⟩ := push_some_eq_some h
    exact .lineBreak .returned (ih hs)
  | case11 joining c t _ _ hquote _ _ _ hreturn hspace ih =>
    simp only [Bool.and_eq_true, Bool.or_eq_true, beq_iff_eq] at hspace
    obtain ⟨rfl, hspace⟩ := hspace
    obtain ⟨gap, w, rfl, hgap, hw⟩ := ih h
    refine ⟨c :: gap, w, rfl, ?_, hw⟩
    rcases hspace with hspace | rfl
    · exact .space hspace hgap
    · exact .lineBreak .newline hgap
  | case12 joining t _ _ hquote _ _ _ hreturn hspace ih =>
    obtain ⟨s, hs, rfl⟩ := push_some_eq_some h
    obtain rfl : joining = false := by simpa using hspace
    exact .lineBreak .newline (ih hs)
  | case13 => cases h
  | case14 joining c t _ _ hquote _ _ _ hreturn hspace hline hplain ih =>
    simp only [Bool.or_eq_true, decide_eq_true_eq, not_or, Bool.not_eq_true] at hplain
    obtain ⟨s, hs, rfl⟩ := push_some_eq_some h
    obtain ⟨w, rfl, hw⟩ := (ih hs).exists_spells
    refine ⟨[], _, rfl, .nil, hw.cons hplain.1 hquote fun _ => hplain.2, ?_⟩
    split
    · next hjoining =>
      simp only [hjoining, Bool.true_and, Bool.or_eq_true, not_or] at hspace
      rintro a ⟨⟩
      exact ⟨by simpa using hspace.1, hline, by rintro rfl; cases hplain.1⟩
    · rfl

/-! ### Literal strings on several lines -/

theorem literalLinesBody?_plain {c : Char} {t : Text} (hplain : ¬ (isControl c && c != '\n'))
    (hquote : c = '\'' → t.take 2 ≠ ['\'', '\'']) (hreturn : c ≠ '\r') :
    literalLinesBody? (c :: t) = push (some c) (literalLinesBody? t) := by
  rw [literalLinesBody?.eq_6, if_neg hplain]
  · rintro t' rfl rfl; simp at hquote
  · rintro t' rfl rfl; simp at hquote
  · rintro t' rfl rfl; simp at hquote
  · rintro t' rfl; simp at hreturn

theorem SpellsLines.literalLinesBody?_append {s w : Text} (h : SpellsLines '\'' s w) {r : Text}
    (hr : r.head? ≠ some '\'') : literalLinesBody? (w ++ r) = some (s, r) := by
  induction h with
  | @close n hn =>
    have hcases : n = 0 ∨ n = 1 ∨ n = 2 := by omega
    rcases hcases with rfl | rfl | rfl
    · cases r <;> simp_all [literalLinesBody?]
    · cases r <;> simp_all [literalLinesBody?, List.replicate]
    · simp [literalLinesBody?, List.replicate]
  | @quote s w hw h ih =>
    rw [List.cons_append, literalLinesBody?_plain (by decide) (fun _ => ?_) (by decide), ih,
      push_some]
    rwa [h.take_two_append]
  | @plain c s w hcontrol hquote _ _ ih =>
    have hreturn : c ≠ '\r' := by rintro rfl; cases hcontrol
    rw [List.cons_append, literalLinesBody?_plain (by simp [hcontrol])
      (fun hc => absurd hc hquote) hreturn, ih, push_some]
  | lineBreak hb _ ih =>
    cases hb with
    | newline =>
      rw [List.append_assoc, List.cons_append, literalLinesBody?_plain] <;> simp [ih]
    | returned => simp [literalLinesBody?, ih]
  | escape hq | fold hq => exact absurd hq (by decide)

theorem exists_spells_of_literalLinesBody? {t s r : Text}
    (h : literalLinesBody? t = some (s, r)) : ∃ w, t = w ++ r ∧ SpellsLines '\'' s w := by
  fun_induction literalLinesBody? t generalizing s with
  | case1 => cases h
  | case2 =>
    cases h
    exact ⟨_, rfl, .close (n := 2) (by decide)⟩
  | case3 =>
    cases h
    exact ⟨_, rfl, .close (n := 1) (by decide)⟩
  | case4 =>
    cases h
    exact ⟨_, rfl, .close (n := 0) (by decide)⟩
  | case5 t ih =>
    obtain ⟨s, hs, rfl⟩ := push_some_eq_some h
    obtain ⟨w, rfl, hw⟩ := ih hs
    exact ⟨_, rfl, .lineBreak .returned hw⟩
  | case6 => cases h
  | case7 c t _ _ hquote hreturn hplain ih =>
    obtain ⟨s, hs, rfl⟩ := push_some_eq_some h
    obtain ⟨w, rfl, hw⟩ := ih hs
    by_cases hline : c = '\n'
    · subst hline
      exact ⟨_, rfl, .lineBreak .newline hw⟩
    · have hcontrol : isControl c = false := by simpa [hline] using hplain
      exact ⟨_, rfl, hw.cons hcontrol hquote fun hq => absurd hq (by decide)⟩

/-! ### Strings -/

/-- Neither quote stands first. -/
def Unquoted (r : Text) : Prop := r.head? ≠ some '"' ∧ r.head? ≠ some '\''

theorem SpellsText.head_ne_quote {s w : Text} (h : SpellsText s w) : w.head? ≠ some '"' := by
  cases h with
  | nil => simp
  | plain _ hquote _ _ => simpa using hquote
  | escape he _ => cases he <;> simp

/-- A line's string is not opened by three quotes. -/
theorem SpellsLineString.ne_quotes {s w r : Text} (h : SpellsLineString s w) (hr : Unquoted r)
    (q : Char) (t : Text) : w ++ r ≠ q :: q :: q :: t := by
  intro heq
  cases h with
  | @basic w h =>
    cases w with
    | nil =>
      cases heq
      exact hr.1 rfl
    | cons c w =>
      simp only [List.cons_append, List.cons.injEq] at heq
      exact h.head_ne_quote (by simp [heq.2.1, ← heq.1])
  | literal hs =>
    cases s with
    | nil =>
      cases heq
      exact hr.2 rfl
    | cons c s =>
      simp only [List.cons_append, List.cons.injEq] at heq
      exact (hs c (List.mem_cons_self ..)).2 (heq.2.1.trans heq.1.symm)

theorem dropLineEnd_lineBreak {b : Text} (h : LineBreak b) (t : Text) :
    dropLineEnd (b ++ t) = t := by
  cases h <;> rfl

theorem SpellsLines.dropLineEnd_append {q : Char} {s w : Text} (h : SpellsLines q s w)
    (hw : ∀ b w', LineBreak b → w ≠ b ++ w') (r : Text) : dropLineEnd (w ++ r) = w ++ r := by
  obtain ⟨a, b, rest, rfl⟩ : ∃ a b rest, w = a :: b :: rest := by
    match w, h.three_le with
    | a :: b :: rest, _ => exact ⟨a, b, rest, rfl⟩
  rw [dropLineEnd.eq_3]
  · rintro t' ⟨⟩
    exact hw ['\n'] (b :: rest) .newline rfl
  · rintro t' ⟨⟩
    exact hw ['\r', '\n'] rest .returned rfl

theorem exists_of_dropLineEnd (t : Text) :
    (∃ b, LineBreak b ∧ t = b ++ dropLineEnd t) ∨
      (t = dropLineEnd t ∧ ∀ b w', LineBreak b → t ≠ b ++ w') := by
  unfold dropLineEnd
  split
  · exact .inl ⟨_, .newline, rfl⟩
  · exact .inl ⟨_, .returned, rfl⟩
  · next hline hreturn =>
    refine .inr ⟨rfl, fun b w' hb heq => ?_⟩
    cases hb with
    | newline => exact hline _ heq
    | returned => exact hreturn _ heq

theorem SpellsLines.string?_append {q : Char} {s w t r : Text} (hq : q = '"' ∨ q = '\'')
    (h : SpellsLines q s w) (ht : dropLineEnd t = w ++ r) (hr : Unquoted r) :
    string? (q :: q :: q :: t) = some (s, r) := by
  rcases hq with rfl | rfl
  · rw [string?, ht, h.basicLinesBody?_append false (by simp) hr.1]
  · rw [string?, ht, h.literalLinesBody?_append hr.2]

/-- What has the form of a string is read as the string that it spells. -/
theorem SpellsString.reads {s w : Text} (h : SpellsString s w) : Reads string? Unquoted w s := by
  intro r hr
  cases h with
  | line h =>
    rw [string?.eq_3, h.reads r trivial]
    · exact fun t => h.ne_quotes hr '"' t
    · exact fun t => h.ne_quotes hr '\'' t
  | lines hq h hw => exact h.string?_append hq (h.dropLineEnd_append hw r) hr
  | linesBelow hq hb h =>
    exact h.string?_append hq ((congrArg dropLineEnd (List.append_assoc ..)).trans
      (dropLineEnd_lineBreak hb _)) hr

theorem exists_spells_of_lines {q : Char} {s t w r : Text} (hq : q = '"' ∨ q = '\'')
    (ht : dropLineEnd t = w ++ r) (h : SpellsLines q s w) :
    ∃ w, q :: q :: q :: t = w ++ r ∧ SpellsString s w := by
  rcases exists_of_dropLineEnd t with ⟨b, hb, heq⟩ | ⟨heq, hline⟩
  · refine ⟨_, ?_, .linesBelow hq hb h⟩
    rw [heq, ht]
    simp
  · refine ⟨_, ?_, .lines hq h fun b w' hb hw => ?_⟩
    · rw [heq, ht]
      rfl
    · refine hline b (w' ++ r) hb ?_
      rw [heq, ht, hw, List.append_assoc]

/-- What is read as a string has the form of one. -/
theorem exists_spells_of_string? {t s r : Text} (h : string? t = some (s, r)) :
    ∃ w, t = w ++ r ∧ SpellsString s w := by
  unfold string? at h
  split at h
  · obtain ⟨w, ht, hw⟩ := (basicLines_of_basicLinesBody? h).exists_spells
    exact exists_spells_of_lines (.inl rfl) ht hw
  · obtain ⟨w, ht, hw⟩ := exists_spells_of_literalLinesBody? h
    exact exists_spells_of_lines (.inr rfl) ht hw
  · obtain ⟨w, ht, hw⟩ := exists_spells_of_lineString? h
    exact ⟨w, ht, .line hw⟩

theorem lineString?_of_not {c : Char} (hbasic : c ≠ '"') (hliteral : c ≠ '\'') (t : Text) :
    lineString? (c :: t) = none := by
  rw [lineString?.eq_3]
  · rintro t' ⟨⟩; exact hbasic rfl
  · rintro t' ⟨⟩; exact hliteral rfl

theorem string?_of_not {c : Char} (hbasic : c ≠ '"') (hliteral : c ≠ '\'') (t : Text) :
    string? (c :: t) = none := by
  rw [string?.eq_3, lineString?_of_not hbasic hliteral]
  · rintro t' ⟨⟩; exact hbasic rfl
  · rintro t' ⟨⟩; exact hliteral rfl

end Toml
end Marginalia
