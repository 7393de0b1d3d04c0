import Marginalia.Proofs.ValueReading
import Marginalia.Proofs.Statements

/-!
# Layout

A document can be laid out in many ways: its lines can be indented and end in white space,
comments can stand at their ends or alone, there can be blank lines, and a line can be broken
in two ways.  Here the grammar of keys and values is carried on to lines and documents, and the
reader is compared with it.

## Main definitions

* `Toml.Row`, `Toml.Trailing` — the parts of a line.
* `Toml.Lines`, `Toml.Laid` — whole lines and whole documents that make given statements.

## Main results

* `Toml.statementsOf?_append` — lines in front of a text only add their statements.
* `Toml.statementsOf?_eq_some_iff` — **the reader finds the statements that are laid out, and
  fails on all other texts.**
-/

namespace Marginalia
namespace Toml

/-! ### The parts of a line -/

/-- What a line says, and its characters up to the end of that. -/
inductive Row : Option Statement → Text → Prop where
  | blank {indent : Text} (hindent : indent.all isSpace) : Row none indent
  | pair {keys : List Text} {v : Value} {indent k sp sp' w : Text} (hindent : indent.all isSpace)
      (hkey : SpellsKey keys k) (hsp : sp.all isSpace) (hsp' : sp'.all isSpace)
      (hvalue : SpellsValue 0 v w) :
      Row (some (.pair keys v)) (indent ++ (k ++ (sp ++ '=' :: (sp' ++ w))))
  | table {keys : List Text} {indent sp k sp' : Text} (hindent : indent.all isSpace)
      (hsp : sp.all isSpace) (hkey : SpellsKey keys k) (hsp' : sp'.all isSpace) :
      Row (some (.table keys)) (indent ++ '[' :: (sp ++ (k ++ (sp' ++ [']']))))
  | element {keys : List Text} {indent sp k sp' : Text} (hindent : indent.all isSpace)
      (hsp : sp.all isSpace) (hkey : SpellsKey keys k) (hsp' : sp'.all isSpace) :
      Row (some (.element keys)) (indent ++ '[' :: '[' :: (sp ++ (k ++ (sp' ++ [']', ']']))))

/-- White space and perhaps a comment, which is what a line ends in. -/
inductive Trailing : Text → Prop where
  | space {sp : Text} (hsp : sp.all isSpace) : Trailing sp
  | comment {sp c : Text} (hsp : sp.all isSpace) (hc : c.all fun c => !isControl c) :
      Trailing (sp ++ '#' :: c)

/-- Lines, all of which are broken at their ends. -/
inductive Lines : List Statement → Text → Prop where
  | nil : Lines [] []
  | cons {s : Option Statement} {ss : List Statement} {w e b t : Text} (hrow : Row s w)
      (htrailing : Trailing e) (hbreak : LineBreak b) (hlines : Lines ss t) :
      Lines (s.toList ++ ss) (w ++ (e ++ (b ++ t)))

/-- A document: lines, and a last one that is not broken at its end. -/
inductive Laid : List Statement → Text → Prop where
  | last {ss : List Statement} {s : Option Statement} {t w e : Text} (hlines : Lines ss t)
      (hrow : Row s w) (htrailing : Trailing e) : Laid (ss ++ s.toList) (t ++ (w ++ e))

/-! ### The ends of lines -/

theorem lineEnd?_space {sp : Text} (h : sp.all isSpace) (t : Text) :
    lineEnd? false (sp ++ t) = lineEnd? false t := by
  induction sp with
  | nil => rfl
  | cons c sp ih =>
    simp only [List.all_cons, Bool.and_eq_true] at h
    rcases (isSpace_iff c).1 h.1 with rfl | rfl <;> simpa [lineEnd?, isSpace] using ih h.2

theorem lineEnd?_comment {c : Text} (h : c.all fun c => !isControl c) (t : Text) :
    lineEnd? true (c ++ t) = lineEnd? true t := by
  induction c with
  | nil => rfl
  | cons a c ih =>
    simp only [List.all_cons, Bool.and_eq_true, Bool.not_eq_true'] at h
    have hline : a ≠ '\n' := by rintro rfl; exact absurd h.1 (by decide)
    have hreturn : a ≠ '\r' := by rintro rfl; exact absurd h.1 (by decide)
    simpa [lineEnd?, hline, hreturn, h.1] using ih h.2

theorem lineEnd?_hash (t : Text) : lineEnd? false ('#' :: t) = lineEnd? true t := by
  simp [lineEnd?, isSpace]

theorem lineEnd?_lineBreak {b : Text} (h : LineBreak b) (inComment : Bool) (t : Text) :
    lineEnd? inComment (b ++ t) = some t := by
  cases h <;> simp [lineEnd?]

theorem lineEnd?_trailing {e b : Text} (h : Trailing e) (hb : LineBreak b) (t : Text) :
    lineEnd? false (e ++ (b ++ t)) = some t := by
  cases h with
  | space hsp => rw [lineEnd?_space hsp, lineEnd?_lineBreak hb]
  | comment hsp hc =>
    rw [List.append_assoc, lineEnd?_space hsp, List.cons_append, lineEnd?_hash,
      lineEnd?_comment hc, lineEnd?_lineBreak hb]

theorem lineEnd?_trailing_last {e : Text} (h : Trailing e) : lineEnd? false e = some [] := by
  cases h with
  | @space sp hsp =>
    have hspace := lineEnd?_space hsp []
    rwa [List.append_nil] at hspace
  | @comment sp c hsp hc =>
    have hcomment := lineEnd?_comment hc []
    rw [List.append_nil] at hcomment
    rw [lineEnd?_space hsp, lineEnd?_hash, hcomment]
    rfl

theorem exists_of_lineEnd?_comment {r rest : Text} (h : lineEnd? true r = some rest) :
    ∃ c b, r = c ++ (b ++ rest) ∧ (c.all fun c => !isControl c) ∧
      (LineBreak b ∨ b = [] ∧ rest = []) := by
  induction r with
  | nil =>
    cases h
    exact ⟨[], [], rfl, rfl, .inr ⟨rfl, rfl⟩⟩
  | cons a r ih =>
    rw [lineEnd?] at h
    split at h
    · next hline =>
      cases h
      exact ⟨[], ['\n'], by rw [hline]; rfl, rfl, .inl .newline⟩
    · split at h
      · next hreturn =>
        simp only [Bool.and_eq_true, decide_eq_true_eq, beq_iff_eq] at hreturn
        obtain ⟨rfl, hhead⟩ := hreturn
        obtain ⟨r, rfl⟩ := List.head?_eq_some_iff.1 hhead
        cases h
        exact ⟨[], ['\r', '\n'], rfl, rfl, .inl .returned⟩
      · rw [if_pos rfl] at h
        split at h
        · cases h
        · next hcontrol =>
          obtain ⟨c, b, rfl, hc, hb⟩ := ih h
          exact ⟨a :: c, b, rfl, by simpa [hc] using hcontrol, hb⟩

theorem not_isSpace_of_skipSpace {c : Char} {t r : Text} (h : skipSpace t = c :: r) :
    isSpace c = false := by
  have hhead := List.head?_dropWhile_not isSpace t
  rw [show t.dropWhile isSpace = c :: r from h] at hhead
  simpa using hhead

theorem exists_of_lineEnd? {r rest : Text} (h : lineEnd? false r = some rest) :
    ∃ e b, r = e ++ (b ++ rest) ∧ Trailing e ∧ (LineBreak b ∨ b = [] ∧ rest = []) := by
  obtain ⟨sp, hsp, hspace⟩ := exists_skipSpace r
  rw [hsp, lineEnd?_space hspace] at h
  cases hskip : skipSpace r with
  | nil =>
    rw [hskip] at h hsp
    cases h
    exact ⟨sp, [], hsp, .space hspace, .inr ⟨rfl, rfl⟩⟩
  | cons a t =>
    rw [hskip] at h hsp
    have ha : isSpace a = false := not_isSpace_of_skipSpace hskip
    rw [lineEnd?] at h
    split at h
    · next hline =>
      cases h
      exact ⟨sp, ['\n'], by rw [hsp, hline]; rfl, .space hspace, .inl .newline⟩
    · split at h
      · next hreturn =>
        simp only [Bool.and_eq_true, decide_eq_true_eq, beq_iff_eq] at hreturn
        obtain ⟨rfl, hhead⟩ := hreturn
        obtain ⟨t, rfl⟩ := List.head?_eq_some_iff.1 hhead
        cases h
        exact ⟨sp, ['\r', '\n'], hsp, .space hspace, .inl .returned⟩
      · rw [if_neg (by decide), if_neg (by simp [ha])] at h
        split at h
        · next hhash =>
          obtain ⟨c, b, rfl, hc, hb⟩ := exists_of_lineEnd?_comment h
          exact ⟨sp ++ '#' :: c, b, by rw [hsp, hhash]; simp, .comment hspace hc, hb⟩
        · cases h

/-- A line end does not carry on a key or a value. -/
theorem head_of_lineEnd? {r rest : Text} (h : lineEnd? false r = some rest) (c : Char)
    (hc : (skipSpace r).head? = some c) : c = '\n' ∨ c = '\r' ∨ c = '#' := by
  obtain ⟨e, b, rfl, he, hb⟩ := exists_of_lineEnd? h
  cases he with
  | space hsp =>
    rw [skipSpace_append hsp] at hc
    rcases hb with (- | -) | ⟨rfl, rfl⟩
    · cases hc
      exact .inl rfl
    · cases hc
      exact .inr (.inl rfl)
    · cases hc
  | comment hsp =>
    rw [List.append_assoc, List.cons_append, skipSpace_append_cons hsp rfl] at hc
    cases hc
    exact .inr (.inr rfl)

theorem stops_of_lineEnd? {r rest : Text} (h : lineEnd? false r = some rest) : Stops r := by
  intro c hc
  rcases head_of_lineEnd? h c hc with rfl | rfl | rfl <;> decide

/-! ### Reading a line -/

theorem StartsKey.ne_bracket {c : Char} (h : StartsKey c) : c ≠ '[' := by
  rintro rfl
  exact absurd h (by unfold StartsKey; decide)

theorem StartsKey.not_lineEnd {c : Char} (h : StartsKey c) :
    ¬ (c = '\n' ∨ c = '\r' ∨ c = '#') := by
  rintro (rfl | rfl | rfl) <;> exact absurd h (by unfold StartsKey; decide)

theorem stopsKey_bracket (r : Text) : StopsKey (']' :: r) := by
  rintro c ⟨⟩
  decide

theorem headerRow?_element (t : Text) :
    headerRow? ('[' :: t) = (key? (skipSpace t)).bind fun found =>
      (Text.after? [']', ']'] found.2).map fun r => (.element found.1, r) := by
  rw [headerRow?]
  cases key? (skipSpace t) with
  | none => rfl
  | some found => cases hafter : Text.after? [']', ']'] found.2 <;> simp [hafter]

theorem headerRow?_table {t : Text} (h : t.head? ≠ some '[') :
    headerRow? t = (key? (skipSpace t)).bind fun found =>
      (Text.after? [']'] found.2).map fun r => (.table found.1, r) := by
  rw [headerRow?]
  · cases key? (skipSpace t) with
    | none => rfl
    | some found => cases hafter : Text.after? [']'] found.2 <;> simp [hafter]
  · rintro t' rfl
    simp at h

theorem rowBody?_header {t t' : Text} (h : skipSpace t = '[' :: t') :
    rowBody? t = (headerRow? t').map fun found => (some found.1, found.2) := by
  rw [rowBody?, h]
  rfl

theorem rowBody?_blank {t : Text}
    (h : ∀ c, (skipSpace t).head? = some c → c = '\n' ∨ c = '\r' ∨ c = '#') :
    rowBody? t = some (none, skipSpace t) := by
  rw [rowBody?]
  cases hskip : skipSpace t with
  | nil => rfl
  | cons c t' =>
    rcases h c (by rw [hskip]; rfl) with rfl | rfl | rfl <;> rfl

theorem rowBody?_pair {c : Char} {t t' : Text} (h : skipSpace t = c :: t') (hopen : c ≠ '[')
    (hc : ¬ (c = '\n' ∨ c = '\r' ∨ c = '#')) :
    rowBody? t = (pairRow? (c :: t')).map fun found => (some found.1, found.2) := by
  rw [rowBody?, h]
  simp only [not_or] at hc
  simp [hc]

theorem pairRow?_append {keys : List Text} {v : Value} {k sp sp' w r : Text}
    (hkey : SpellsKey keys k) (hsp : sp.all isSpace) (hsp' : sp'.all isSpace)
    (hvalue : SpellsValue 0 v w) (hr : Stops r) :
    pairRow? (k ++ (sp ++ '=' :: (sp' ++ (w ++ r)))) = some (.pair keys v, r) := by
  have hread := hkey.reads hsp (stopsKey_equals (sp' ++ (w ++ r)))
  simp [pairRow?, hread, Text.after?, hvalue.skipSpace_append hsp', hvalue.reads r hr]

/-- A line says what stands on it. -/
theorem row?_row {s : Option Statement} {w r rest : Text} (hrow : Row s w)
    (hend : lineEnd? false r = some rest) : row? (w ++ r) = some (s, rest) := by
  have hstops := stops_of_lineEnd? hend
  cases hrow with
  | blank hindent =>
    have hbody : rowBody? (w ++ r) = some (none, skipSpace (w ++ r)) :=
      rowBody?_blank (by rw [skipSpace_append hindent]; exact head_of_lineEnd? hend)
    obtain ⟨sp, hsp, hspace⟩ := exists_skipSpace r
    rw [hsp, lineEnd?_space hspace] at hend
    simp [row?, hbody, skipSpace_append hindent, hend]
  | @pair keys v indent k sp sp' w hindent hkey hsp hsp' hvalue =>
    have hpair := pairRow?_append hkey hsp hsp' hvalue hstops
    have hskip := hkey.skipSpace_append hindent (sp ++ '=' :: (sp' ++ (w ++ r)))
    obtain ⟨c, k, rfl, hc⟩ := hkey.starts
    have hbody := (rowBody?_pair hskip hc.ne_bracket hc.not_lineEnd).trans
      (congrArg (Option.map _) hpair)
    simp only [List.append_assoc, List.cons_append] at hbody ⊢
    simp [row?, hbody, hend]
  | @table keys indent sp k sp' hindent hsp hkey hsp' =>
    have hkey' := hkey.reads hsp' (stopsKey_bracket r)
    have hskip : skipSpace (indent ++ '[' :: (sp ++ (k ++ (sp' ++ [']']))) ++ r) =
        '[' :: (sp ++ (k ++ (sp' ++ ']' :: r))) := by
      simpa using skipSpace_append_cons hindent rfl (sp ++ (k ++ (sp' ++ ']' :: r)))
    -- a second bracket would have made it an element
    have hopen : (sp ++ (k ++ (sp' ++ ']' :: r))).head? ≠ some '[' := by
      obtain ⟨c, k, rfl, hc⟩ := hkey.starts
      cases sp with
      | nil => simpa using hc.ne_bracket
      | cons a sp =>
        rintro ⟨⟩
        cases hsp
    rw [row?, rowBody?_header hskip, headerRow?_table hopen, hkey.skipSpace_append hsp, hkey']
    simp [Text.after?, hend]
  | @element keys indent sp k sp' hindent hsp hkey hsp' =>
    have hkey' := hkey.reads hsp' (stopsKey_bracket (']' :: r))
    have hskip : skipSpace (indent ++ '[' :: '[' :: (sp ++ (k ++ (sp' ++ [']', ']']))) ++ r) =
        '[' :: '[' :: (sp ++ (k ++ (sp' ++ ']' :: ']' :: r))) := by
      simpa using
        skipSpace_append_cons hindent rfl ('[' :: (sp ++ (k ++ (sp' ++ ']' :: ']' :: r))))
    rw [row?, rowBody?_header hskip, headerRow?_element, hkey.skipSpace_append hsp, hkey']
    simp [Text.after?, hend]

theorem after?_two {a b : Char} {t r : Text} :
    Text.after? [a, b] t = some r ↔ t = a :: b :: r := by
  match t with
  | [] => simp [Text.after?]
  | [c] => by_cases h : a = c <;> simp [Text.after?, h]
  | c :: d :: t =>
    by_cases h : a = c <;> by_cases h' : b = d <;> simp [Text.after?, h, h', eq_comm]

/-- The rows that begin with a bracket. -/
theorem exists_of_headerRow? {s : Statement} {t x : Text} (h : headerRow? t = some (s, x))
    {indent : Text} (hindent : indent.all isSpace) :
    ∃ w, indent ++ '[' :: t = w ++ x ∧ Row (some s) w := by
  by_cases hopen : t.head? = some '['
  · obtain ⟨t, rfl⟩ := List.head?_eq_some_iff.1 hopen
    rw [headerRow?_element] at h
    obtain ⟨⟨keys, y⟩, hkey, h⟩ := Option.bind_eq_some_iff.1 h
    obtain ⟨r, hafter, heq⟩ := Option.map_eq_some_iff.1 h
    cases heq
    have hy : y = ']' :: ']' :: x := after?_two.1 hafter
    subst hy
    obtain ⟨k, sp', hk, hsp', hspells⟩ := exists_spells_of_key? hkey
    obtain ⟨sp, hsp, hspace⟩ := exists_skipSpace t
    refine ⟨_, ?_, .element hindent hspace hspells hsp'⟩
    rw [hsp, hk]
    simp
  · rw [headerRow?_table hopen] at h
    obtain ⟨⟨keys, y⟩, hkey, h⟩ := Option.bind_eq_some_iff.1 h
    obtain ⟨r, hafter, heq⟩ := Option.map_eq_some_iff.1 h
    cases heq
    have hy : y = ']' :: x := after?_singleton.1 hafter
    subst hy
    obtain ⟨k, sp', hk, hsp', hspells⟩ := exists_spells_of_key? hkey
    obtain ⟨sp, hsp, hspace⟩ := exists_skipSpace t
    refine ⟨_, ?_, .table hindent hspace hspells hsp'⟩
    rw [hsp, hk]
    simp

/-- The rows with a key and a value. -/
theorem exists_of_pairRow? {s : Statement} {t x : Text} (h : pairRow? t = some (s, x))
    {indent : Text} (hindent : indent.all isSpace) :
    ∃ w, indent ++ t = w ++ x ∧ Row (some s) w := by
  obtain ⟨⟨keys, y⟩, hkey, h⟩ := Option.bind_eq_some_iff.1 h
  obtain ⟨z, hafter, h⟩ := Option.bind_eq_some_iff.1 h
  obtain ⟨⟨v, x'⟩, hvalue, h⟩ := Option.bind_eq_some_iff.1 h
  cases h
  have hy : y = '=' :: z := after?_singleton.1 hafter
  subst hy
  obtain ⟨k, sp, hk, hsp, hspells⟩ := exists_spells_of_key? hkey
  obtain ⟨sp', hsp', hspace⟩ := exists_skipSpace z
  obtain ⟨w, hw, hwspells⟩ := exists_spells_of_value? hvalue
  refine ⟨_, ?_, .pair hindent hspells hsp hspace hwspells⟩
  rw [hk, hsp', hw]
  simp

/-- What a line says stands on it. -/
theorem exists_of_row? {s : Option Statement} {t rest : Text} (h : row? t = some (s, rest)) :
    ∃ w r, t = w ++ r ∧ Row s w ∧ lineEnd? false r = some rest := by
  obtain ⟨⟨s, x⟩, hbody, h⟩ := Option.bind_eq_some_iff.1 h
  obtain ⟨rest, hend, heq⟩ := Option.map_eq_some_iff.1 h
  cases heq
  obtain ⟨indent, hindent, hspace⟩ := exists_skipSpace t
  by_cases hblank : ∀ c, (skipSpace t).head? = some c → c = '\n' ∨ c = '\r' ∨ c = '#'
  · rw [rowBody?_blank hblank] at hbody
    cases hbody
    exact ⟨indent, skipSpace t, hindent, .blank hspace, hend⟩
  · simp only [not_forall] at hblank
    obtain ⟨c, hc, hblank⟩ := hblank
    obtain ⟨t', ht'⟩ := List.head?_eq_some_iff.1 hc
    rw [ht'] at hindent
    by_cases hopen : c = '['
    · subst hopen
      rw [rowBody?_header ht'] at hbody
      obtain ⟨⟨s, x⟩, hheader, heq⟩ := Option.map_eq_some_iff.1 hbody
      cases heq
      obtain ⟨w, hw, hrow⟩ := exists_of_headerRow? hheader hspace
      exact ⟨w, x, hindent.trans hw, hrow, hend⟩
    · rw [rowBody?_pair ht' hopen hblank] at hbody
      obtain ⟨⟨s, x⟩, hpair, heq⟩ := Option.map_eq_some_iff.1 hbody
      cases heq
      obtain ⟨w, hw, hrow⟩ := exists_of_pairRow? hpair hspace
      exact ⟨w, x, hindent.trans hw, hrow, hend⟩

/-! ### Reading a document -/

@[simp] theorem statementsOf?_nil : statementsOf? [] = some [] := by simp [statementsOf?]

theorem statementsOf?_of_row? {s : Option Statement} {t rest : Text}
    (hrow : row? t = some (s, rest)) (hlt : rest.length < t.length) :
    statementsOf? t = (statementsOf? rest).map (s.toList ++ ·) := by
  have hne : ¬ t.isEmpty := by
    rintro hempty
    simp [List.isEmpty_iff.1 hempty] at hlt
  rw [statementsOf?, if_neg hne, hrow]
  exact if_pos hlt

theorem statementsOf?_of_fault {t : Text} (h : row? t = none) : statementsOf? t = none := by
  have hne : ¬ t.isEmpty := by
    rintro hempty
    obtain rfl := List.isEmpty_iff.1 hempty
    cases h
  rw [statementsOf?, if_neg hne, h]

/-- Lines in front of a text only add their statements. -/
theorem statementsOf?_append {ss : List Statement} {t : Text} (h : Lines ss t) (r : Text) :
    statementsOf? (t ++ r) = (statementsOf? r).map (ss ++ ·) := by
  induction h with
  | nil => simp
  | @cons s ss w e b t hrow htrailing hbreak _ ih =>
    have hread : row? (w ++ (e ++ (b ++ (t ++ r)))) = some (s, t ++ r) :=
      row?_row hrow (lineEnd?_trailing htrailing hbreak _)
    have hlt : (t ++ r).length < (w ++ (e ++ (b ++ (t ++ r)))).length := by
      cases hbreak <;> simp <;> omega
    simp only [List.append_assoc]
    rw [statementsOf?_of_row? hread hlt, ih]
    simp [Function.comp_def]

theorem statementsOf?_of_laid {ss : List Statement} {t : Text} (h : Laid ss t) :
    statementsOf? t = some ss := by
  obtain @⟨ss, s, t, w, e, hlines, hrow, htrailing⟩ := h
  have hread : row? (w ++ e) = some (s, []) := row?_row hrow (lineEnd?_trailing_last htrailing)
  have hlast : statementsOf? (w ++ e) = some s.toList := by
    cases hwe : w ++ e with
    | nil =>
      rw [hwe] at hread
      cases hread
      simp
    | cons c t =>
      rw [hwe] at hread
      rw [statementsOf?_of_row? hread (by simp)]
      simp
  rw [statementsOf?_append hlines, hlast]
  rfl

theorem Laid.cons {s : Option Statement} {ss : List Statement} {w e b t : Text} (hrow : Row s w)
    (htrailing : Trailing e) (hbreak : LineBreak b) (h : Laid ss t) :
    Laid (s.toList ++ ss) (w ++ (e ++ (b ++ t))) := by
  obtain @⟨ss, s', t, w', e', hlines, hrow', htrailing'⟩ := h
  have hlaid := Laid.last (.cons hrow htrailing hbreak hlines) hrow' htrailing'
  simpa using hlaid

theorem laid_of_statementsOf? {ss : List Statement} {t : Text} (h : statementsOf? t = some ss) :
    Laid ss t := by
  fun_induction statementsOf? t generalizing ss with
  | case1 t hempty =>
    obtain rfl := List.isEmpty_iff.1 hempty
    cases h
    have hblank : ([] : Text).all isSpace := rfl
    exact .last .nil (.blank hblank) (.space hblank)
  | case2 => cases h
  | case3 t hne s rest hread hlt ih =>
    obtain ⟨ss, hss, rfl⟩ := Option.map_eq_some_iff.1 h
    obtain ⟨w, r, rfl, hrow, hend⟩ := exists_of_row? hread
    obtain ⟨e, b, rfl, htrailing, hbreak | ⟨rfl, rfl⟩⟩ := exists_of_lineEnd? hend
    · exact .cons hrow htrailing hbreak (ih hss)
    · rw [statementsOf?_nil] at hss
      cases hss
      simpa using Laid.last .nil hrow htrailing
  | case4 => cases h

/-- The reader finds the statements that are laid out, and fails on all other texts. -/
theorem statementsOf?_eq_some_iff {ss : List Statement} {t : Text} :
    statementsOf? t = some ss ↔ Laid ss t :=
  ⟨laid_of_statementsOf?, statementsOf?_of_laid⟩

/-- A byte order mark is not part of the layout. -/
theorem dropMark_of_laid {ss : List Statement} {t : Text} (h : Laid ss t) : dropMark t = t := by
  rw [dropMark.eq_2]
  rintro t' rfl
  have hread := statementsOf?_of_laid h
  rw [statementsOf?, if_neg (by simp)] at hread
  have hskip : skipSpace ('\uFEFF' :: t') = '\uFEFF' :: t' := skipSpace_cons_of_not (by decide) t'
  have hpair : pairRow? ('\uFEFF' :: t') = none := by
    cases hkey : key? ('\uFEFF' :: t') with
    | none => simp [pairRow?, hkey]
    | some found =>
      obtain ⟨k, sp, heq, -, hk⟩ := exists_spells_of_key? hkey
      obtain ⟨c, k, rfl, hc⟩ := hk.starts
      cases heq
      exact absurd hc (by unfold StartsKey; decide)
  have hrow : row? ('\uFEFF' :: t') = none := by
    rw [row?, rowBody?_pair hskip (by decide) (by decide), hpair]
    rfl
  rw [hrow] at hread
  cases hread

end Toml
end Marginalia
