import Marginalia.Proofs.KeyReading
import Marginalia.Proofs.ValueSteps

/-!
# Reading values

The functions that read values call each other with less and less fuel, and the grammars of values,
elements and members refer to each other.  What is claimed of reading with a number of steps is
named for each of the three, and both directions go by induction on that number.

## Main definitions

* `Toml.ReadsValues`, `Toml.ReadsElements`, `Toml.ReadsMembers` — what has the form of a value, of
  elements and of members is read with a given number of steps.
* `Toml.FindsValues`, `Toml.FindsElements`, `Toml.FindsMembers` — what is read with that number of
  steps has the form.

## Main results

* `Toml.SpellsValue.reads` — what has the form of a value is read.
* `Toml.exists_spells_of_value?` — what is read has the form of a value.
* `Toml.spellsValue_iff_reads` — **the values of the grammar are those of the reader.**
-/

namespace Marginalia
namespace Toml

/-! ### Between values -/

theorem Stops.cons {c : Char} (hc : isScalarChar c = false ∧ c ≠ '"' ∧ c ≠ '\'')
    (hspace : isSpace c = false) (r : Text) : Stops (c :: r) := by
  intro a ha
  rw [skipSpace_cons_of_not hspace] at ha
  cases ha
  exact hc

theorem Stops.space {sp r : Text} (h : Stops r) (hsp : sp.all isSpace) : Stops (sp ++ r) := by
  intro c hc
  rw [skipSpace_append hsp] at hc
  exact h c hc

theorem Filler.stops {comments : Bool} {gap : Text} (h : Filler comments gap) {r : Text}
    (hr : Stops r) : Stops (gap ++ r) := by
  induction h with
  | nil => exact hr
  | @space c w hc _ ih =>
    have hspace : [c].all isSpace := by simp [hc]
    exact ih.space hspace
  | lineBreak hb => cases hb <;> exact .cons (by decide) rfl _
  | comment => exact .cons (by decide) rfl _

theorem skipFiller_comment {c : Text} (hc : c.all fun c => !isControl c) {b : Text}
    (hb : LineBreak b) (t : Text) : skipFiller true (c ++ (b ++ t)) = skipFiller false t := by
  induction c with
  | nil => cases hb <;> simp [skipFiller]
  | cons a c ih =>
    simp only [List.all_cons, Bool.and_eq_true, Bool.not_eq_true'] at hc
    have hline : a ≠ '\n' := by rintro rfl; exact absurd hc.1 (by decide)
    have hreturn : a ≠ '\r' := by rintro rfl; exact absurd hc.1 (by decide)
    simpa [skipFiller, hline, hreturn, hc.1] using ih hc.2

theorem Filler.skipFiller_append {gap : Text} (h : Filler true gap) (t : Text) :
    skipFiller false (gap ++ t) = skipFiller false t := by
  induction h with
  | nil => rfl
  | @space c w hc _ ih =>
    rcases (isSpace_iff c).1 hc with rfl | rfl <;> simpa [skipFiller, isSpace] using ih
  | lineBreak hb _ ih => cases hb <;> simpa [skipFiller] using ih
  | comment _ hc hb _ ih =>
    have hcomment := skipFiller_comment hc hb
    simp [skipFiller, isSpace, hcomment, ih]

/-- A character that is not passed over between values. -/
def Stands (c : Char) : Prop := isSpace c = false ∧ c ≠ '\n' ∧ c ≠ '\r' ∧ c ≠ '#'

theorem Filler.skipFiller_cons {gap : Text} (h : Filler true gap) {c : Char} (hc : Stands c)
    (t : Text) : skipFiller false (gap ++ c :: t) = some (c :: t) := by
  obtain ⟨hspace, hline, hreturn, hhash⟩ := hc
  rw [h.skipFiller_append]
  simp [skipFiller, hspace, hline, hreturn, hhash]

theorem stands_comma : Stands ',' := by unfold Stands; decide

theorem stands_bracket : Stands ']' := by unfold Stands; decide

theorem Filler.exists_of_comment {comments : Bool} {w : Text} (h : Filler comments ('#' :: w)) :
    ∃ c b gap, w = c ++ (b ++ gap) ∧ (c.all fun c => !isControl c) ∧ LineBreak b ∧
      ∀ {c}, (c.all fun c => !isControl c) → ∀ {b}, LineBreak b →
        Filler comments ('#' :: (c ++ (b ++ gap))) := by
  generalize hw : '#' :: w = w' at h
  cases h with
  | nil => cases hw
  | space hc =>
    cases hw
    cases hc
  | lineBreak hb => cases hb <;> cases hw
  | comment hcomments hc hb h =>
    cases hw
    exact ⟨_, _, _, rfl, hc, hb, fun hc' _ hb' => .comment hcomments hc' hb' h⟩

/-- The end of a comment may be written in two ways. -/
theorem Filler.of_comment_newline {comments : Bool} {gap : Text}
    (h : Filler comments ('#' :: '\n' :: gap)) : Filler comments ('#' :: '\r' :: '\n' :: gap) := by
  obtain ⟨c, b, rest, heq, hc, hb, hcomment⟩ := h.exists_of_comment
  cases c with
  | nil =>
    cases hb <;> cases heq
    exact hcomment (c := []) rfl .returned
  | cons a c =>
    cases heq
    exact absurd hc (by simp [isControl])

/-- What is passed over, with the sign of the comment that it begins in. -/
theorem exists_filler_of_skipFiller {inComment : Bool} {c : Char} {t r : Text}
    (h : skipFiller inComment t = some (c :: r)) (hc : c ≠ '\n') :
    ∃ gap, t = gap ++ c :: r ∧ Filler true (if inComment then '#' :: gap else gap) := by
  fun_induction skipFiller inComment t with
  | case1 => cases h
  | case2 inComment t ih =>
    obtain ⟨gap, rfl, hgap⟩ := ih h
    refine ⟨'\n' :: gap, rfl, ?_⟩
    cases inComment with
    | false => exact .lineBreak .newline hgap
    | true => exact .comment (c := []) rfl rfl .newline hgap
  -- a carriage return belongs to the newline behind it, which the rest has passed over
  | case3 inComment a t hline hreturn ih =>
    obtain ⟨gap, rfl, hgap⟩ := ih h
    simp only [Bool.and_eq_true, decide_eq_true_eq, beq_iff_eq] at hreturn
    obtain ⟨rfl, hhead⟩ := hreturn
    obtain ⟨gap, rfl⟩ : ∃ gap', gap = '\n' :: gap' := by
      cases gap with
      | nil => exact absurd (Option.some.inj hhead) hc
      | cons a gap => exact ⟨gap, by rw [Option.some.inj hhead]⟩
    refine ⟨'\r' :: '\n' :: gap, rfl, ?_⟩
    cases inComment with
    | false => exact .lineBreak .returned hgap.of_newline
    | true => exact .of_comment_newline hgap
  | case4 => cases h
  | case5 a t hline hreturn hcontrol ih =>
    obtain ⟨gap, rfl, hgap⟩ := ih h
    obtain ⟨c, b, gap, rfl, hc, hb, hcomment⟩ := hgap.exists_of_comment
    exact ⟨a :: (c ++ (b ++ gap)), rfl, hcomment (c := a :: c) (by simpa [hc] using hcontrol) hb⟩
  | case6 inComment a t hline hreturn hcomment hspace ih =>
    obtain ⟨gap, rfl, hgap⟩ := ih h
    exact ⟨a :: gap, rfl, by simpa [hcomment] using .space hspace hgap⟩
  | case7 inComment t hcomment _ _ _ ih =>
    obtain ⟨gap, rfl, hgap⟩ := ih h
    exact ⟨'#' :: gap, rfl, by simpa [hcomment] using hgap⟩
  | case8 inComment a t hline hreturn hcomment hspace hhash =>
    cases h
    exact ⟨[], rfl, by simpa [hcomment] using .nil⟩

/-! ### What values begin with -/

/-- A character that a value can begin with. -/
def StartsValue (c : Char) : Prop :=
  c = '[' ∨ c = '\x7b' ∨ c = '"' ∨ c = '\'' ∨ isScalarChar c

theorem StartsValue.not_space {c : Char} (h : StartsValue c) : isSpace c = false := by
  by_contra hspace
  rcases (isSpace_iff c).1 (by simpa using hspace) with rfl | rfl <;>
    exact absurd h (by unfold StartsValue; decide)

theorem StartsValue.stands {c : Char} (h : StartsValue c) : Stands c := by
  have hne : ∀ a, ¬ StartsValue a → c ≠ a := by
    rintro a ha rfl
    exact ha h
  exact ⟨h.not_space, hne '\n' (by unfold StartsValue; decide),
    hne '\r' (by unfold StartsValue; decide), hne '#' (by unfold StartsValue; decide)⟩

theorem SpellsString.starts {s w : Text} (h : SpellsString s w) :
    ∃ c w', w = c :: w' ∧ (c = '"' ∨ c = '\'') := by
  cases h with
  | line h => exact h.starts
  | lines hq | linesBelow hq => exact ⟨_, _, rfl, hq⟩

theorem SpellsScalar.starts {v : Value} {w : Text} (h : SpellsScalar v w) :
    ∃ c w', w = c :: w' ∧ isScalarChar c := by
  have hread := h.reads [] Stops.nil
  cases w with
  | nil => cases hread
  | cons c w =>
    refine ⟨c, w, rfl, ?_⟩
    by_contra hc
    rw [List.cons_append, scalar?_of_not (by simpa using hc)] at hread
    cases hread

theorem SpellsValue.starts {depth : Nat} {v : Value} {w : Text} (h : SpellsValue depth v w) :
    ∃ c w', w = c :: w' ∧ StartsValue c := by
  cases h with
  | string h =>
    obtain ⟨c, w, rfl, hc⟩ := h.starts
    exact ⟨c, w, rfl, .inr (.inr (hc.imp_right .inl))⟩
  | scalar h =>
    obtain ⟨c, w, rfl, hc⟩ := h.starts
    exact ⟨c, w, rfl, .inr (.inr (.inr (.inr hc)))⟩
  | emptyArray | array => exact ⟨_, _, rfl, .inl rfl⟩
  | emptyTable | table => exact ⟨_, _, rfl, .inr (.inl rfl)⟩

theorem SpellsValue.skipSpace_append {depth : Nat} {v : Value} {w : Text}
    (h : SpellsValue depth v w) {sp : Text} (hsp : sp.all isSpace) (r : Text) :
    skipSpace (sp ++ (w ++ r)) = w ++ r := by
  obtain ⟨c, w, rfl, hc⟩ := h.starts
  exact skipSpace_append_cons hsp hc.not_space _

theorem SpellsElements.starts {depth : Nat} {vs : List Value} {w : Text}
    (h : SpellsElements depth vs w) : ∃ c w', w = c :: w' ∧ StartsValue c := by
  cases h with
  | last hvalue | trailing hvalue | more hvalue =>
    obtain ⟨c, w, rfl, hc⟩ := hvalue.starts
    exact ⟨c, _, rfl, hc⟩

theorem SpellsMembers.starts {depth : Nat} {pairs : List (List Text × Value)} {w : Text}
    (h : SpellsMembers depth pairs w) : ∃ c w', w = c :: w' ∧ StartsKey c := by
  cases h with
  | last hkey | more hkey =>
    obtain ⟨c, w, rfl, hc⟩ := hkey.starts
    exact ⟨c, _, rfl, hc⟩

theorem SpellsMembers.skipSpace_append {depth : Nat} {pairs : List (List Text × Value)} {w : Text}
    (h : SpellsMembers depth pairs w) {sp : Text} (hsp : sp.all isSpace) (r : Text) :
    skipSpace (sp ++ (w ++ r)) = w ++ r := by
  obtain ⟨c, w, rfl, hc⟩ := h.starts
  exact skipSpace_append_cons hsp hc.not_space _

/-! ### Values of the grammar are read -/

/-- With `n` steps, every value of the grammar is read that takes fewer than `n`, at two steps for
each of its characters. -/
def ReadsValues (n : Nat) : Prop :=
  ∀ {depth : Nat} {v : Value} {w r : Text}, SpellsValue depth v w → Stops r → 2 * w.length < n →
    valueFrom? n depth (w ++ r) = some (v, r)

/-- The same for the elements of an array. -/
def ReadsElements (n : Nat) : Prop :=
  ∀ {depth : Nat} {vs : List Value} {w : Text} (r : Text), SpellsElements depth vs w →
    2 * w.length ≤ n → elementsFrom? n depth (w ++ r) = some (vs, r)

/-- The same for the members of a table. -/
def ReadsMembers (n : Nat) : Prop :=
  ∀ {depth : Nat} {pairs : List (List Text × Value)} {w : Text} (r : Text),
    SpellsMembers depth pairs w → 2 * w.length ≤ n →
    membersFrom? n depth (w ++ r) = some (pairs, r)

theorem ReadsElements.array {n depth : Nat} (helements : ReadsElements n) {gap w : Text}
    {vs : List Value} (hdepth : depth + 1 < maxDepth) (hgap : Filler true gap)
    (h : SpellsElements (depth + 1) vs w) (hn : 2 * w.length ≤ n) (r : Text) :
    ValueStep n depth ('[' :: (gap ++ (w ++ r))) (.array vs) r := by
  have hread := helements r h hn
  -- a value stands first, so that the array is not empty
  obtain ⟨c, w, rfl, hc⟩ := h.starts
  refine .array hdepth (hgap.skipFiller_cons hc.stands _) ?_ hread
  rintro ⟨⟩
  exact absurd hc (by unfold StartsValue; decide)

theorem ReadsMembers.table {n depth : Nat} (hmembers : ReadsMembers n) {sp w : Text}
    {pairs : List (List Text × Value)} {ms : Members} (hdepth : depth + 1 < maxDepth)
    (hsp : sp.all isSpace) (h : SpellsMembers (depth + 1) pairs w)
    (hpairs : Members.ofPairs pairs = some ms) (hn : 2 * w.length ≤ n) (r : Text) :
    ValueStep n depth ('\x7b' :: (sp ++ (w ++ r))) (.table (Node.membersToValues ms)) r := by
  have hread := hmembers r h hn
  -- the brace at once would have made the table empty
  have hskip := h.skipSpace_append hsp r
  refine .table hdepth ?_ (by rwa [hskip]) hpairs
  rw [hskip]
  obtain ⟨c, w, rfl, hc⟩ := h.starts
  rintro ⟨⟩
  exact absurd hc (by unfold StartsKey; decide)

theorem SpellsString.step {n depth : Nat} {s w r : Text} (h : SpellsString s w) (hr : Stops r) :
    ValueStep n depth (w ++ r) (.string s) r := by
  have hread := h.reads r hr.unquoted
  obtain ⟨c, w, rfl, hc⟩ := h.starts
  refine .string ?_ ?_ hread
  · rintro ⟨⟩; exact absurd hc (by decide)
  · rintro ⟨⟩; exact absurd hc (by decide)

theorem SpellsScalar.step {n depth : Nat} {v : Value} {w r : Text} (h : SpellsScalar v w)
    (hr : Stops r) : ValueStep n depth (w ++ r) v r := by
  have hread := h.reads r hr
  obtain ⟨c, w, rfl, hc⟩ := h.starts
  refine .scalar ?_ ?_ (string?_of_not ?_ ?_ _) hread
  · rintro ⟨⟩; cases hc
  · rintro ⟨⟩; cases hc
  · rintro rfl; cases hc
  · rintro rfl; cases hc

theorem readsValues_succ {n : Nat} (helements : ReadsElements n) (hmembers : ReadsMembers n) :
    ReadsValues (n + 1) := by
  intro depth v w r h hr hn
  refine valueFrom?_eq_some_iff.2 ?_
  cases h with
  | string h => exact h.step hr
  | scalar h => exact h.step hr
  | emptyArray hdepth hgap =>
    refine .emptyArray hdepth ?_
    simpa using hgap.skipFiller_cons stands_bracket r
  | array hdepth hgap h =>
    simpa using helements.array hdepth hgap h (by simp at hn; omega) r
  | emptyTable hdepth hsp =>
    refine .emptyTable hdepth ?_
    simpa using skipSpace_append_cons hsp (c := '\x7d') rfl r
  | table hdepth hsp h hpairs =>
    simpa using hmembers.table hdepth hsp h hpairs (by simp at hn; omega) r

theorem readsElements_succ {n : Nat} (hvalues : ReadsValues n) (helements : ReadsElements n) :
    ReadsElements (n + 1) := by
  intro depth vs w r h hn
  refine elementsFrom?_eq_some_iff.2 ?_
  cases h with
  | @last _ v w gap hvalue hgap =>
    have hstop : Stops (gap ++ ']' :: r) := hgap.stops (.cons (by decide) rfl r)
    have hread := hvalues hvalue hstop (by simp at hn; omega)
    simpa using ElementsStep.last hread (hgap.skipFiller_cons stands_bracket r)
  -- the comma after the last value need not be followed by another value
  | @trailing _ v w gap gap' hvalue hgap hgap' =>
    have hstop : Stops (gap ++ ',' :: (gap' ++ ']' :: r)) := hgap.stops (.cons (by decide) rfl _)
    have hread := hvalues hvalue hstop (by simp at hn; omega)
    simpa using ElementsStep.trailing hread (hgap.skipFiller_cons stands_comma _)
      (hgap'.skipFiller_cons stands_bracket r)
  | @more _ v vs w gap gap' rest hvalue hgap hgap' h =>
    have hothers := helements r h (by simp at hn; omega)
    obtain ⟨c, rest, rfl, hc⟩ := h.starts
    have hstop : Stops (gap ++ ',' :: (gap' ++ c :: (rest ++ r))) :=
      hgap.stops (.cons (by decide) rfl _)
    have hread := hvalues hvalue hstop (by simp at hn; omega)
    have hopen : (c :: (rest ++ r)).head? ≠ some ']' := by
      rintro ⟨⟩
      exact absurd hc (by unfold StartsValue; decide)
    simpa using ElementsStep.more hread (hgap.skipFiller_cons stands_comma _)
      (hgap'.skipFiller_cons hc.stands _) hopen hothers

theorem stopsKey_equals (r : Text) : StopsKey ('=' :: r) := by
  rintro c ⟨⟩
  decide

/-- A key with its equals sign and its value, inside a table. -/
theorem ReadsValues.pair {n depth : Nat} (hvalues : ReadsValues n) {keys : List Text} {v : Value}
    {k sp sp' w r : Text} (hkey : SpellsKey keys k) (hsp : sp.all isSpace) (hsp' : sp'.all isSpace)
    (hvalue : SpellsValue depth v w) (hr : Stops r) (hn : 2 * w.length < n) :
    key? (k ++ (sp ++ '=' :: (sp' ++ (w ++ r)))) = some (keys, '=' :: (sp' ++ (w ++ r))) ∧
      valueFrom? n depth (skipSpace (sp' ++ (w ++ r))) = some (v, r) := by
  refine ⟨hkey.reads hsp (stopsKey_equals _), ?_⟩
  rw [hvalue.skipSpace_append hsp', hvalues hvalue hr hn]

theorem readsMembers_succ {n : Nat} (hvalues : ReadsValues n) (hmembers : ReadsMembers n) :
    ReadsMembers (n + 1) := by
  intro depth pairs w r h hn
  refine membersFrom?_eq_some_iff.2 ?_
  cases h with
  | @last _ keys v k sp sp' w sp'' hkey hsp hsp' hvalue hsp'' =>
    have hstop : Stops (sp'' ++ '\x7d' :: r) := .space (.cons (by decide) rfl r) hsp''
    obtain ⟨hread, hread'⟩ := hvalues.pair hkey hsp hsp' hvalue hstop (by simp at hn; omega)
    simpa using MembersStep.last hread hread' (skipSpace_append_cons hsp'' rfl r)
  | @more _ keys v pairs k sp sp' w sp'' gap rest hkey hsp hsp' hvalue hsp'' hgap h =>
    have hothers := hmembers r h (by simp at hn; omega)
    have hstop : Stops (sp'' ++ ',' :: (gap ++ (rest ++ r))) :=
      .space (.cons (by decide) rfl _) hsp''
    obtain ⟨hread, hread'⟩ := hvalues.pair hkey hsp hsp' hvalue hstop (by simp at hn; omega)
    rw [← h.skipSpace_append hgap] at hothers
    simpa using MembersStep.more hread hread' (skipSpace_append_cons hsp'' rfl _) hothers

theorem reads (n : Nat) : ReadsValues n ∧ ReadsElements n ∧ ReadsMembers n := by
  induction n with
  | zero =>
    -- nothing is read without a step, and elements and members have a character
    refine ⟨fun _ _ hn => absurd hn (Nat.not_lt_zero _), fun r h hn => ?_, fun r h hn => ?_⟩
    · obtain ⟨c, w, rfl, -⟩ := h.starts
      simp at hn
    · obtain ⟨c, w, rfl, -⟩ := h.starts
      simp at hn
  | succ n ih =>
    obtain ⟨hvalues, helements, hmembers⟩ := ih
    exact ⟨readsValues_succ helements hmembers, readsElements_succ hvalues helements,
      readsMembers_succ hvalues hmembers⟩

/-- What has the form of a value is read as that value. -/
theorem SpellsValue.reads {v : Value} {w : Text} (h : SpellsValue 0 v w) :
    Reads value? Stops w v :=
  fun _ hr => (Toml.reads _).1 h hr (by simp; omega)

/-! ### What is read is of the grammar -/

/-- What is read as a value with `n` steps has the form of that value. -/
def FindsValues (n : Nat) : Prop :=
  ∀ {depth : Nat} {t r : Text} {v : Value}, valueFrom? n depth t = some (v, r) →
    ∃ w, t = w ++ r ∧ SpellsValue depth v w

/-- The same for the elements of an array. -/
def FindsElements (n : Nat) : Prop :=
  ∀ {depth : Nat} {t r : Text} {vs : List Value}, elementsFrom? n depth t = some (vs, r) →
    ∃ w, t = w ++ r ∧ SpellsElements depth vs w

/-- The same for the members of a table. -/
def FindsMembers (n : Nat) : Prop :=
  ∀ {depth : Nat} {t r : Text} {pairs : List (List Text × Value)},
    membersFrom? n depth t = some (pairs, r) → ∃ w, t = w ++ r ∧ SpellsMembers depth pairs w

theorem findsValues_succ {n : Nat} (helements : FindsElements n) (hmembers : FindsMembers n) :
    FindsValues (n + 1) := by
  intro depth t r v h
  cases valueFrom?_eq_some_iff.1 h with
  | emptyArray hdepth hclose =>
    obtain ⟨gap, rfl, hgap⟩ := exists_filler_of_skipFiller hclose (by decide)
    exact ⟨_, by simp, .emptyArray hdepth hgap⟩
  | array hdepth hskip hopen hread =>
    obtain ⟨w, rfl, hw⟩ := helements hread
    obtain ⟨c, w, rfl, hc⟩ := hw.starts
    obtain ⟨gap, rfl, hgap⟩ := exists_filler_of_skipFiller hskip hc.stands.2.1
    exact ⟨_, by simp, .array hdepth hgap hw⟩
  | emptyTable hdepth hclose =>
    obtain ⟨sp, rfl, hsp⟩ := exists_of_skipSpace hclose
    exact ⟨_, by simp, .emptyTable hdepth hsp⟩
  | @table t r pairs ms hdepth hopen hread hpairs =>
    obtain ⟨w, hskip, hw⟩ := hmembers hread
    obtain ⟨sp, hsp, hspace⟩ := exists_skipSpace t
    rw [hskip] at hsp
    exact ⟨_, by simp [hsp], .table hdepth hspace hw hpairs⟩
  | string harray htable hstring =>
    obtain ⟨w, rfl, hw⟩ := exists_spells_of_string? hstring
    exact ⟨w, rfl, .string hw⟩
  | scalar harray htable hstring hscalar =>
    obtain ⟨w, rfl, hw⟩ := exists_spells_of_scalar? hscalar
    exact ⟨w, rfl, .scalar hw⟩

theorem findsElements_succ {n : Nat} (hvalues : FindsValues n) (helements : FindsElements n) :
    FindsElements (n + 1) := by
  intro depth t r vs h
  cases elementsFrom?_eq_some_iff.1 h with
  | last hvalue hclose =>
    obtain ⟨w, rfl, hw⟩ := hvalues hvalue
    obtain ⟨gap, rfl, hgap⟩ := exists_filler_of_skipFiller hclose (by decide)
    exact ⟨_, by simp, .last hw hgap⟩
  | trailing hvalue hcomma hclose =>
    obtain ⟨w, rfl, hw⟩ := hvalues hvalue
    obtain ⟨gap, rfl, hgap⟩ := exists_filler_of_skipFiller hcomma (by decide)
    obtain ⟨gap', rfl, hgap'⟩ := exists_filler_of_skipFiller hclose (by decide)
    exact ⟨_, by simp, .trailing hw hgap hgap'⟩
  | more hvalue hcomma hskip hopen hrest =>
    obtain ⟨w, rfl, hw⟩ := hvalues hvalue
    obtain ⟨gap, rfl, hgap⟩ := exists_filler_of_skipFiller hcomma (by decide)
    obtain ⟨rest, rfl, hothers⟩ := helements hrest
    obtain ⟨c, rest, rfl, hc⟩ := hothers.starts
    obtain ⟨gap', rfl, hgap'⟩ := exists_filler_of_skipFiller hskip hc.stands.2.1
    exact ⟨_, by simp, .more hw hgap hgap' hothers⟩

theorem findsMembers_succ {n : Nat} (hvalues : FindsValues n) (hmembers : FindsMembers n) :
    FindsMembers (n + 1) := by
  intro depth t r pairs h
  cases membersFrom?_eq_some_iff.1 h with
  | @last t₁ t₂ _ keys v hkey hvalue hclose =>
    obtain ⟨k, sp, rfl, hsp, hk⟩ := exists_spells_of_key? hkey
    obtain ⟨w, hskip, hw⟩ := hvalues hvalue
    obtain ⟨sp', hsp', hspace'⟩ := exists_skipSpace t₁
    obtain ⟨sp'', rfl, hspace''⟩ := exists_of_skipSpace hclose
    refine ⟨_, ?_, .last hk hsp hspace' hw hspace''⟩
    rw [hsp', hskip]
    simp
  | @more t₁ t₂ t₃ _ keys v pairs hkey hvalue hcomma hrest =>
    obtain ⟨k, sp, rfl, hsp, hk⟩ := exists_spells_of_key? hkey
    obtain ⟨w, hskip, hw⟩ := hvalues hvalue
    obtain ⟨sp', hsp', hspace'⟩ := exists_skipSpace t₁
    obtain ⟨sp'', rfl, hspace''⟩ := exists_of_skipSpace hcomma
    obtain ⟨rest, hothers, hspells⟩ := hmembers hrest
    obtain ⟨gap, hgap, hspace⟩ := exists_skipSpace t₃
    refine ⟨_, ?_, .more hk hsp hspace' hw hspace'' hspace hspells⟩
    rw [hsp', hskip, hgap, hothers]
    simp

theorem finds (n : Nat) : FindsValues n ∧ FindsElements n ∧ FindsMembers n := by
  induction n with
  | zero =>
    refine ⟨fun h => ?_, fun h => ?_, fun h => ?_⟩
    · simp [valueFrom?] at h
    · simp [elementsFrom?] at h
    · simp [membersFrom?] at h
  | succ n ih =>
    obtain ⟨hvalues, helements, hmembers⟩ := ih
    exact ⟨findsValues_succ helements hmembers, findsElements_succ hvalues helements,
      findsMembers_succ hvalues hmembers⟩

/-- What is read as a value has the form of that value. -/
theorem exists_spells_of_value? {t r : Text} {v : Value} (h : value? t = some (v, r)) :
    ∃ w, t = w ++ r ∧ SpellsValue 0 v w :=
  (finds _).1 h

/-- The grammar describes what the reader takes off a text for a value. -/
theorem spellsValue_iff_reads {v : Value} {w : Text} :
    SpellsValue 0 v w ↔ Reads value? Stops w v := by
  refine ⟨SpellsValue.reads, fun h => ?_⟩
  obtain ⟨w', heq, hw'⟩ := exists_spells_of_value? (h [] Stops.nil)
  rw [List.append_cancel_right heq]
  exact hw'

end Toml
end Marginalia
