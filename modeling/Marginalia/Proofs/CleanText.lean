import Marginalia.Proofs.Escaping
import Marginalia.Proofs.References

/-!
# Clean texts

Escaping that keeps character references leaves texts of one form: no brackets, no double
quotes, and no ampersands but those that begin a reference.  A text of this form has nothing
in it to escape.

## Main definitions

* `Html.IsReferenceBody` — what may stand between the ampersand and the semicolon of a
  character reference.
* `Html.CompletesReference` — what may follow the ampersand of one.
* `Html.Clean` — the texts with nothing to escape.

## Main results

* `Html.startsReference_iff` — looking ahead finds the references.
* `Html.reference_induction` — a text is read reference by reference, and elsewhere character
  by character.
* `Html.escape_cleans` — **escaping makes a text clean**, and leaves clean texts alone.
-/

namespace Marginalia
namespace Html

/-! ### Character references -/

/-- What stands between the ampersand and the semicolon of a character reference. -/
inductive IsReferenceBody : Text → Prop where
  /-- A number in base sixteen. -/
  | hex {x : Char} {digits : Text} : x = 'x' ∨ x = 'X' → digits ≠ [] →
      (∀ c ∈ digits, Text.isHexDigit c = true) → IsReferenceBody ('#' :: x :: digits)
  /-- A number in base ten. -/
  | decimal {digits : Text} : digits ≠ [] → (∀ c ∈ digits, Text.isDigit c = true) →
      IsReferenceBody ('#' :: digits)
  /-- A name. -/
  | name {letters : Text} : letters ≠ [] → (∀ c ∈ letters, isNameChar c = true) →
      IsReferenceBody letters

/-- A text that follows an ampersand begins with the rest of a character reference. -/
def CompletesReference (t : Text) : Prop :=
  ∃ body rest, IsReferenceBody body ∧ t = body ++ ';' :: rest

/-- A character between the ampersand and the semicolon of a reference. -/
def isReferenceChar (c : Char) : Bool := isNameChar c || c == '#'

theorem isNameChar_of_isDigit {c : Char} (h : Text.isDigit c = true) : isNameChar c = true := by
  simp [isNameChar, Text.isAlphanumeric, h]

theorem isNameChar_of_isHexDigit {c : Char} (h : Text.isHexDigit c = true) :
    isNameChar c = true := by
  simp only [Text.isHexDigit, Bool.or_eq_true, Bool.and_eq_true, decide_eq_true_eq] at h
  simp only [isNameChar, Text.isAlphanumeric, Text.isLetter, Bool.or_eq_true, Bool.and_eq_true,
    decide_eq_true_eq]
  rcases h with (hdigit | ⟨hlow, hhigh⟩) | ⟨hlow, hhigh⟩
  · exact .inl (.inr hdigit)
  · exact .inl (.inl (.inl ⟨hlow, Char.le_trans hhigh (by decide)⟩))
  · exact .inl (.inl (.inr ⟨hlow, Char.le_trans hhigh (by decide)⟩))

namespace IsReferenceBody

variable {body : Text}

/-- A name, by looking at its characters. -/
theorem of_all (hne : body ≠ []) (h : body.all isNameChar = true) : IsReferenceBody body :=
  .name hne (List.all_eq_true.mp h)

theorem isReferenceChar (h : IsReferenceBody body) :
    ∀ c ∈ body, isReferenceChar c = true := by
  have hname : ∀ c, isNameChar c = true → Html.isReferenceChar c = true := fun c hc => by
    rw [Html.isReferenceChar, hc, Bool.true_or]
  cases h with
  | hex hx _ hdigits =>
    intro c hc
    rcases List.mem_cons.mp hc with rfl | hc
    · rfl
    rcases List.mem_cons.mp hc with rfl | hc
    · rcases hx with rfl | rfl <;> rfl
    · exact hname c (isNameChar_of_isHexDigit (hdigits c hc))
  | decimal _ hdigits =>
    intro c hc
    rcases List.mem_cons.mp hc with rfl | hc
    · rfl
    · exact hname c (isNameChar_of_isDigit (hdigits c hc))
  | name _ hletters => exact fun c hc => hname c (hletters c hc)

/-- A character of no reference does not occur in one. -/
theorem notMem {c : Char} (h : IsReferenceBody body) (hc : Html.isReferenceChar c = false) :
    c ∉ body := by
  intro hmem
  rw [h.isReferenceChar c hmem] at hc
  cases hc

theorem notMem_semicolon (h : IsReferenceBody body) : ';' ∉ body := h.notMem rfl

/-- Nothing between the ampersand and the semicolon needs escaping. -/
theorem not_isSpecial (h : IsReferenceBody body) : ∀ c ∈ body, isSpecial c = false := by
  intro c hc
  have hne : ∀ d, Html.isReferenceChar d = false → c ≠ d := by
    rintro d hd rfl
    exact h.notMem hd hc
  simp [isSpecial, hne '&' rfl, hne '<' rfl, hne '>' rfl, hne '"' rfl]

end IsReferenceBody

/-! ### Looking ahead -/

theorem closesReference_iff {accept : Char → Bool} (hsemicolon : accept ';' = false) {t : Text} :
    closesReference accept t = true ↔
      ∃ run rest, run ≠ [] ∧ (∀ c ∈ run, accept c = true) ∧ t = run ++ ';' :: rest := by
  constructor
  · intro h
    cases t with
    | nil => cases h
    | cons c t =>
      rw [closesReference, Bool.and_eq_true, beq_iff_eq] at h
      obtain ⟨rest, hrest⟩ := List.head?_eq_some_iff.mp h.2
      refine ⟨c :: t.takeWhile accept, rest, List.cons_ne_nil _ _, ?_, ?_⟩
      · intro d hd
        rcases List.mem_cons.mp hd with rfl | hd
        · exact h.1
        · exact List.mem_takeWhile_imp hd
      · rw [List.cons_append, ← hrest, List.takeWhile_append_dropWhile]
  · rintro ⟨run, rest, hne, hrun, rfl⟩
    cases run with
    | nil => exact absurd rfl hne
    | cons c run =>
      have hdrop : (run ++ ';' :: rest).dropWhile accept = ';' :: rest := by
        rw [List.dropWhile_append_of_pos fun d hd => hrun d (List.mem_cons_of_mem c hd),
          List.dropWhile_cons_of_neg (by simp [hsemicolon])]
      rw [List.cons_append, closesReference, hrun c List.mem_cons_self, hdrop]
      rfl

/-- A run of accepted characters does not begin with one that is not accepted. -/
theorem run_ne_cons {accept : Char → Bool} {run : Text} (hne : run ≠ [])
    (hrun : ∀ c ∈ run, accept c = true) {x : Char} (hx : accept x = false) (rest t : Text) :
    run ++ rest ≠ x :: t := by
  intro heq
  cases run with
  | nil => exact hne rfl
  | cons c run =>
    obtain ⟨rfl, -⟩ := List.cons.inj heq
    rw [hrun c List.mem_cons_self] at hx
    cases hx

/-- Looking ahead finds the references. -/
theorem startsReference_iff {t : Text} : startsReference t = true ↔ CompletesReference t := by
  constructor
  · intro h
    unfold startsReference at h
    split at h
    · next rest =>
      obtain ⟨run, rest, hne, hrun, rfl⟩ := (closesReference_iff (by decide)).mp h
      exact ⟨'#' :: 'x' :: run, rest, .hex (.inl rfl) hne hrun, rfl⟩
    · next rest =>
      obtain ⟨run, rest, hne, hrun, rfl⟩ := (closesReference_iff (by decide)).mp h
      exact ⟨'#' :: 'X' :: run, rest, .hex (.inr rfl) hne hrun, rfl⟩
    · next rest _ _ =>
      obtain ⟨run, rest, hne, hrun, rfl⟩ := (closesReference_iff (by decide)).mp h
      exact ⟨'#' :: run, rest, .decimal hne hrun, rfl⟩
    · obtain ⟨run, rest, hne, hrun, rfl⟩ := (closesReference_iff (by decide)).mp h
      exact ⟨run, rest, .name hne hrun, rfl⟩
  · rintro ⟨body, rest, hbody, rfl⟩
    cases hbody with
    | hex hx hne hdigits =>
      have hcloses := (closesReference_iff (by decide)).mpr ⟨_, rest, hne, hdigits, rfl⟩
      rcases hx with rfl | rfl
      · exact hcloses
      · exact hcloses
    | decimal hne hdigits =>
      have hcloses := (closesReference_iff (by decide)).mpr ⟨_, rest, hne, hdigits, rfl⟩
      rw [List.cons_append, startsReference]
      · exact hcloses
      · exact run_ne_cons hne hdigits (by decide) _
      · exact run_ne_cons hne hdigits (by decide) _
    | name hne hletters =>
      have hcloses := (closesReference_iff (by decide)).mpr ⟨_, rest, hne, hletters, rfl⟩
      have hsign := run_ne_cons hne hletters (x := '#') (by decide) (';' :: rest)
      rw [startsReference]
      · exact hcloses
      · exact fun t => hsign _
      · exact fun t => hsign _
      · exact hsign

/-! ### Reading a text -/

/-- A character begins a character reference, given the text that follows it. -/
def BeginsReference (c : Char) (rest : Text) : Prop := c = '&' ∧ CompletesReference rest

/-- A text is read reference by reference, and elsewhere character by character. -/
@[elab_as_elim]
theorem reference_induction {motive : Text → Prop} (nil : motive [])
    (reference : ∀ body rest, IsReferenceBody body → motive rest →
      motive ('&' :: (body ++ ';' :: rest)))
    (char : ∀ c rest, ¬ BeginsReference c rest → motive rest → motive (c :: rest)) :
    ∀ t, motive t := by
  intro t
  -- a reference is longer than one character
  induction hlength : t.length using Nat.strong_induction_on generalizing t with
  | _ n ih =>
    cases t with
    | nil => exact nil
    | cons c t =>
      by_cases hbegins : BeginsReference c t
      · obtain ⟨rfl, body, rest, hbody, rfl⟩ := hbegins
        refine reference body rest hbody (ih rest.length ?_ rest rfl)
        simp only [List.length_cons, List.length_append] at hlength
        omega
      · refine char c t hbegins (ih t.length ?_ t rfl)
        simp only [List.length_cons] at hlength
        omega

/-! ### Escaping -/

theorem escapeChar_of_plain {c : Char} (h : isSpecial c = false) (rest : Text) :
    escapeChar c rest = [c] := by
  simp only [isSpecial, Bool.or_eq_false_iff, beq_eq_false_iff_ne] at h
  obtain ⟨⟨⟨hamp, hlt⟩, hgt⟩, hquot⟩ := h
  rw [escapeChar, if_neg hamp, if_neg hlt, if_neg hgt, if_neg hquot]

/-- A character that begins no reference is escaped as it is alone. -/
theorem escapeChar_alone {c : Char} {rest : Text} (h : ¬ BeginsReference c rest) :
    escapeChar c rest = escapeChar c [] := by
  by_cases hc : c = '&'
  · have hstarts : ¬ startsReference rest = true :=
      fun hstarts => h ⟨hc, startsReference_iff.mp hstarts⟩
    rw [escapeChar, escapeChar, if_pos hc, if_pos hc, if_neg hstarts]
    rfl
  · rw [escapeChar, escapeChar, if_neg hc, if_neg hc]

/-- A special character alone becomes the reference by name that stands for it. -/
theorem escapeChar_special {c : Char} (h : isSpecial c = true) :
    ∃ name, IsReferenceBody name ∧ escapeChar c [] = '&' :: (name ++ [';']) ∧
      ∀ table : ReferenceTable, table.Knows → table name = some [c] := by
  simp only [isSpecial, Bool.or_eq_true, beq_iff_eq] at h
  rcases h with ((rfl | rfl) | rfl) | rfl
  · exact ⟨"amp".toList, .of_all (by decide) rfl, rfl, fun _ h => h.amp⟩
  · exact ⟨"lt".toList, .of_all (by decide) rfl, rfl, fun _ h => h.lt⟩
  · exact ⟨"gt".toList, .of_all (by decide) rfl, rfl, fun _ h => h.gt⟩
  · exact ⟨"quot".toList, .of_all (by decide) rfl, rfl, fun _ h => h.quot⟩

/-- Plain characters are copied. -/
theorem escapeChars_append_of_plain {a : Text} (h : ∀ c ∈ a, isSpecial c = false) (b : Text) :
    escapeChars (a ++ b) = a ++ escapeChars b := by
  induction a with
  | nil => rfl
  | cons c a ih =>
    rw [List.cons_append, escapeChars_cons, escapeChar_of_plain (h c List.mem_cons_self),
      ih fun d hd => h d (List.mem_cons_of_mem c hd)]
    rfl

/-- A reference is copied. -/
theorem escapeChars_reference {body : Text} (h : IsReferenceBody body) (rest : Text) :
    escapeChars ('&' :: (body ++ ';' :: rest)) = '&' :: (body ++ ';' :: escapeChars rest) := by
  have hstarts : startsReference (body ++ ';' :: rest) = true :=
    startsReference_iff.mpr ⟨body, rest, h, rfl⟩
  have hsemicolon : escapeChar ';' rest = [';'] := escapeChar_of_plain rfl rest
  rw [escapeChars_cons, escapeChar, if_pos rfl, if_pos hstarts,
    escapeChars_append_of_plain h.not_isSpecial, escapeChars_cons, hsemicolon]
  rfl

/-! ### Clean texts -/

/-- A text with nothing to escape. -/
structure Clean (t : Text) : Prop where
  /-- There are no brackets and no double quotes. -/
  quotable : Quotable t
  /-- Every ampersand begins a character reference. -/
  ampersand : ∀ before rest, t = before ++ '&' :: rest → CompletesReference rest

theorem clean_nil : Clean [] where
  quotable := quotable_nil
  ampersand before rest h := by simp at h

theorem clean_cons {c : Char} {t : Text} :
    Clean (c :: t) ↔ Quotable [c] ∧ (c = '&' → CompletesReference t) ∧ Clean t := by
  have hquotable : Quotable (c :: t) ↔ Quotable [c] ∧ Quotable t := quotable_append (a := [c])
  constructor
  · intro h
    obtain ⟨hc, ht⟩ := hquotable.mp h.quotable
    refine ⟨hc, ?_, ht, ?_⟩
    · rintro rfl
      exact h.ampersand [] t rfl
    · intro before rest heq
      exact h.ampersand (c :: before) rest (by rw [heq, List.cons_append])
  · rintro ⟨hc, hreference, ht⟩
    refine ⟨hquotable.mpr ⟨hc, ht.quotable⟩, ?_⟩
    intro before rest heq
    cases before with
    | nil =>
      obtain ⟨rfl, rfl⟩ := List.cons.inj heq
      exact hreference rfl
    | cons d before =>
      obtain ⟨-, rfl⟩ := List.cons.inj heq
      exact ht.ampersand before rest rfl

theorem clean_cons_plain {c : Char} (h : isSpecial c = false) {t : Text} :
    Clean (c :: t) ↔ Clean t := by
  simp only [isSpecial, Bool.or_eq_false_iff, beq_eq_false_iff_ne] at h
  obtain ⟨⟨⟨hamp, hlt⟩, hgt⟩, hquot⟩ := h
  have hquotable : Quotable [c] := by simp [Quotable, hlt, hgt, hquot]
  rw [clean_cons]
  exact ⟨fun h => h.2.2, fun h => ⟨hquotable, fun hc => absurd hc hamp, h⟩⟩

theorem clean_append_of_plain {a : Text} (h : ∀ c ∈ a, isSpecial c = false) {b : Text} :
    Clean (a ++ b) ↔ Clean b := by
  induction a with
  | nil => rfl
  | cons c a ih =>
    rw [List.cons_append, clean_cons_plain (h c List.mem_cons_self),
      ih fun d hd => h d (List.mem_cons_of_mem c hd)]

theorem clean_reference {body rest : Text} (h : IsReferenceBody body) :
    Clean ('&' :: (body ++ ';' :: rest)) ↔ Clean rest := by
  have hquotable : Quotable ['&'] := by decide
  rw [clean_cons, clean_append_of_plain h.not_isSpecial, clean_cons_plain rfl]
  exact ⟨fun h => h.2.2, fun hrest => ⟨hquotable, fun _ => ⟨body, rest, h, rfl⟩, hrest⟩⟩

/-- A special character in a clean text begins a reference. -/
theorem Clean.not_isSpecial {c : Char} {t : Text} (h : Clean (c :: t))
    (hbegins : ¬ BeginsReference c t) : isSpecial c = false := by
  obtain ⟨hquotable, hreference, -⟩ := clean_cons.mp h
  obtain ⟨hquot, hlt, hgt⟩ := hquotable c List.mem_cons_self
  have hamp : c ≠ '&' := fun hc => hbegins ⟨hc, hreference hc⟩
  simp [isSpecial, hamp, hlt, hgt, hquot]

/-! ### Escaping and clean texts -/

/-- What is written for the characters of a text is clean. -/
theorem clean_escapeChars (t : Text) : Clean (escapeChars t) := by
  induction t using reference_induction with
  | nil => exact clean_nil
  | reference body rest hbody ih =>
    rw [escapeChars_reference hbody]
    exact (clean_reference hbody).mpr ih
  | char c rest hbegins ih =>
    rw [escapeChars_cons, escapeChar_alone hbegins]
    cases hc : isSpecial c with
    | false =>
      rw [escapeChar_of_plain hc]
      exact (clean_cons_plain hc).mpr ih
    | true =>
      obtain ⟨name, hname, heq, -⟩ := escapeChar_special hc
      rw [heq, List.cons_append, List.append_assoc]
      exact (clean_reference hname).mpr ih

/-- Nothing is written for the characters of a clean text but themselves. -/
theorem Clean.escapeChars_eq {t : Text} (h : Clean t) : escapeChars t = t := by
  induction t using reference_induction with
  | nil => rfl
  | reference body rest hbody ih =>
    rw [escapeChars_reference hbody, ih ((clean_reference hbody).mp h)]
  | char c rest hbegins ih =>
    have hc := h.not_isSpecial hbegins
    rw [escapeChars_cons, escapeChar_of_plain hc, ih ((clean_cons_plain hc).mp h)]
    rfl

theorem clean_of_isPlain {t : Text} (h : isPlain t = true) : Clean t := by
  have hplain : ∀ c ∈ t, isSpecial c = false := by
    rw [isPlain, Bool.not_eq_true', List.any_eq_false] at h
    exact fun c hc => Bool.eq_false_iff.mpr (h c hc)
  rw [← List.append_nil t]
  exact (clean_append_of_plain hplain).mpr clean_nil

/-- A plain text is no exception: going through its characters leaves it as it is. -/
theorem escape_eq_escapeChars (t : Text) : escape t = escapeChars t := by
  unfold escape
  split
  · next h => exact (clean_of_isPlain h).escapeChars_eq.symm
  · rfl

theorem clean_escape (t : Text) : Clean (escape t) := by
  rw [escape_eq_escapeChars]
  exact clean_escapeChars t

theorem escape_eq_self_iff {t : Text} : escape t = t ↔ Clean t := by
  constructor
  · intro h
    exact h ▸ clean_escape t
  · intro h
    rw [escape_eq_escapeChars, h.escapeChars_eq]

/-- **Escaping makes a text clean**, and the texts that it leaves alone are the clean ones; so
escaping twice is escaping once.  That plain texts are not gone through makes no difference. -/
theorem escape_cleans (t : Text) :
    Clean (escape t) ∧ (escape t = t ↔ Clean t) ∧ escape (escape t) = escape t ∧
      escape t = escapeChars t :=
  ⟨clean_escape t, escape_eq_self_iff, escape_eq_self_iff.mpr (clean_escape t),
    escape_eq_escapeChars t⟩

/-- Ampersands that only seem to begin a reference are escaped. -/
example : escape "&#x2F; &#x; &#xZ; &amp &<".toList =
    "&#x2F; &amp;#x; &amp;#xZ; &amp;amp &amp;&lt;".toList := by decide

end Html
end Marginalia
