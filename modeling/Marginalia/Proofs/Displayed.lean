import Marginalia.Proofs.CleanText

/-!
# What escaped text displays

A program that displays HTML reads a text once, from left to right, and replaces the character
references that it knows.  Whatever references those are, a text displays as it did before it
has been escaped.

## Main definitions

* `Html.ReferenceTable.shown` — what is displayed for a reference.
* `Html.IsDecoder` — the functions that replace references in this way.

## Main results

* `Html.isDecoder_iff` — a table has one decoder.
* `Html.displays_unchanged` — **escaping does not change what is displayed.**
-/

namespace Marginalia
namespace Html

/-! ### Decoders -/

/-- What is displayed for a reference; one that the table does not know is left as it is. -/
def ReferenceTable.shown (table : ReferenceTable) (body : Text) : Text :=
  (table body).getD ('&' :: (body ++ [';']))

/-- The function reads a text once from left to right, replaces the references in it by what
the table says, and copies all other characters. -/
structure IsDecoder (table : ReferenceTable) (dec : Text → Text) : Prop where
  nil : dec [] = []
  reference : ∀ body rest, IsReferenceBody body →
    dec ('&' :: (body ++ ';' :: rest)) = table.shown body ++ dec rest
  char : ∀ c rest, ¬ BeginsReference c rest → dec (c :: rest) = c :: dec rest

variable {table : ReferenceTable} {dec dec' : Text → Text}

theorem decode_of_isReferenceBody {body : Text} (h : IsReferenceBody body) (rest : Text) :
    decode table ('&' :: (body ++ ';' :: rest)) = table.shown body ++ decode table rest := by
  have hstarts : startsReference (body ++ ';' :: rest) = true :=
    startsReference_iff.mpr ⟨body, rest, h, rfl⟩
  rw [ReferenceTable.shown]
  cases hvalue : table body with
  | some value => exact decode_reference hstarts h.notMem_semicolon hvalue
  | none =>
    have hreplaced : replaced? table '&' (body ++ ';' :: rest) = none := by
      rw [replaced?, if_pos rfl, reference?_append hstarts h.notMem_semicolon, Option.bind_some,
        hvalue, Option.map_none]
    rw [decode_copy hreplaced, decode_append (h.notMem rfl), decode_cons (by decide)]
    simp

theorem decode_of_not_begins {c : Char} {rest : Text} (h : ¬ BeginsReference c rest) :
    decode table (c :: rest) = c :: decode table rest := by
  refine decode_copy ?_
  by_cases hc : c = '&'
  · have hstarts : ¬ startsReference rest = true :=
      fun hstarts => h ⟨hc, startsReference_iff.mp hstarts⟩
    rw [replaced?, if_pos hc, reference?, if_neg hstarts, Option.bind_none]
  · rw [replaced?, if_neg hc]

theorem isDecoder_decode (table : ReferenceTable) : IsDecoder table (decode table) where
  nil := decode_nil
  reference _ rest h := decode_of_isReferenceBody h rest
  char _ _ h := decode_of_not_begins h

/-- What is displayed for a text is determined by what is displayed for the references. -/
theorem IsDecoder.unique (h : IsDecoder table dec) (h' : IsDecoder table dec') : dec = dec' := by
  funext t
  induction t using reference_induction with
  | nil => rw [h.nil, h'.nil]
  | reference body rest hbody ih =>
    rw [h.reference body rest hbody, h'.reference body rest hbody, ih]
  | char c rest hbegins ih => rw [h.char c rest hbegins, h'.char c rest hbegins, ih]

/-- A table has one decoder. -/
theorem isDecoder_iff : IsDecoder table dec ↔ dec = decode table := by
  constructor
  · intro h
    exact h.unique (isDecoder_decode table)
  · rintro rfl
    exact isDecoder_decode table

/-! ### Decoding escaped text -/

/-- What is written for a character that begins no reference is displayed as the character. -/
theorem IsDecoder.apply_escapeChar (h : IsDecoder table dec) (hknows : table.Knows) (c : Char)
    (rest : Text) : dec (escapeChar c [] ++ rest) = c :: dec rest := by
  cases hc : isSpecial c with
  | false =>
    have hbegins : ¬ BeginsReference c rest := by
      rintro ⟨rfl, -⟩
      cases hc
    rw [escapeChar_of_plain hc]
    exact h.char c rest hbegins
  | true =>
    obtain ⟨name, hname, heq, hvalue⟩ := escapeChar_special hc
    rw [heq, List.cons_append, List.append_assoc]
    refine (h.reference name rest hname).trans ?_
    rw [ReferenceTable.shown, hvalue table hknows]
    rfl

theorem IsDecoder.apply_escapeChars (h : IsDecoder table dec) (hknows : table.Knows) (t : Text) :
    dec (escapeChars t) = dec t := by
  -- the decoder of what has been written keeps in step with the one of the text
  induction t using reference_induction with
  | nil => rfl
  | reference body rest hbody ih =>
    rw [escapeChars_reference hbody, h.reference body _ hbody, h.reference body _ hbody, ih]
  | char c rest hbegins ih =>
    rw [escapeChars_cons, escapeChar_alone hbegins, h.apply_escapeChar hknows,
      h.char c rest hbegins, ih]

/-- **Escaping does not change what is displayed**, whatever the references other than those
for the special characters stand for. -/
theorem displays_unchanged (hdec : IsDecoder table dec) (hknows : table.Knows) (t : Text) :
    dec (escape t) = dec t := by
  rw [escape_eq_escapeChars]
  exact hdec.apply_escapeChars hknows t

/-- A reference that is spelled out after an ampersand of its own is displayed, and an
unfinished one stays unfinished. -/
theorem displays_unchanged_references :
    IsDecoder .quotes (decode .quotes) ∧ ReferenceTable.quotes.Knows ∧
      escape "&&lt;b&gt;&#39;&copy; &#x; &amp".toList =
        "&amp;&lt;b&gt;&#39;&copy; &amp;#x; &amp;amp".toList ∧
      decode .quotes (escape "&&lt;b&gt;&#39;&copy; &#x; &amp".toList) =
        "&<b>'&copy; &#x; &amp".toList := by
  refine ⟨isDecoder_decode _, ReferenceTable.knows_quotes, by decide, ?_⟩
  rw [displays_unchanged (isDecoder_decode _) ReferenceTable.knows_quotes]
  decide

end Html
end Marginalia
