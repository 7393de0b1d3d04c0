import Marginalia.Json.Read

/-!
# Strings of JSON

A text is written as a string character by character, and what is written for a character
is read back as its number.  Characters are no halves of surrogate pairs, so that joining
such halves leaves the numbers of a text alone.

## Main results

* `Json.numeral_hexDigits` — the two digits of a control character denote it.
* `Json.stringBody?_quoteChar` — what is written for a character is read as its number.
* `Json.stringBody?_quoted` — a string is read up to the quote that closes it.
* `Json.joinSurrogates_map_toNat` — the numbers of the characters of a text are that text.
-/

namespace Marginalia
namespace Json

/-! ### Digits -/

/-- The digits of a control character are digits, and they denote it. -/
theorem numeral_hexDigits : ∀ n < 0x20,
    ['0', '0', hexDigit (n / 16), hexDigit (n % 16)].all Text.isHexDigit = true ∧
      Text.numeral 16 ['0', '0', hexDigit (n / 16), hexDigit (n % 16)] = n := by
  decide

/-! ### Single characters -/

/-- An escape of one letter is read as the character it stands for. -/
theorem stringBody?_escape {letter c : Char} (h : escaped? letter = some c) (t : Text) :
    stringBody? ('\\' :: letter :: t) = (stringBody? t).map fun r => (c.toNat :: r.1, r.2) := by
  have hu : letter ≠ 'u' := by
    rintro rfl
    simp [escaped?] at h
  rw [stringBody?]
  · rw [h]
  · intro a b x y t' heq
    exact absurd heq hu

/-- A character that needs no escape is read as itself. -/
theorem stringBody?_plain {c : Char} (hquote : c ≠ '"') (hslash : c ≠ '\\')
    (hcontrol : ¬ c.toNat < 0x20) (t : Text) :
    stringBody? (c :: t) = (stringBody? t).map fun r => (c.toNat :: r.1, r.2) := by
  rw [stringBody?]
  · have hplain : (decide (c.toNat < 0x20) || decide (c = '\\')) = false := by
      simp [hcontrol, hslash]
    rw [hplain, if_neg Bool.false_ne_true]
  · exact hquote
  · intro a b x y t' h
    exact absurd h hslash
  · intro letter t' h
    exact absurd h hslash

/-- What is written for a character is read as its number. -/
theorem stringBody?_quoteChar (c : Char) (t : Text) :
    stringBody? (quoteChar c ++ t) = (stringBody? t).map fun r => (c.toNat :: r.1, r.2) := by
  unfold quoteChar
  split
  · next h => subst h; exact stringBody?_escape rfl t
  split
  · next h => subst h; exact stringBody?_escape rfl t
  split
  · next h => subst h; exact stringBody?_escape rfl t
  split
  · next h => subst h; exact stringBody?_escape rfl t
  split
  · next h => subst h; exact stringBody?_escape rfl t
  split
  · next h => subst h; exact stringBody?_escape rfl t
  split
  · next h => subst h; exact stringBody?_escape rfl t
  split
  · next hcontrol =>
    -- a control character is written by its number, in four digits
    obtain ⟨hdigits, hnumber⟩ := numeral_hexDigits c.toNat hcontrol
    change stringBody? ('\\' :: 'u' :: '0' :: '0' :: hexDigit (c.toNat / 16) ::
      hexDigit (c.toNat % 16) :: t) = _
    rw [stringBody?, if_pos hdigits, hnumber]
  · next hquote hslash _ _ _ _ _ hcontrol => exact stringBody?_plain hquote hslash hcontrol t

/-! ### Whole strings -/

/-- A string is read up to the quote that closes it, whatever follows. -/
theorem stringBody?_quoted (t rest : Text) :
    stringBody? (t.flatMap quoteChar ++ '"' :: rest) = some (t.map Char.toNat, rest) := by
  induction t with
  | nil => rfl
  | cons c t ih =>
    rw [List.flatMap_cons, List.append_assoc, stringBody?_quoteChar, ih]
    rfl

/-- A character is not the first half of a surrogate pair. -/
theorem isHighSurrogate_toNat (c : Char) : isHighSurrogate c.toNat = false := by
  have hvalid : c.toNat < 0xD800 ∨ 0xDFFF < c.toNat ∧ c.toNat < 0x110000 := c.valid
  rw [isHighSurrogate, Bool.and_eq_false_iff, decide_eq_false_iff_not, decide_eq_false_iff_not]
  omega

/-- The numbers of the characters of a text are that text. -/
theorem joinSurrogates_map_toNat (t : Text) : joinSurrogates (t.map Char.toNat) = some t := by
  induction t with
  | nil => rfl
  | cons c t ih =>
    have hvalid : c.toNat.isValidChar := c.valid
    cases t with
    | nil =>
      change (if c.toNat.isValidChar then _ else _) = _
      rw [if_pos hvalid, Char.ofNat_toNat]
    | cons d t =>
      have hstep : joinSurrogates (c.toNat :: (d :: t).map Char.toNat) =
          (joinSurrogates ((d :: t).map Char.toNat)).map fun u => Char.ofNat c.toNat :: u := by
        rw [List.map_cons, joinSurrogates, isHighSurrogate_toNat, if_neg Bool.false_ne_true,
          if_pos hvalid]
      rw [List.map_cons, hstep, ih, Char.ofNat_toNat]
      rfl

end Json
end Marginalia
