import Marginalia.Proofs.ScalarReading

/-!
# Reading keys

## Main definitions

* `Toml.StopsKey` — a text that does not carry on a key before it.
* `Toml.StartsKey` — a character that a key can begin with.

## Main results

* `Toml.SpellsKey.reads` — what has the form of a key is read, with the white space behind it.
* `Toml.exists_spells_of_key?` — what is read has the form of a key.
-/

namespace Marginalia
namespace Toml

/-! ### Keys -/

/-- What may stand after a key and its white space. -/
def StopsKey (r : Text) : Prop :=
  ∀ c, r.head? = some c → isKeyChar c = false ∧ isSpace c = false ∧ c ≠ '.'

theorem isKeyChar_of_isSpace {c : Char} (h : isSpace c) : isKeyChar c = false := by
  rcases (isSpace_iff c).1 h with rfl | rfl <;> decide

theorem not_isKeyChar_after_space {sp r : Text} (hsp : sp.all isSpace)
    (h : ∀ c, r.head? = some c → isKeyChar c = false) (c : Char)
    (hc : (sp ++ r).head? = some c) : isKeyChar c = false := by
  cases sp with
  | nil => exact h c hc
  | cons a sp =>
    cases hc
    exact isKeyChar_of_isSpace (by simp at hsp; exact hsp.1)

theorem StopsKey.skipSpace_append {sp r : Text} (h : StopsKey r) (hsp : sp.all isSpace) :
    skipSpace (sp ++ r) = r := by
  rw [Toml.skipSpace_append hsp]
  cases r with
  | nil => rfl
  | cons c r => exact skipSpace_cons_of_not (h c rfl).2.1 r

/-- A character that a key can begin with. -/
def StartsKey (c : Char) : Prop := c = '"' ∨ c = '\'' ∨ isKeyChar c

theorem StartsKey.not_space {c : Char} (h : StartsKey c) : isSpace c = false := by
  by_contra hspace
  rcases (isSpace_iff c).1 (by simpa using hspace) with rfl | rfl <;>
    exact absurd h (by unfold StartsKey; decide)

theorem SpellsLineString.starts {s w : Text} (h : SpellsLineString s w) :
    ∃ c w', w = c :: w' ∧ (c = '"' ∨ c = '\'') := by
  cases h with
  | basic => exact ⟨_, _, rfl, .inl rfl⟩
  | literal => exact ⟨_, _, rfl, .inr rfl⟩

theorem SpellsPart.starts {part w : Text} (h : SpellsPart part w) :
    ∃ c w', w = c :: w' ∧ StartsKey c := by
  cases h with
  | name hne hname =>
    obtain ⟨c, w, rfl⟩ := List.exists_cons_of_ne_nil hne
    simp only [List.all_cons, Bool.and_eq_true] at hname
    exact ⟨c, w, rfl, .inr (.inr hname.1)⟩
  | quoted h =>
    obtain ⟨c, w, rfl, hc⟩ := h.starts
    exact ⟨c, w, rfl, hc.imp_right .inl⟩

theorem SpellsParts.starts {keys : List Text} {w : Text} (h : SpellsParts keys w) :
    ∃ c w', w = c :: w' ∧ StartsKey c := by
  cases h with
  | last h => exact h.starts
  | more hpart =>
    obtain ⟨c, w, rfl, hc⟩ := hpart.starts
    exact ⟨c, _, rfl, hc⟩

theorem SpellsKey.starts {keys : List Text} {k : Text} (h : SpellsKey keys k) :
    ∃ c k', k = c :: k' ∧ StartsKey c :=
  h.parts.starts

/-- White space in front of a key is passed over, and none of the key. -/
theorem SpellsKey.skipSpace_append {keys : List Text} {k : Text} (h : SpellsKey keys k) {sp : Text}
    (hsp : sp.all isSpace) (r : Text) : skipSpace (sp ++ (k ++ r)) = k ++ r := by
  obtain ⟨c, k, rfl, hc⟩ := h.starts
  exact skipSpace_append_cons hsp hc.not_space _

theorem SpellsPart.reads {part w : Text} (h : SpellsPart part w) :
    Reads keyPart? (fun r => ∀ c, r.head? = some c → isKeyChar c = false) w part := by
  intro r hr
  cases h with
  | name hne hname =>
    obtain ⟨c, rest, rfl⟩ := List.exists_cons_of_ne_nil hne
    have hc : isKeyChar c := List.all_eq_true.1 hname c (by simp)
    have hline : lineString? (c :: rest ++ r) = none :=
      lineString?_of_not (by rintro rfl; cases hc) (by rintro rfl; cases hc) _
    rw [keyPart?, hline]
    simp only [takeWhile_append_stop (List.all_eq_true.1 hname) hr, List.drop_left]
    rfl
  | quoted h => rw [keyPart?, h.reads r trivial]

theorem exists_spells_of_keyPart? {t r part : Text} (h : keyPart? t = some (part, r)) :
    ∃ w, t = w ++ r ∧ SpellsPart part w := by
  unfold keyPart? at h
  split at h
  · next found hfound =>
    cases h
    obtain ⟨w, rfl, hw⟩ := exists_spells_of_lineString? hfound
    exact ⟨w, rfl, .quoted hw⟩
  · dsimp only at h
    split at h
    · cases h
    · next hne =>
      cases h
      have ht := List.prefix_iff_eq_append.1 (List.takeWhile_prefix (l := t) isKeyChar)
      exact ⟨t.takeWhile isKeyChar, ht.symm, .name (by simpa using hne) List.all_takeWhile⟩

theorem keyFrom?_last {n : Nat} {part t t' r : Text} (hpart : keyPart? t = some (part, t'))
    (hskip : skipSpace t' = r) (hr : ∀ t', r ≠ '.' :: t') :
    keyFrom? (n + 1) t = some ([part], r) := by
  simp only [keyFrom?, hpart, Option.bind_eq_bind, Option.bind_some, hskip]
  rfl

theorem keyFrom?_more {n : Nat} {part t t' t'' : Text} (hpart : keyPart? t = some (part, t'))
    (hskip : skipSpace t' = '.' :: t'') :
    keyFrom? (n + 1) t =
      (keyFrom? n (skipSpace t'')).map fun found => (part :: found.1, found.2) := by
  simp only [keyFrom?, hpart, Option.bind_eq_bind, Option.bind_some, hskip]
  cases keyFrom? n (skipSpace t'') <;> rfl

theorem SpellsParts.keyFrom?_append {keys : List Text} {w : Text} (h : SpellsParts keys w)
    {n : Nat} (hn : w.length ≤ n) {sp r : Text} (hsp : sp.all isSpace) (hr : StopsKey r) :
    keyFrom? n (w ++ (sp ++ r)) = some (keys, r) := by
  induction h generalizing n with
  | @last part w h =>
    obtain ⟨c, w, rfl, -⟩ := h.starts
    obtain ⟨n, rfl⟩ := Nat.exists_eq_add_one.2 (show 0 < n by simp at hn; omega)
    have hpart := h.reads (sp ++ r) (not_isKeyChar_after_space hsp fun a ha => (hr a ha).1)
    refine keyFrom?_last hpart (hr.skipSpace_append hsp) fun t heq => ?_
    subst heq
    exact (hr _ rfl).2.2 rfl
  | @more part w sp₁ sp₂ rest parts hpart hsp₁ hsp₂ h ih =>
    have hlength : w.length + (sp₁.length + (sp₂.length + rest.length + 1)) ≤ n := by
      simpa using hn
    obtain ⟨n, rfl⟩ := Nat.exists_eq_add_one.2 (show 0 < n by omega)
    -- the parts behind the dot begin with a character that is not white space
    obtain ⟨c, rest, rfl, hc⟩ := h.starts
    have hfirst := hpart.reads (sp₁ ++ '.' :: (sp₂ ++ (c :: rest ++ (sp ++ r))))
      (not_isKeyChar_after_space hsp₁ (by rintro a ⟨⟩; decide))
    have hdot := skipSpace_append_cons hsp₁ (c := '.') rfl (sp₂ ++ (c :: rest ++ (sp ++ r)))
    have hskip : skipSpace (sp₂ ++ (c :: rest ++ (sp ++ r))) = c :: rest ++ (sp ++ r) :=
      skipSpace_append_cons hsp₂ hc.not_space _
    have hmore := keyFrom?_more (n := n) hfirst hdot
    rw [hskip, ih (by omega)] at hmore
    simpa using hmore

theorem exists_spells_of_keyFrom? {n : Nat} {t r : Text} {keys : List Text}
    (h : keyFrom? n t = some (keys, r)) :
    ∃ w sp, t = w ++ (sp ++ r) ∧ sp.all isSpace ∧ SpellsParts keys w := by
  induction n generalizing t keys with
  | zero => cases h
  | succ n ih =>
    cases hpart : keyPart? t with
    | none => simp [keyFrom?, hpart] at h
    | some found =>
      obtain ⟨part, t'⟩ := found
      obtain ⟨w, rfl, hw⟩ := exists_spells_of_keyPart? hpart
      obtain ⟨sp, hsp, hspace⟩ := exists_skipSpace t'
      -- after a dot the key goes on; without one, the white space behind the part is not the key's
      by_cases hdot : ∃ t'', skipSpace t' = '.' :: t''
      · obtain ⟨t'', hdot⟩ := hdot
        rw [keyFrom?_more hpart hdot] at h
        obtain ⟨⟨parts, r⟩, hmore, heq⟩ := Option.map_eq_some_iff.1 h
        cases heq
        obtain ⟨sp', hsp', hspace'⟩ := exists_skipSpace t''
        obtain ⟨rest, trail, hrest, htrail, hparts⟩ := ih hmore
        refine ⟨_, trail, ?_, htrail, .more hw hspace hspace' hparts⟩
        rw [hsp, hdot, hsp', hrest]
        simp
      · rw [keyFrom?_last hpart rfl (by simpa using hdot)] at h
        cases h
        exact ⟨w, sp, by rw [← hsp], hspace, .last hw⟩

/-- What has the form of a key is read as its parts. -/
theorem SpellsKey.reads {keys : List Text} {k sp r : Text} (h : SpellsKey keys k)
    (hsp : sp.all isSpace) (hr : StopsKey r) : key? (k ++ (sp ++ r)) = some (keys, r) := by
  rw [key?, h.parts.keyFrom?_append (by simp; omega) hsp hr]
  simp [Option.filter, h.depth]

/-- What is read as a key has the form of one. -/
theorem exists_spells_of_key? {t r : Text} {keys : List Text} (h : key? t = some (keys, r)) :
    ∃ k sp, t = k ++ (sp ++ r) ∧ sp.all isSpace ∧ SpellsKey keys k := by
  obtain ⟨hfrom, hdepth⟩ := Option.filter_eq_some_iff.1 h
  obtain ⟨k, sp, ht, hsp, hparts⟩ := exists_spells_of_keyFrom? hfrom
  exact ⟨k, sp, ht, hsp, hparts, by simpa using hdepth⟩

end Toml
end Marginalia
