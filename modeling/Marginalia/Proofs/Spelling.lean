import Marginalia.Proofs.Grammar
import Marginalia.Json.Value

/-!
# Spelling strings, truth values and names

Every string can be written between two quotes: a character that may not stand there is replaced
by its number or by an escape of its own.

## Main results

* `Toml.exists_spells_string`, `Toml.exists_spells_boolean` — every string and every truth value
  can be written.
* `Toml.spellsKey_name` — a name without special characters is a key.
-/

namespace Marginalia
namespace Toml

/-! ### Values -/

theorem codePoint?_control : ∀ n < 0x80, isControl (Char.ofNat n) →
    codePoint? ['0', '0', Json.hexDigit (n / 16), Json.hexDigit (n % 16)] =
      some (Char.ofNat n) := by
  decide

theorem lt_of_isControl {c : Char} (h : isControl c) : c.toNat < 0x80 := by
  simp only [isControl, Bool.or_eq_true, Bool.and_eq_true, decide_eq_true_eq, beq_iff_eq] at h
  omega

/-- A character that may not stand for itself can be escaped. -/
theorem exists_escape {c : Char} (h : isControl c ∨ c = '"' ∨ c = '\\') : ∃ e, Escape c e := by
  rcases h with hcontrol | rfl | rfl
  · have hcode := codePoint?_control c.toNat (lt_of_isControl hcontrol)
    rw [Char.ofNat_toNat] at hcode
    exact ⟨_, .short (hcode hcontrol)⟩
  · exact ⟨_, .named (x := '"') rfl⟩
  · exact ⟨_, .named (x := '\\') rfl⟩

theorem exists_spellsText (s : Text) : ∃ w, SpellsText s w := by
  induction s with
  | nil => exact ⟨[], .nil⟩
  | cons c s ih =>
    obtain ⟨w, hw⟩ := ih
    by_cases hc : isControl c ∨ c = '"' ∨ c = '\\'
    · obtain ⟨e, he⟩ := exists_escape hc
      exact ⟨_, .escape he hw⟩
    · simp only [not_or, Bool.not_eq_true] at hc
      exact ⟨_, .plain hc.1 hc.2.1 hc.2.2 hw⟩

/-- A string between two quotes is a value. -/
theorem SpellsText.value {depth : Nat} {s w : Text} (h : SpellsText s w) :
    SpellsValue depth (.string s) ('"' :: (w ++ ['"'])) :=
  .string (.line (.basic h))

theorem exists_spells_string (s : Text) : ∃ w, SpellsValue 0 (.string s) w := by
  obtain ⟨w, hw⟩ := exists_spellsText s
  exact ⟨_, hw.value⟩

theorem spellsValue_boolean {depth : Nat} (b : Bool) :
    SpellsValue depth (.boolean b) (if b then "true".toList else "false".toList) := by
  cases b with
  | false => exact .scalar (.plain rfl rfl)
  | true => exact .scalar (.plain rfl rfl)

theorem exists_spells_boolean (b : Bool) : ∃ w, SpellsValue 0 (.boolean b) w :=
  ⟨_, spellsValue_boolean b⟩

/-! ### Names -/

/-- A name without special characters is a key. -/
theorem spellsKey_name {name : Text} (hne : name ≠ []) (h : ∀ c ∈ name, isKeyChar c) :
    SpellsKey [name] name :=
  ⟨.last (.name hne (List.all_eq_true.2 h)), show 1 < maxDepth by decide⟩

end Toml
end Marginalia
