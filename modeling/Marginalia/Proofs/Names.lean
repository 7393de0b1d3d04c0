import Marginalia.CommandLine
import Mathlib.Logic.Function.Basic

/-!
# Things and their names

Themes, subcommands and options are looked up by what they are called.  Different things are
called differently, so that each of them is found by its own name and by no other.

## Main results

* `find?_eq_some_of_injective`, `find?_eq_ite_of_injective` — what is looked up by its own name
  is found.
* `Theme.ofName?_eq_some_iff`, `Theme.ofName?_eq_none_iff` — the themes.
* `CommandLine.Subcommand.ofName?_name` — the subcommands.
* `CommandLine.Flag.find?_name`, `CommandLine.Key.find?_name`,
  `CommandLine.Key.find?_letter` — the options.
-/

namespace Marginalia

/-- What is looked up by its own name is found. -/
theorem find?_eq_some_of_injective {α β : Type} [BEq β] [LawfulBEq β] {name : α → β}
    (hname : Function.Injective name) {a : α} {l : List α} (ha : a ∈ l) :
    (l.find? fun x => name x == name a) = some a := by
  have hfound : (l.find? fun x => name x == name a).isSome = true := by
    rw [List.find?_isSome]
    exact ⟨a, ha, beq_self_eq_true _⟩
  obtain ⟨b, hb⟩ := Option.isSome_iff_exists.mp hfound
  have hsame := List.find?_some hb
  rw [hb, hname (beq_iff_eq.mp hsame)]

/-- What is looked up by its own name is found where it is among the things there are. -/
theorem find?_eq_ite_of_injective {α β : Type} [DecidableEq α] [BEq β] [LawfulBEq β]
    {name : α → β} (hname : Function.Injective name) (a : α) (l : List α) :
    (l.find? fun x => name x == name a) = if a ∈ l then some a else none := by
  split
  · next ha => exact find?_eq_some_of_injective hname ha
  · next ha =>
    rw [List.find?_eq_none]
    intro b hb hsame
    exact ha (hname (beq_iff_eq.mp hsame) ▸ hb)

/-! ### Themes -/

namespace Theme

theorem mem_all (theme : Theme) : theme ∈ all := by
  cases theme <;> decide

theorem name_injective : Function.Injective name := by
  intro a b h
  revert h
  cases a <;> cases b <;> decide

/-- A name leads to the theme that has it. -/
theorem ofName?_eq_some_iff {t : Text} {theme : Theme} :
    ofName? t = some theme ↔ theme.name = t := by
  constructor
  · intro h
    have hsame := List.find?_some h
    exact beq_iff_eq.mp hsame
  · rintro rfl
    exact find?_eq_some_of_injective name_injective (mem_all theme)

/-- A name leads nowhere if no theme has it. -/
theorem ofName?_eq_none_iff {t : Text} : ofName? t = none ↔ t ∉ all.map name := by
  rw [ofName?, List.find?_eq_none, List.mem_map, not_exists]
  constructor
  · rintro h theme ⟨hmem, hname⟩
    exact h theme hmem (beq_iff_eq.mpr hname)
  · intro h theme hmem hname
    exact h theme ⟨hmem, beq_iff_eq.mp hname⟩

end Theme

namespace CommandLine

/-! ### Subcommands -/

theorem Subcommand.name_injective : Function.Injective Subcommand.name := by
  intro a b h
  revert h
  cases a <;> cases b <;> decide

theorem Subcommand.ofName?_name (s : Subcommand) : Subcommand.ofName? s.name = some s :=
  find?_eq_some_of_injective Subcommand.name_injective (by cases s <;> decide)

/-! ### Options -/

namespace Flag

theorem name_injective : Function.Injective name := by
  intro a b h
  revert h
  cases a <;> cases b <;> decide

/-- The flag for the verbosity is found by its letter, where it is known. -/
theorem find?_verbose {flags : List Flag} (h : .verbose ∈ flags) :
    (flags.find? fun f => f.letter? == some 'v') = some .verbose := by
  have hsame : ∀ f : Flag, (f.letter? == some 'v') = (f.name == verbose.name) := by
    intro f
    cases f <;> decide
  simp only [hsame]
  exact find?_eq_some_of_injective name_injective h

/-- A flag is found by its name, where it is known. -/
theorem find?_name (f : Flag) (flags : List Flag) :
    (flags.find? fun f' => f'.name == f.name) = if f ∈ flags then some f else none :=
  find?_eq_ite_of_injective name_injective f flags

theorem name_ne_nil (f : Flag) : f.name ≠ [] := by
  cases f <;> decide

theorem ne_of_mem_name (f : Flag) : ∀ c ∈ f.name, (c != '=') = true := by
  have hall : (f.name.all fun c => c != '=') = true := by cases f <;> decide
  exact List.all_eq_true.mp hall

end Flag

namespace Key

theorem name_injective : Function.Injective name := by
  intro a b h
  revert h
  cases a <;> cases b <;> decide

/-- The name of an option with a value is not that of a flag. -/
theorem flag_name_ne (f : Flag) (k : Key) : f.name ≠ k.name := by
  cases f <;> cases k <;> decide

/-- An option with a value that has a letter does not share it. -/
theorem letter_ne : ∀ k : Key, k.letter?.isSome = true →
    (∀ f : Flag, f.letter? ≠ k.letter?) ∧ ∀ k' : Key, k'.letter? = k.letter? → k' = k := by
  intro k hk
  constructor
  · intro f
    revert hk
    cases f <;> cases k <;> decide
  · intro k'
    revert hk
    cases k' <;> cases k <;> decide

theorem letter?_eq_some_iff {k k' : Key} {c : Char} (hc : k.letter? = some c) :
    k'.letter? = some c ↔ k' = k := by
  constructor
  · intro h
    exact (letter_ne k (by rw [hc]; rfl)).2 k' (h.trans hc.symm)
  · rintro rfl
    exact hc

/-- A letter of an option is no dash. -/
theorem letter_ne_dash {k : Key} {c : Char} (hc : k.letter? = some c) : c ≠ '-' := by
  rintro rfl
  revert hc
  cases k <;> decide

theorem name_ne_nil (k : Key) : k.name ≠ [] := by
  cases k <;> decide

theorem ne_of_mem_name (k : Key) : ∀ c ∈ k.name, (c != '=') = true := by
  have hall : (k.name.all fun c => c != '=') = true := by cases k <;> decide
  exact List.all_eq_true.mp hall

/-- No flag has the name of an option with a value. -/
theorem find?_flag_name (k : Key) (flags : List Flag) :
    (flags.find? fun f => f.name == k.name) = none := by
  rw [List.find?_eq_none]
  intro f _ hf
  exact flag_name_ne f k (beq_iff_eq.mp hf)

/-- No option with a value has the name of a flag. -/
theorem find?_key_name (f : Flag) (keys : List Key) :
    (keys.find? fun k => k.name == f.name) = none := by
  rw [List.find?_eq_none]
  intro k _ hk
  exact flag_name_ne f k (beq_iff_eq.mp hk).symm

/-- No flag has the letter of an option with a value. -/
theorem find?_flag_letter {k : Key} {c : Char} (hc : k.letter? = some c) (flags : List Flag) :
    (flags.find? fun f => f.letter? == some c) = none := by
  rw [List.find?_eq_none]
  intro f _ hf
  exact (letter_ne k (by rw [hc]; rfl)).1 f ((beq_iff_eq.mp hf).trans hc.symm)

/-- An option with a value is found by its name, where it is known. -/
theorem find?_name (k : Key) (keys : List Key) :
    (keys.find? fun k' => k'.name == k.name) = if k ∈ keys then some k else none :=
  find?_eq_ite_of_injective name_injective k keys

/-- An option with a value is found by its letter, where it is known. -/
theorem find?_letter {k : Key} {c : Char} (hc : k.letter? = some c) (keys : List Key) :
    (keys.find? fun k' => k'.letter? == some c) = if k ∈ keys then some k else none := by
  have hsame : ∀ k' : Key, (k'.letter? == some c) = (k'.name == k.name) := by
    intro k'
    rw [Bool.eq_iff_iff, beq_iff_eq, beq_iff_eq, letter?_eq_some_iff hc, name_injective.eq_iff]
  simp only [hsame]
  exact find?_name k keys

end Key
end CommandLine
end Marginalia
