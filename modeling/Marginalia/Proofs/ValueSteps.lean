import Mathlib.Data.List.Basic
import Marginalia.Toml.Read

/-!
# The steps of reading a value

The functions that read values call each other with less and less fuel.  Here it is said once
what each can have found when it succeeds; later proofs go through these cases and do not open
the functions again.

## Main definitions

* `Toml.ValueStep`, `Toml.ElementsStep`, `Toml.MembersStep` — the ways in which a value, the
  elements of an array and the members of a table are read.

## Main results

* `Toml.valueFrom?_eq_some_iff`, `Toml.elementsFrom?_eq_some_iff`,
  `Toml.membersFrom?_eq_some_iff` — there are no other ways.
-/

namespace Marginalia
namespace Toml

/-! ### Values -/

/-- One step of reading a value. -/
inductive ValueStep (n depth : Nat) : Text → Value → Text → Prop where
  | emptyArray {t r : Text} (hdepth : depth + 1 < maxDepth)
      (hclose : skipFiller false t = some (']' :: r)) : ValueStep n depth ('[' :: t) (.array []) r
  | array {t t' r : Text} {vs : List Value} (hdepth : depth + 1 < maxDepth)
      (hskip : skipFiller false t = some t') (hopen : t'.head? ≠ some ']')
      (helements : elementsFrom? n (depth + 1) t' = some (vs, r)) :
      ValueStep n depth ('[' :: t) (.array vs) r
  | emptyTable {t r : Text} (hdepth : depth + 1 < maxDepth)
      (hclose : skipSpace t = '\x7d' :: r) : ValueStep n depth ('\x7b' :: t) (.table []) r
  | table {t r : Text} {pairs : List (List Text × Value)} {ms : Members}
      (hdepth : depth + 1 < maxDepth) (hopen : (skipSpace t).head? ≠ some '\x7d')
      (hmembers : membersFrom? n (depth + 1) (skipSpace t) = some (pairs, r))
      (hpairs : Members.ofPairs pairs = some ms) :
      ValueStep n depth ('\x7b' :: t) (.table (Node.membersToValues ms)) r
  | string {t s r : Text} (harray : t.head? ≠ some '[') (htable : t.head? ≠ some '\x7b')
      (hstring : string? t = some (s, r)) : ValueStep n depth t (.string s) r
  | scalar {t r : Text} {v : Value} (harray : t.head? ≠ some '[')
      (htable : t.head? ≠ some '\x7b') (hstring : string? t = none)
      (hscalar : scalar? t = some (v, r)) : ValueStep n depth t v r

theorem valueFrom?_array (n depth : Nat) (t : Text) :
    valueFrom? (n + 1) depth ('[' :: t) =
      if maxDepth ≤ depth + 1 then none
      else (skipFiller false t).bind fun t' =>
        if t'.head? = some ']' then some (.array [], t'.tail)
        else (elementsFrom? n (depth + 1) t').map fun found => (.array found.1, found.2) := by
  rw [valueFrom?]
  split
  · rfl
  · cases skipFiller false t with
    | none => rfl
    | some t' =>
      cases t' with
      | nil => simp; cases elementsFrom? n (depth + 1) [] <;> rfl
      | cons c t' =>
        by_cases hc : c = ']'
        · subst hc; rfl
        · simp [hc]; cases elementsFrom? n (depth + 1) (c :: t') <;> rfl

theorem valueFrom?_table (n depth : Nat) (t : Text) :
    valueFrom? (n + 1) depth ('\x7b' :: t) =
      if maxDepth ≤ depth + 1 then none
      else if (skipSpace t).head? = some '\x7d' then some (.table [], (skipSpace t).tail)
      else (membersFrom? n (depth + 1) (skipSpace t)).bind fun found =>
        (Members.ofPairs found.1).map fun ms => (.table (Node.membersToValues ms), found.2) := by
  rw [valueFrom?]
  split
  · rfl
  · cases skipSpace t with
    | nil =>
      cases hmembers : membersFrom? n (depth + 1) [] with
      | none => simp [hmembers]
      | some found => cases hpairs : Members.ofPairs found.1 <;> simp [hmembers, hpairs]
    | cons c t' =>
      by_cases hc : c = '\x7d'
      · subst hc; rfl
      · cases hmembers : membersFrom? n (depth + 1) (c :: t') with
        | none => simp [hc, hmembers]
        | some found => cases hpairs : Members.ofPairs found.1 <;> simp [hc, hmembers, hpairs]

theorem valueFrom?_other (n depth : Nat) {t : Text} (harray : t.head? ≠ some '[')
    (htable : t.head? ≠ some '\x7b') :
    valueFrom? (n + 1) depth t =
      match string? t with
      | some (s, r) => some (.string s, r)
      | none => scalar? t := by
  unfold valueFrom?
  split
  · exact absurd rfl harray
  · exact absurd rfl htable
  · rfl

theorem ValueStep.of_array {n depth : Nat} {t r : Text} {v : Value}
    (h : valueFrom? (n + 1) depth ('[' :: t) = some (v, r)) : ValueStep n depth ('[' :: t) v r := by
  rw [valueFrom?_array] at h
  split at h
  · cases h
  · next hdepth =>
    obtain ⟨t', hskip, h⟩ := Option.bind_eq_some_iff.1 h
    split at h
    · next hclose =>
      obtain ⟨rest, rfl⟩ := List.head?_eq_some_iff.1 hclose
      cases h
      exact .emptyArray (by omega) hskip
    · next hopen =>
      obtain ⟨found, hfound, heq⟩ := Option.map_eq_some_iff.1 h
      cases heq
      exact .array (by omega) hskip hopen hfound

theorem ValueStep.of_table {n depth : Nat} {t r : Text} {v : Value}
    (h : valueFrom? (n + 1) depth ('\x7b' :: t) = some (v, r)) :
    ValueStep n depth ('\x7b' :: t) v r := by
  rw [valueFrom?_table] at h
  split at h
  · cases h
  · next hdepth =>
    split at h
    · next hclose =>
      obtain ⟨rest, hrest⟩ := List.head?_eq_some_iff.1 hclose
      cases h
      exact .emptyTable (by omega) (by rw [hrest]; rfl)
    · next hopen =>
      obtain ⟨found, hfound, h⟩ := Option.bind_eq_some_iff.1 h
      obtain ⟨ms, hms, heq⟩ := Option.map_eq_some_iff.1 h
      cases heq
      exact .table (by omega) hopen hfound hms

theorem ValueStep.of_other {n depth : Nat} {t r : Text} {v : Value} (harray : t.head? ≠ some '[')
    (htable : t.head? ≠ some '\x7b') (h : valueFrom? (n + 1) depth t = some (v, r)) :
    ValueStep n depth t v r := by
  rw [valueFrom?_other n depth harray htable] at h
  split at h
  · next hstring =>
    cases h
    exact .string harray htable hstring
  · next hstring => exact .scalar harray htable hstring h

theorem valueFrom?_eq_some_iff {n depth : Nat} {t r : Text} {v : Value} :
    valueFrom? (n + 1) depth t = some (v, r) ↔ ValueStep n depth t v r := by
  constructor
  · intro h
    by_cases harray : t.head? = some '['
    · obtain ⟨t, rfl⟩ := List.head?_eq_some_iff.1 harray
      exact .of_array h
    by_cases htable : t.head? = some '\x7b'
    · obtain ⟨t, rfl⟩ := List.head?_eq_some_iff.1 htable
      exact .of_table h
    · exact .of_other harray htable h
  · intro h
    cases h with
    | emptyArray hdepth hclose => simp [valueFrom?_array, hclose]; omega
    | array hdepth hskip hopen helements => simp [valueFrom?_array, hskip, hopen, helements]; omega
    | emptyTable hdepth hclose => simp [valueFrom?_table, hclose]; omega
    | table hdepth hopen hmembers hpairs => simp [valueFrom?_table, hopen, hmembers, hpairs]; omega
    | string harray htable hstring => simp [valueFrom?_other _ _ harray htable, hstring]
    | scalar harray htable hstring hscalar =>
      simp [valueFrom?_other _ _ harray htable, hstring, hscalar]

/-- One step of reading the elements of an array. -/
inductive ElementsStep (n depth : Nat) : Text → List Value → Text → Prop where
  | last {t t₁ r : Text} {v : Value} (hvalue : valueFrom? n depth t = some (v, t₁))
      (hclose : skipFiller false t₁ = some (']' :: r)) : ElementsStep n depth t [v] r
  | trailing {t t₁ t₂ r : Text} {v : Value} (hvalue : valueFrom? n depth t = some (v, t₁))
      (hcomma : skipFiller false t₁ = some (',' :: t₂))
      (hclose : skipFiller false t₂ = some (']' :: r)) : ElementsStep n depth t [v] r
  | more {t t₁ t₂ t₃ r : Text} {v : Value} {vs : List Value}
      (hvalue : valueFrom? n depth t = some (v, t₁))
      (hcomma : skipFiller false t₁ = some (',' :: t₂))
      (hskip : skipFiller false t₂ = some t₃) (hopen : t₃.head? ≠ some ']')
      (hrest : elementsFrom? n depth t₃ = some (vs, r)) : ElementsStep n depth t (v :: vs) r

theorem elementsFrom?_eq_some_iff {n depth : Nat} {t r : Text} {vs : List Value} :
    elementsFrom? (n + 1) depth t = some (vs, r) ↔ ElementsStep n depth t vs r := by
  constructor
  · intro h
    rw [elementsFrom?] at h
    obtain ⟨⟨v, t₁⟩, hvalue, h⟩ := Option.bind_eq_some_iff.1 h
    obtain ⟨t', hskip, h⟩ := Option.bind_eq_some_iff.1 h
    split at h
    · cases h
      exact .last hvalue hskip
    · next t₂ =>
      obtain ⟨t₃, hskip', h⟩ := Option.bind_eq_some_iff.1 h
      split at h
      · cases h
        exact .trailing hvalue hskip hskip'
      · next hopen =>
        obtain ⟨⟨vs', r'⟩, hrest, h⟩ := Option.bind_eq_some_iff.1 h
        cases h
        refine .more hvalue hskip hskip' (fun hhead => ?_) hrest
        obtain ⟨rest, hhead⟩ := List.head?_eq_some_iff.1 hhead
        exact hopen _ hhead
    · cases h
  · intro h
    cases h with
    | last hvalue hclose => simp [elementsFrom?, hvalue, hclose]
    | trailing hvalue hcomma hclose => simp [elementsFrom?, hvalue, hcomma, hclose]
    | @more t₁ t₂ t₃ r v vs hvalue hcomma hskip hopen hrest =>
      cases t₃ with
      | nil => simp [elementsFrom?, hvalue, hcomma, hskip, hrest]
      | cons c t₃ =>
        have hc : c ≠ ']' := by simpa using hopen
        simp [elementsFrom?, hvalue, hcomma, hskip, hc, hrest]

/-- One step of reading the members of a table. -/
inductive MembersStep (n depth : Nat) : Text → List (List Text × Value) → Text → Prop where
  | last {t t₁ t₂ r : Text} {key : List Text} {v : Value} (hkey : key? t = some (key, '=' :: t₁))
      (hvalue : valueFrom? n depth (skipSpace t₁) = some (v, t₂))
      (hclose : skipSpace t₂ = '\x7d' :: r) : MembersStep n depth t [(key, v)] r
  | more {t t₁ t₂ t₃ r : Text} {key : List Text} {v : Value}
      {pairs : List (List Text × Value)} (hkey : key? t = some (key, '=' :: t₁))
      (hvalue : valueFrom? n depth (skipSpace t₁) = some (v, t₂))
      (hcomma : skipSpace t₂ = ',' :: t₃)
      (hrest : membersFrom? n depth (skipSpace t₃) = some (pairs, r)) :
      MembersStep n depth t ((key, v) :: pairs) r

theorem after?_singleton {c : Char} {t r : Text} : Text.after? [c] t = some r ↔ t = c :: r := by
  cases t with
  | nil => simp [Text.after?]
  | cons a t => by_cases h : c = a <;> simp [Text.after?, h, eq_comm]

theorem membersFrom?_eq_some_iff {n depth : Nat} {t r : Text} {pairs : List (List Text × Value)} :
    membersFrom? (n + 1) depth t = some (pairs, r) ↔ MembersStep n depth t pairs r := by
  constructor
  · intro h
    rw [membersFrom?] at h
    obtain ⟨⟨key, t₀⟩, hkey, h⟩ := Option.bind_eq_some_iff.1 h
    obtain ⟨t₁, hequals, h⟩ := Option.bind_eq_some_iff.1 h
    rw [after?_singleton.1 hequals] at hkey
    obtain ⟨⟨v, t₂⟩, hvalue, h⟩ := Option.bind_eq_some_iff.1 h
    dsimp only at h
    split at h
    · next hclose =>
      cases h
      exact .last hkey hvalue hclose
    · next hcomma =>
      obtain ⟨⟨pairs', r'⟩, hrest, h⟩ := Option.bind_eq_some_iff.1 h
      cases h
      exact .more hkey hvalue hcomma hrest
    · cases h
  · intro h
    cases h with
    | last hkey hvalue hclose => simp [membersFrom?, hkey, hvalue, hclose, Text.after?]
    | more hkey hvalue hcomma hrest =>
      simp [membersFrom?, hkey, hvalue, hcomma, hrest, Text.after?]

end Toml
end Marginalia
