import Marginalia.Proofs.Removal

/-!
# Command lines without an option

An option that is given can be taken out of a whole command line: what is left asks for the
command that the other items make.  This is so for options with a value, however they are
spelled, and for those without one.  Where an option is not known it cannot stand, so it stands
in the arguments of a subcommand.

## Main definitions

* `Command.overrides?` — the settings that a command is given.
* `CommandLine.Taken` — what is left of arguments without an item.
* `CommandLine.Takeable` — arguments with an item that can be taken out.

## Main results

* `CommandLine.Subcommand.read?_taken` — what is left asks for what the other items do.
* `CommandLine.read?_of_subcommands`, `CommandLine.takeable_of_subcommands` — what is so for
  subcommands is so for command lines.
* `CommandLine.read?_erase_output` — **taking the output out of a command line takes it out
  of the command.**
* `CommandLine.removable_output` — **an output can always be taken out.**
-/

namespace Marginalia

/-- The settings that a command is given. -/
def Command.overrides? : Command → Option Overrides
  | .render _ _ o => some o
  | .parse _ o => some o
  | _ => none

namespace CommandLine

/-! ### Options with and without a value -/

/-- Taking the item `i` out of the arguments `spelled` leaves the arguments `kept`. -/
inductive Taken : Item → List Text → List Text → Prop where
  /-- An option with a value. -/
  | setting {k : Key} {value : Text} {spelled kept : List Text}
    (h : Removal k value spelled kept) : Taken (.setting k value) spelled kept
  /-- An option without one, by its name. -/
  | flag (f : Flag) : Taken (.flag f) ['-' :: '-' :: f.name] []

/-- An item that gives an option which is known. -/
def Item.Known (g : Grammar) : Item → Prop
  | .setting k _ => k ∈ g.keys
  | .flag f => f ∈ g.flags
  | _ => False

namespace Grammar

variable {g : Grammar} {f : Flag}

theorem longOption_flag (g : Grammar) (f : Flag) :
    g.longOption f.name = if f ∈ g.flags then ⟨[.flag f], none⟩ else ⟨[.wrong], none⟩ := by
  have htake : f.name.takeWhile (· != '=') = f.name :=
    List.takeWhile_eq_self_iff.mpr f.ne_of_mem_name
  rw [longOption, htake, f.find?_name, Key.find?_key_name, List.drop_length]
  by_cases hf : f ∈ g.flags
  · rw [if_pos hf, if_pos hf]
    rfl
  · rw [if_neg hf, if_neg hf]

end Grammar

theorem ne_separator_flag (f : Flag) : '-' :: '-' :: f.name ≠ separator := by
  simp [separator, f.name_ne_nil]

namespace Taken

variable {g : Grammar} {i : Item} {spelled kept : List Text}

theorem exists_cons (h : Taken i spelled kept) :
    ∃ first rest, spelled = first :: rest ∧ isOperand first = false ∧ first ≠ separator := by
  cases h with
  | setting h => exact h.exists_cons
  | flag f => exact ⟨_, [], rfl, isOperand_dash _ _, ne_separator_flag f⟩

/-- What arguments say without an option that is known. -/
theorem items_eq (h : Taken i spelled kept) (hi : i.Known g) (hv : .verbose ∈ g.flags) :
    ∃ is, (∀ args, g.items (spelled ++ args) = is ++ i :: g.items args) ∧
      ∀ args, g.items (kept ++ args) = is ++ g.items args := by
  cases h with
  | setting h => exact h.items_eq hi hv
  | flag f =>
    have hoptions : g.options ('-' :: '-' :: f.name) = ⟨[.flag f], none⟩ :=
      (g.longOption_flag f).trans (if_pos hi)
    refine ⟨[], fun args => ?_, fun _ => rfl⟩
    exact Grammar.items_complete (ne_separator_flag f) (isOperand_dash _ _) hoptions

/-- Where an option is not known, it is wrong. -/
theorem options_unknown {first : Text} {rest : List Text} (h : Taken i (first :: rest) kept)
    (hi : ¬ i.Known g) (hv : .verbose ∈ g.flags) :
    ∃ n, g.options first = ⟨List.replicate n (.flag .verbose) ++ [.wrong], none⟩ := by
  cases h with
  | setting h =>
    cases h with
    | alone h => exact ⟨0, h.options_unknown hi⟩
    | bundled n hc h =>
      refine ⟨n + 1, ?_⟩
      rw [Grammar.options_replicate hv hc, h.options_unknown hi]
  | flag f => exact ⟨0, (g.longOption_flag f).trans (if_neg hi)⟩

/-- An option that is not known makes arguments wrong. -/
theorem wrong_mem (h : Taken i spelled kept) (hi : ¬ i.Known g) (hv : .verbose ∈ g.flags)
    (args : List Text) : .wrong ∈ g.items (spelled ++ args) := by
  obtain ⟨first, rest, rfl, hoperand, hne⟩ := h.exists_cons
  obtain ⟨n, hoptions⟩ := h.options_unknown hi hv
  rw [List.cons_append, Grammar.items_complete hne hoperand hoptions]
  simp

end Taken

/-! ### Finding an option -/

/-- The item `i` can be found in the arguments `args`, and taken out of them. -/
def Takeable (i : Item) (args : List Text) : Prop :=
  ∃ before spelled kept after, args = before ++ (spelled ++ after) ∧ separator ∉ before ∧
    Taken i spelled kept

namespace Takeable

variable {i : Item} {args : List Text}

theorem setting_iff {k : Key} {value : Text} :
    Takeable (.setting k value) args ↔ Removable k value args := by
  constructor
  · rintro ⟨before, spelled, kept, after, hargs, hsep, htaken⟩
    cases htaken with
    | setting h => exact ⟨before, spelled, kept, after, hargs, hsep, h⟩
  · rintro ⟨before, spelled, kept, after, hargs, hsep, hremoval⟩
    exact ⟨before, spelled, kept, after, hargs, hsep, .setting hremoval⟩

/-- What can be taken out of arguments can be taken out behind others. -/
theorem behind (h : Takeable i args) {passed : List Text} (hpassed : separator ∉ passed) :
    Takeable i (passed ++ args) := by
  obtain ⟨before, spelled, kept, after, rfl, hbefore, htaken⟩ := h
  refine ⟨passed ++ before, spelled, kept, after, (List.append_assoc ..).symm, ?_, htaken⟩
  rw [List.mem_append]
  exact not_or.mpr ⟨hpassed, hbefore⟩

end Takeable

namespace Grammar

variable {g : Grammar} {f : Flag}

theorem letter_of_mem_shortOptions : ∀ letters : Text,
    .flag f ∈ (g.shortOptions letters).items → f.letter?.isSome
  | [], h => absurd h List.not_mem_nil
  | c :: letters, h => by
    rw [shortOptions] at h
    split at h
    · next f' hfound =>
      have hletter := List.find?_some hfound
      rcases List.mem_cons.mp h with heq | hrest
      · cases heq
        simp [beq_iff_eq.mp hletter]
      · exact letter_of_mem_shortOptions letters hrest
    · split at h
      · split at h <;> simp at h
      · simp at h

/-- A flag without a letter is given by its name. -/
theorem eq_of_mem_options (hf : f.letter? = none) {arg : Text}
    (h : .flag f ∈ (g.options arg).items) : arg = '-' :: '-' :: f.name := by
  unfold options at h
  split at h
  · next body =>
    rw [longOption] at h
    split at h
    · next f' hfound =>
      have hsame := List.find?_some hfound
      have hname : f'.name = body.takeWhile (· != '=') := beq_iff_eq.mp hsame
      split at h
      · next hvalue =>
        obtain rfl : f = f' := Item.flag.inj (List.mem_singleton.mp h)
        rw [List.isEmpty_iff, List.drop_eq_nil_iff] at hvalue
        have hall := (List.takeWhile_prefix (l := body) (· != '=')).eq_of_length_le hvalue
        rw [hname, hall]
      · cases List.mem_singleton.mp h
    · split at h
      · split at h
        · cases h
        · cases List.mem_singleton.mp h
      · cases List.mem_singleton.mp h
  · have hletter := letter_of_mem_shortOptions _ h
    rw [hf] at hletter
    cases hletter
  · cases List.mem_singleton.mp h

/-- A flag without a letter that is given can be taken out. -/
theorem takeable_flag (hf : f.letter? = none) : ∀ args : List Text,
    .flag f ∈ g.items args → Takeable (.flag f) args
  | [], hmem => absurd hmem List.not_mem_nil
  | arg :: args, hmem => by
    by_cases hne : arg = separator
    · subst hne
      rw [items_separator] at hmem
      obtain ⟨t, -, ht⟩ := List.mem_map.mp hmem
      cases ht
    have hsep : separator ∉ [arg] := fun h => hne (List.mem_singleton.mp h).symm
    cases hoperand : isOperand arg with
    | true =>
      rw [items_operand hoperand] at hmem
      rcases List.mem_cons.mp hmem with heq | hrest
      · cases heq
      · exact (takeable_flag hf args hrest).behind hsep
    | false =>
      -- the argument says the flag itself, or it is passed with the value it may await
      by_cases hhere : .flag f ∈ (g.options arg).items
      · rw [eq_of_mem_options hf hhere]
        exact ⟨[], _, [], args, rfl, List.not_mem_nil, .flag f⟩
      cases hoptions : g.options arg with
      | mk said awaits =>
        rw [hoptions] at hhere
        cases awaits with
        | none =>
          rw [items_complete hne hoperand hoptions] at hmem
          have hrest := (List.mem_append.mp hmem).resolve_left hhere
          exact (takeable_flag hf args hrest).behind hsep
        | some k =>
          cases args with
          | nil =>
            rw [items_awaiting_nil hne hoperand hoptions] at hmem
            cases List.mem_singleton.mp ((List.mem_append.mp hmem).resolve_left hhere)
          | cons value args =>
            rw [items_awaiting hne hoperand hoptions] at hmem
            have hrest := (List.mem_append.mp hmem).resolve_left hhere
            split at hrest
            · next hvalue =>
              have hsep' : separator ∉ [arg, value] := by
                rw [List.mem_cons, List.mem_singleton]
                exact not_or.mpr ⟨Ne.symm hne, (ne_separator_of_isOperand hvalue).symm⟩
              rcases List.mem_cons.mp hrest with heq | hrest
              · cases heq
              · exact (takeable_flag hf args hrest).behind hsep'
            · cases List.mem_singleton.mp hrest

end Grammar

/-! ### Subcommands -/

namespace Subcommand

variable {s : Subcommand} {i : Item} {before spelled kept after args : List Text} {c : Command}

theorem verbose_mem (s : Subcommand) : .verbose ∈ s.grammar.flags := by cases s <;> decide

/-- What arguments that make a request say without an option. -/
theorem exists_items (h : Taken i spelled kept) (hsep : separator ∉ before) {r : Request}
    (hr : s.request? (s.grammar.items (before ++ (spelled ++ after))) = some r) :
    ∃ is js, s.grammar.items (before ++ (spelled ++ after)) = is ++ i :: js ∧
      s.grammar.items (before ++ (kept ++ after)) = is ++ js := by
  have hfine := Request.isFault_of_mem _ _ hr
  rcases s.grammar.precedes before hsep with ⟨is, his⟩ | ⟨is, his⟩
  · by_cases hi : i.Known s.grammar
    · obtain ⟨js, hspelled, hkept⟩ := h.items_eq hi s.verbose_mem
      refine ⟨is ++ js, s.grammar.items after, ?_, ?_⟩
      · rw [his, hspelled, List.append_assoc]
      · rw [his, hkept, List.append_assoc]
    · have hwrong := h.wrong_mem hi s.verbose_mem after
      rw [his] at hfine
      cases hfine .wrong (List.mem_append_right _ hwrong)
  · -- something before the option lacks its value
    obtain ⟨first, rest, rfl, hoperand, -⟩ := h.exists_cons
    rw [List.cons_append, his first _ hoperand] at hfine
    cases hfine .wrong (List.mem_append_right _ (List.mem_singleton_self _))

/-- A command without an option is made of the other items. -/
theorem read?_taken (h : Taken i spelled kept) (hsep : separator ∉ before)
    (hc : ∀ topic, c ≠ .help topic) (hread : s.read? (before ++ (spelled ++ after)) = some c) :
    ∃ is js r, s.request? (is ++ i :: js) = some r ∧ s.command? r = some c ∧
      s.read? (before ++ (kept ++ after)) = (s.request? (is ++ js)).bind s.command? := by
  obtain ⟨hhelp, r, hr, hcommand⟩ := (read?_eq_some_iff hc).mp hread
  obtain ⟨is, js, hspelled, hkept⟩ := exists_items h hsep hr
  rw [hspelled] at hr hhelp
  refine ⟨is, js, r, hr, hcommand, ?_⟩
  rw [read?_of_notMem, hkept]
  rw [hkept]
  intro hmem
  exact hhelp (((List.sublist_cons_self i js).append_left is).mem hmem)

end Subcommand

/-! ### Whole command lines -/

section

variable {i : Item} {spelled kept after : List Text} {c : Command} {o : Overrides}

theorem early?_replicate (n : Nat) (is : List Item) :
    early? (List.replicate n (.flag .verbose) ++ is) = early? is := by
  induction n with
  | zero => rfl
  | succ n ih => exact ih

/-- Options before a subcommand ask for nothing that settings matter to. -/
theorem overrides?_of_early? : ∀ {is : List Item}, early? is = some (some c) →
    c.overrides? = none := by
  intro is
  induction is with
  | nil => simp [early?]
  | cons i is ih =>
    intro h
    cases i with
    | flag f =>
      cases f with
      | verbose => exact ih h
      | help => cases h; rfl
      | version => cases h; rfl
      | plain => cases h
      | noHighlight => cases h
      | standalone => cases h
    | setting k value => cases h
    | operand t => cases h
    | wrong => cases h

/-- A command line asks for something that settings matter to in what follows the name of a
subcommand; before it there may be options that leave the command to what follows. -/
theorem read?_cons_eq_some_iff (hc : c.overrides? = some o) {arg : Text} {args : List Text} :
    read? (arg :: args) = some c ↔
      (∃ s : Subcommand, arg = s.name ∧ s.read? args = some c) ∨
        isOperand arg = false ∧ arg ≠ separator ∧
          early? (programGrammar.options arg).items = some none ∧ read? args = some c := by
  constructor
  · intro h
    rw [read?] at h
    split at h
    · split at h
      · obtain ⟨topic, -, rfl⟩ := Option.map_eq_some_iff.mp h
        cases hc
      · cases hname : Subcommand.ofName? arg with
        | none => rw [hname] at h; cases h
        | some s =>
          rw [hname] at h
          have hfound := List.find?_some hname
          exact .inl ⟨s, (beq_iff_eq.mp hfound).symm, h⟩
    · next hoperand =>
      split at h
      · cases h
      · next hne =>
        cases hearly : early? (programGrammar.options arg).items with
        | none => rw [hearly] at h; cases h
        | some next =>
          rw [hearly] at h
          cases next with
          | none => exact .inr ⟨Bool.eq_false_iff.mpr hoperand, hne, rfl, h⟩
          | some c' =>
            obtain rfl := Option.some.inj h
            rw [overrides?_of_early? hearly] at hc
            cases hc
  · rintro (⟨s, rfl, h⟩ | ⟨hoperand, hne, hearly, h⟩)
    · rw [read?_name, h]
    · rw [read?, hoperand, if_neg Bool.false_ne_true, if_neg hne, hearly]
      exact h

/-- What taking an option out of the arguments of a subcommand comes to, it comes to for whole
command lines. -/
theorem read?_of_subcommands (h : Taken i spelled kept) (hi : ¬ i.Known programGrammar)
    (hc : c.overrides? = some o) {c' : Command} {o' : Overrides} (hc' : c'.overrides? = some o')
    {P : Prop} (hs : ∀ (s : Subcommand) (before : List Text), separator ∉ before →
      s.read? (before ++ (spelled ++ after)) = some c →
        P ∧ s.read? (before ++ (kept ++ after)) = some c') :
    ∀ before : List Text, separator ∉ before → read? (before ++ (spelled ++ after)) = some c →
      P ∧ read? (before ++ (kept ++ after)) = some c' := by
  intro before
  induction before with
  | nil =>
    intro _ hread
    -- before a subcommand the option is a misuse
    obtain ⟨first, rest, rfl, hoperand, hne⟩ := h.exists_cons
    obtain ⟨n, hoptions⟩ := h.options_unknown hi (by decide)
    rw [List.nil_append, List.cons_append, read?, hoperand, if_neg Bool.false_ne_true,
      if_neg hne, hoptions, early?_replicate] at hread
    cases hread
  | cons arg before ih =>
    intro hsep hread
    have hbefore : separator ∉ before := fun h => hsep (List.mem_cons_of_mem _ h)
    rw [List.cons_append, read?_cons_eq_some_iff hc] at hread
    rw [List.cons_append, read?_cons_eq_some_iff hc']
    rcases hread with ⟨s, rfl, hread⟩ | ⟨hoperand, hne, hearly, hread⟩
    · obtain ⟨hP, hread⟩ := hs s before hbefore hread
      exact ⟨hP, .inl ⟨s, rfl, hread⟩⟩
    · obtain ⟨hP, hread⟩ := ih hbefore hread
      exact ⟨hP, .inr ⟨hoperand, hne, hearly, hread⟩⟩

/-- What can be taken out of the arguments of a subcommand can be taken out of a command
line. -/
theorem takeable_of_subcommands (hc : c.overrides? = some o)
    (hs : ∀ (s : Subcommand) (args : List Text), s.read? args = some c → Takeable i args) :
    ∀ args : List Text, read? args = some c → Takeable i args := by
  intro args
  induction args with
  | nil => exact fun h => by cases h
  | cons arg args ih =>
    intro h
    rcases (read?_cons_eq_some_iff hc).mp h with ⟨s, rfl, hread⟩ | ⟨-, hne, -, hread⟩
    · have hsep : separator ∉ [s.name] := by cases s <;> decide
      exact (hs s args hread).behind hsep
    · exact (ih hread).behind fun h => hne (List.mem_singleton.mp h).symm

end

/-! ### Without the output -/

section

variable {before spelled kept after args : List Text} {files : List Path} {o : Overrides}

/-- Taking the output out of the arguments of a subcommand takes it out of the command. -/
theorem Subcommand.read?_erase_output {s : Subcommand} {p : Text} {output : Option Path}
    (h : Removal .output p spelled kept) (hsep : separator ∉ before)
    (hread : s.read? (before ++ (spelled ++ after)) = some (.render files output o)) :
    output = some ⟨p⟩ ∧ s.read? (before ++ (kept ++ after)) = some (.render files none o) := by
  obtain ⟨is, js, r, hr, hcommand, hkept⟩ := read?_taken (.setting h) hsep (by simp) hread
  obtain ⟨rfl, rfl, hfiles⟩ := command?_eq_render_iff.mp hcommand
  -- the items before the output do not name it, since it can be named once
  rw [request?, List.foldlM_append] at hr
  obtain ⟨r₁, hr₁, hr⟩ := Option.bind_eq_some_iff.mp hr
  rw [List.foldlM_cons] at hr
  obtain ⟨r₂, hr₂, hr⟩ := Option.bind_eq_some_iff.mp hr
  obtain ⟨hnone, rfl⟩ := Request.take_setting_output hr₂
  obtain ⟨houtput, hwithout⟩ := Request.foldlM_output _ _ rfl hr
  refine ⟨houtput, ?_⟩
  have hsame : ({ r₁ with output := none } : Request) = r₁ := by rw [← hnone]
  have hboth : render.request? (is ++ js) = some ⟨files, none, o⟩ := by
    rw [request?, List.foldlM_append, hr₁]
    change js.foldlM _ r₁ = _
    rw [← hsame]
    exact hwithout
  rw [hkept, hboth]
  exact command?_eq_render_iff.mpr ⟨rfl, rfl, hfiles⟩

/-- **Taking the output out of a command line takes it out of the command.** -/
theorem read?_erase_output {p : Text} {output : Option Path}
    (h : Removal .output p spelled kept) : ∀ before : List Text, separator ∉ before →
      read? (before ++ (spelled ++ after)) = some (.render files output o) →
        output = some ⟨p⟩ ∧ read? (before ++ (kept ++ after)) = some (.render files none o) :=
  read?_of_subcommands (.setting h) List.not_mem_nil rfl rfl
    fun _ _ hsep hread => Subcommand.read?_erase_output h hsep hread

/-- **An output can always be taken out.** -/
theorem removable_output {p : Path} (args : List Text)
    (h : read? args = some (.render files (some p) o)) : Removable .output p.text args := by
  refine Takeable.setting_iff.mp (takeable_of_subcommands rfl (fun s args hread => ?_) args h)
  obtain ⟨-, r, hr, hcommand⟩ := (Subcommand.read?_eq_some_iff (by simp)).mp hread
  obtain ⟨rfl, rfl, -⟩ := Subcommand.command?_eq_render_iff.mp hcommand
  rw [Takeable.setting_iff]
  exact Grammar.removable _ .output p.text args (Request.isFault_of_mem _ _ hr)
    (Request.mem_of_output _ _ rfl hr rfl)

end

end CommandLine
end Marginalia
