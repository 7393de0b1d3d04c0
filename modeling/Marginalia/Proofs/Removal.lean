import Marginalia.Proofs.Arguments

/-!
# Taking an option out

An option with a value can be taken out of a command line, and what is left says the rest.
Where an option is given it can always be found and taken out.

## Main definitions

* `CommandLine.Removal` — what is left of arguments without an option.
* `CommandLine.Removable` — arguments with an option that can be taken out.
* `CommandLine.Grammar.Shape`, `CommandLine.Grammar.Step` — what one argument comes to, and
  what one or two say in front of others.

## Main results

* `CommandLine.Removal.items_eq` — what arguments say without an option.
* `CommandLine.Grammar.removable` — **an option that is given can be taken out.**
* `CommandLine.Spelling.options_unknown` — an option that is not known is wrong.
-/

namespace Marginalia
namespace CommandLine

/-! ### Arguments without an option -/

/-- Taking the option `k` with the value `value` out of the arguments `spelled` leaves the
arguments `kept`. -/
inductive Removal (k : Key) (value : Text) : List Text → List Text → Prop where
  /-- The option has its arguments for itself. -/
  | alone {spelled : List Text} (h : Spelling k value spelled) : Removal k value spelled []
  /-- In front of its letter there are letters that ask for more to be reported. -/
  | bundled {c : Char} {letters : Text} {rest : List Text} (n : Nat) (hc : c ≠ '-')
    (h : Spelling k value (('-' :: c :: letters) :: rest)) :
    Removal k value (('-' :: (List.replicate (n + 1) 'v' ++ c :: letters)) :: rest)
      ['-' :: List.replicate (n + 1) 'v']

/-- Letters that ask for more to be reported, in front of others. -/
theorem Grammar.shortOptions_replicate {g : Grammar} (hv : .verbose ∈ g.flags) (letters : Text) :
    ∀ n, g.shortOptions (List.replicate n 'v' ++ letters) =
      ⟨List.replicate n (.flag .verbose) ++ (g.shortOptions letters).items,
        (g.shortOptions letters).awaits⟩ := by
  intro n
  induction n with
  | zero => rfl
  | succ n ih =>
    rw [List.replicate_succ, List.cons_append, shortOptions, Flag.find?_verbose hv]
    dsimp only
    rw [ih]
    rfl

/-- An argument with such letters says what it says without them, after them. -/
theorem Grammar.options_replicate {g : Grammar} (hv : .verbose ∈ g.flags) {c : Char}
    (hc : c ≠ '-') (letters : Text) (n : Nat) :
    g.options ('-' :: (List.replicate (n + 1) 'v' ++ c :: letters)) =
      ⟨List.replicate (n + 1) (.flag .verbose) ++ (g.options ('-' :: c :: letters)).items,
        (g.options ('-' :: c :: letters)).awaits⟩ := by
  have hv' : 'v' ≠ '-' := by decide
  rw [List.replicate_succ, List.cons_append, options_short g hv', options_short g hc,
    ← List.cons_append, ← List.replicate_succ, shortOptions_replicate hv]

/-- An argument with such letters does not separate options from operands. -/
theorem replicate_ne_separator (n : Nat) (letters : Text) :
    '-' :: (List.replicate (n + 1) 'v' ++ letters) ≠ separator := by
  intro h
  have hv : 'v' = '-' := (List.cons.inj (List.cons.inj h).2).1
  exact absurd hv (by decide)

namespace Removal

variable {g : Grammar} {k : Key} {value : Text} {spelled kept : List Text}

theorem exists_cons (h : Removal k value spelled kept) :
    ∃ first rest, spelled = first :: rest ∧ isOperand first = false ∧ first ≠ separator := by
  cases h with
  | alone h => exact h.exists_cons
  | bundled n hc h => exact ⟨_, _, rfl, isOperand_dash _ _, replicate_ne_separator n _⟩

/-- What arguments say without an option that has been taken out. -/
theorem items_eq (h : Removal k value spelled kept) (hk : k ∈ g.keys) (hv : .verbose ∈ g.flags) :
    ∃ is, (∀ args, g.items (spelled ++ args) = is ++ .setting k value :: g.items args) ∧
      ∀ args, g.items (kept ++ args) = is ++ g.items args := by
  cases h with
  | alone h => exact ⟨[], Grammar.items_spelling h hk, fun _ => rfl⟩
  | @bundled c letters rest n hc h =>
    have hne := replicate_ne_separator n (c :: letters)
    have hspelled := Grammar.options_replicate hv hc letters n
    have hkept : g.options ('-' :: List.replicate (n + 1) 'v') =
        ⟨List.replicate (n + 1) (.flag .verbose), none⟩ := by
      have hv' : 'v' ≠ '-' := by decide
      have hletters := Grammar.shortOptions_replicate hv [] (n + 1)
      rw [List.append_nil] at hletters
      rw [List.replicate_succ, Grammar.options_short g hv', ← List.replicate_succ, hletters,
        Grammar.shortOptions, List.append_nil]
    refine ⟨List.replicate (n + 1) (.flag .verbose), ?_, ?_⟩
    · intro args
      rcases h.options_eq hk with ⟨first, hfirst, hoptions⟩ | ⟨first, hfirst, hvalue, hoptions⟩
      · obtain ⟨rfl, rfl⟩ := List.cons.inj hfirst
        rw [hoptions] at hspelled
        rw [List.cons_append, List.nil_append, Grammar.items_complete hne (isOperand_dash _ _)
          hspelled, List.append_assoc]
        rfl
      · obtain ⟨rfl, rfl⟩ := List.cons.inj hfirst
        rw [hoptions, List.append_nil] at hspelled
        rw [List.cons_append, List.cons_append, List.nil_append,
          Grammar.items_awaiting hne (isOperand_dash _ _) hspelled, if_pos hvalue]
    · intro args
      have hne := replicate_ne_separator n []
      rw [List.append_nil] at hne
      exact Grammar.items_complete hne (isOperand_dash _ _) hkept

end Removal

/-! ### Finding an option -/

/-- An option that is spelled with its letter can be taken out of letters. -/
theorem Spelling.exists_removal {k : Key} {value : Text} {c : Char} {letters : Text}
    {rest : List Text} (h : Spelling k value (('-' :: c :: letters) :: rest)) (n : Nat)
    (hc : c ≠ '-') :
    ∃ kept, Removal k value (('-' :: (List.replicate n 'v' ++ c :: letters)) :: rest) kept := by
  cases n with
  | zero => exact ⟨[], .alone h⟩
  | succ n => exact ⟨_, .bundled n hc h⟩

/-- Whether an item gives a value to an option. -/
def Item.isSetting : Item → Bool
  | .setting _ _ => true
  | _ => false

namespace Grammar

variable {g : Grammar}

/-- Letters without a fault ask for more to be reported, up to that of an option with a
value. -/
theorem shortOptions_eq : ∀ letters : Text,
    (∀ i ∈ (g.shortOptions letters).items, i.isFault = false) →
      ∃ n tail, letters = List.replicate n 'v' ++ tail ∧
        g.shortOptions letters = ⟨List.replicate n (.flag .verbose) ++
          (g.shortOptions tail).items, (g.shortOptions tail).awaits⟩ ∧
        ∀ c rest, tail = c :: rest → ∃ k ∈ g.keys, k.letter? = some c := by
  intro letters
  induction letters with
  | nil => exact fun _ => ⟨0, [], rfl, rfl, fun c rest h => by cases h⟩
  | cons c letters ih =>
    intro h
    cases hflag : g.flags.find? fun f => f.letter? == some c with
    | some f =>
      have hfound := List.find?_some hflag
      have hletter : f.letter? = some c := beq_iff_eq.mp hfound
      have hcons : g.shortOptions (c :: letters) =
          ⟨.flag f :: (g.shortOptions letters).items, (g.shortOptions letters).awaits⟩ := by
        rw [shortOptions, hflag]
      rw [hcons] at h ⊢
      obtain ⟨hf, hrest⟩ := List.forall_mem_cons.mp h
      obtain ⟨n, tail, rfl, hshort, htail⟩ := ih hrest
      -- of the flags with a letter only this one is no fault
      obtain ⟨rfl, rfl⟩ : f = .verbose ∧ c = 'v' := by
        cases f with
        | verbose => exact ⟨rfl, (Option.some.inj hletter).symm⟩
        | help => cases hf
        | version => cases hf
        | plain => cases hletter
        | noHighlight => cases hletter
        | standalone => cases hletter
      refine ⟨n + 1, tail, rfl, ?_, htail⟩
      rw [hshort]
      rfl
    | none =>
      refine ⟨0, c :: letters, rfl, rfl, ?_⟩
      rintro c' rest' heq
      obtain ⟨rfl, rfl⟩ := List.cons.inj heq
      cases hkey : g.keys.find? fun k => k.letter? == some c with
      | some k =>
        have hfound := List.find?_some hkey
        exact ⟨k, List.mem_of_find?_eq_some hkey, beq_iff_eq.mp hfound⟩
      | none =>
        rw [shortOptions, hflag, hkey] at h
        exact absurd (h .wrong (List.mem_singleton_self _)) (by decide)

/-- What an argument with options comes to: flags, then perhaps an option with its value, or
one whose value is the next argument. -/
inductive Shape (g : Grammar) (arg : Text) : Prop where
  /-- There are flags only. -/
  | flags (h : (g.options arg).awaits = none)
    (hitems : ∀ i ∈ (g.options arg).items, i.isSetting = false) : Shape g arg
  /-- The last option has its value. -/
  | complete {k : Key} {value : Text} {kept : List Text} {said : List Item}
    (h : g.options arg = ⟨said ++ [.setting k value], none⟩)
    (hsaid : ∀ i ∈ said, i.isSetting = false) (hremoval : Removal k value [arg] kept) :
    Shape g arg
  /-- The value of the last option follows. -/
  | awaiting {k : Key} {said : List Item} (h : g.options arg = ⟨said, some k⟩)
    (hsaid : ∀ i ∈ said, i.isSetting = false)
    (hremoval : ∀ value, isOperand value = true → ∃ kept, Removal k value [arg, value] kept) :
    Shape g arg

theorem isSetting_replicate (n : Nat) :
    ∀ i ∈ List.replicate n (Item.flag .verbose), i.isSetting = false := by
  intro i hi
  rw [List.eq_of_mem_replicate hi]
  rfl

/-- What two dashes and a name come to. -/
theorem shape_long (body : Text) : g.Shape ('-' :: '-' :: body) := by
  have hoptions : g.options ('-' :: '-' :: body) = g.longOption body := rfl
  cases hflag : g.flags.find? fun f => f.name == body.takeWhile (· != '=') with
  | some f =>
    have hlong : g.longOption body =
        if (body.drop (body.takeWhile (· != '=')).length).isEmpty then ⟨[.flag f], none⟩
        else ⟨[.wrong], none⟩ := by
      rw [longOption, hflag]
    refine .flags ?_ ?_
    · rw [hoptions, hlong]
      split <;> rfl
    · rw [hoptions, hlong]
      split
      · exact List.forall_mem_singleton.mpr rfl
      · exact List.forall_mem_singleton.mpr rfl
  | none =>
    cases hkey : g.keys.find? fun k => k.name == body.takeWhile (· != '=') with
    | none =>
      have hlong : g.longOption body = ⟨[.wrong], none⟩ := by rw [longOption, hflag, hkey]
      refine .flags ?_ ?_
      · rw [hoptions, hlong]
      · rw [hoptions, hlong]
        exact List.forall_mem_singleton.mpr rfl
    | some k =>
      have hk : k ∈ g.keys := List.mem_of_find?_eq_some hkey
      have hfound := List.find?_some hkey
      have hname : k.name = body.takeWhile (· != '=') := beq_iff_eq.mp hfound
      have hbody : body = k.name ++ body.dropWhile (· != '=') := by
        rw [hname, List.takeWhile_append_dropWhile]
      cases hvalue : body.dropWhile (· != '=') with
      | nil =>
        rw [hvalue, List.append_nil] at hbody
        subst hbody
        refine .awaiting (longOption_name hk) (List.forall_mem_nil _) ?_
        exact fun value h => ⟨_, .alone (.long h)⟩
      | cons e value =>
        -- the value is what follows the sign that ends the name
        obtain rfl : e = '=' := by
          have hhead := List.head?_dropWhile_not (· != '=') body
          rw [hvalue] at hhead
          simpa using hhead
        rw [hvalue] at hbody
        subst hbody
        have hassigned : g.options ('-' :: '-' :: (k.name ++ '=' :: value)) =
            ⟨[] ++ [.setting k value], none⟩ := longOption_assigned hk value
        exact .complete hassigned (List.forall_mem_nil _) (.alone .longAssigned)

/-- What one dash and letters come to. -/
theorem shape_short {letters : Text} (hdash : ∀ rest, letters ≠ '-' :: rest)
    (h : ∀ i ∈ (g.options ('-' :: letters)).items, i.isFault = false) :
    g.Shape ('-' :: letters) := by
  have hoptions : g.options ('-' :: letters) = g.shortOptions letters := by
    rw [options]
    intro rest heq
    exact hdash rest heq
  rw [hoptions] at h
  obtain ⟨n, tail, rfl, hshort, htail⟩ := shortOptions_eq letters h
  rw [← hoptions] at hshort
  cases tail with
  | nil =>
    refine .flags ?_ ?_
    · rw [hshort]
      rfl
    · rw [hshort, shortOptions, List.append_nil]
      exact isSetting_replicate n
  | cons c rest =>
    obtain ⟨k, hk, hc⟩ := htail c rest rfl
    have hne := Key.letter_ne_dash hc
    cases rest with
    | nil =>
      rw [shortOptions_letter hk hc, List.append_nil] at hshort
      refine .awaiting hshort (isSetting_replicate n) ?_
      exact fun value hvalue => (Spelling.short hc hvalue).exists_removal n hne
    | cons d rest =>
      by_cases hd : d = '='
      · subst hd
        rw [shortOptions_assigned hk hc] at hshort
        have hspelled : Spelling k rest ['-' :: c :: '=' :: rest] := .shortAssigned hc
        obtain ⟨kept, hremoval⟩ := hspelled.exists_removal n hne
        exact .complete hshort (isSetting_replicate n) hremoval
      · rw [shortOptions_attached hk hc hd] at hshort
        have hspelled : Spelling k (d :: rest) ['-' :: c :: d :: rest] :=
          .shortAttached hc hd rfl
        obtain ⟨kept, hremoval⟩ := hspelled.exists_removal n hne
        exact .complete hshort (isSetting_replicate n) hremoval

/-- What an argument without a fault comes to. -/
theorem shape {arg : Text} (hoperand : isOperand arg = false)
    (h : ∀ i ∈ (g.options arg).items, i.isFault = false) : g.Shape arg := by
  match arg with
  | [] => cases hoperand
  | c :: letters =>
    by_cases hc : c = '-'
    · subst hc
      by_cases hdash : ∃ rest, letters = '-' :: rest
      · obtain ⟨body, rfl⟩ := hdash
        exact shape_long body
      · exact shape_short (fun rest heq => hdash ⟨rest, heq⟩) h
    · exfalso
      rw [isOperand] at hoperand
      · exact Bool.false_ne_true hoperand.symm
      · intro d rest heq
        exact hc (List.cons.inj heq).1

/-- What an argument says is among what all of them say. -/
theorem mem_items_of_mem_options {arg : Text} (hne : arg ≠ separator)
    (hoperand : isOperand arg = false) {i : Item} (hi : i ∈ (g.options arg).items)
    (args : List Text) : i ∈ g.items (arg :: args) := by
  cases hoptions : g.options arg with
  | mk said awaits =>
    rw [hoptions] at hi
    cases awaits with
    | none =>
      rw [items_complete hne hoperand hoptions]
      exact List.mem_append_left _ hi
    | some k =>
      cases args with
      | nil =>
        rw [items_awaiting_nil hne hoperand hoptions]
        exact List.mem_append_left _ hi
      | cons value args =>
        rw [items_awaiting hne hoperand hoptions]
        exact List.mem_append_left _ hi

end Grammar

/-- The option `k` with the value `value` can be found in the arguments `args`, and taken out
of them. -/
def Removable (k : Key) (value : Text) (args : List Text) : Prop :=
  ∃ before spelled kept after, args = before ++ (spelled ++ after) ∧ separator ∉ before ∧
    Removal k value spelled kept

namespace Removable

variable {k : Key} {value : Text} {spelled kept args : List Text}

/-- What stands at the front can be taken out. -/
theorem front (h : Removal k value spelled kept) (after : List Text) :
    Removable k value (spelled ++ after) :=
  ⟨[], spelled, kept, after, rfl, List.not_mem_nil, h⟩

/-- What can be taken out of arguments can be taken out behind others. -/
theorem behind (h : Removable k value args) {passed : List Text} (hpassed : separator ∉ passed) :
    Removable k value (passed ++ args) := by
  obtain ⟨before, spelled, kept, after, rfl, hbefore, hremoval⟩ := h
  refine ⟨passed ++ before, spelled, kept, after, (List.append_assoc ..).symm, ?_, hremoval⟩
  rw [List.mem_append]
  exact not_or.mpr ⟨hpassed, hbefore⟩

end Removable

namespace Grammar

variable {g : Grammar}

/-- In front of `rest` the arguments `passed` say `said`, and an option with a value among them
can be taken out. -/
structure Step (g : Grammar) (passed : List Text) (said : List Item) (rest : List Text) :
    Prop where
  items_eq : g.items (passed ++ rest) = said ++ g.items rest
  notMem : separator ∉ passed
  removal : ∀ k value, .setting k value ∈ said → ∃ kept, Removal k value passed kept

/-- Arguments without a fault begin with one or two that say something by themselves. -/
theorem exists_step {arg : Text} {args : List Text} (hne : arg ≠ separator)
    (h : ∀ i ∈ g.items (arg :: args), i.isFault = false) :
    ∃ passed said rest, arg :: args = passed ++ rest ∧ rest.length ≤ args.length ∧
      g.Step passed said rest := by
  have hsep : separator ∉ [arg] := fun h => hne (List.mem_singleton.mp h).symm
  cases hoperand : isOperand arg with
  | true =>
    refine ⟨[arg], [.operand arg], args, rfl, le_rfl, items_operand hoperand, hsep, ?_⟩
    intro k value hmem
    cases List.mem_singleton.mp hmem
  | false =>
    have hfine : ∀ i ∈ (g.options arg).items, i.isFault = false := fun i hi =>
      h i (mem_items_of_mem_options hne hoperand hi args)
    cases shape hoperand hfine with
    | flags hawaits hitems =>
      have hoptions : g.options arg = ⟨(g.options arg).items, none⟩ := by rw [← hawaits]
      refine ⟨[arg], _, args, rfl, le_rfl, items_complete hne hoperand hoptions, hsep, ?_⟩
      intro k value hmem
      cases hitems _ hmem
    | complete hoptions hsaid hremoval =>
      refine ⟨[arg], _, args, rfl, le_rfl, items_complete hne hoperand hoptions, hsep, ?_⟩
      intro k value hmem
      rcases List.mem_append.mp hmem with hbefore | hlast
      · cases hsaid _ hbefore
      · obtain ⟨rfl, rfl⟩ := Item.setting.inj (List.mem_singleton.mp hlast)
        exact ⟨_, hremoval⟩
    | @awaiting k' said hoptions hsaid hremoval =>
      -- the value is the next argument, and to have none there is a fault
      cases args with
      | nil =>
        rw [items_awaiting_nil hne hoperand hoptions] at h
        cases h .wrong (List.mem_append_right _ (List.mem_singleton_self _))
      | cons value' args =>
        have hitems : g.items (arg :: value' :: args) =
            said ++ if isOperand value' then .setting k' value' :: g.items args else [.wrong] :=
          items_awaiting hne hoperand hoptions
        cases hvalue : isOperand value' with
        | false =>
          rw [hitems, hvalue, if_neg Bool.false_ne_true] at h
          cases h .wrong (List.mem_append_right _ (List.mem_singleton_self _))
        | true =>
          rw [if_pos hvalue] at hitems
          refine ⟨[arg, value'], said ++ [.setting k' value'], args, rfl, Nat.le_succ _, ?_, ?_, ?_⟩
          · rw [List.append_assoc]
            exact hitems
          · rw [List.mem_cons, List.mem_singleton]
            exact not_or.mpr ⟨Ne.symm hne, (ne_separator_of_isOperand hvalue).symm⟩
          · intro k value hmem
            rcases List.mem_append.mp hmem with hbefore | hlast
            · cases hsaid _ hbefore
            · obtain ⟨rfl, rfl⟩ := Item.setting.inj (List.mem_singleton.mp hlast)
              exact hremoval value hvalue

/-- **An option that is given can be taken out**, if nothing in the arguments is a fault. -/
theorem removable (g : Grammar) (k : Key) (value : Text) : ∀ args : List Text,
    (∀ i ∈ g.items args, i.isFault = false) → .setting k value ∈ g.items args →
      Removable k value args
  | [], _, hmem => absurd hmem List.not_mem_nil
  | arg :: args, hfault, hmem => by
    by_cases hne : arg = separator
    · subst hne
      rw [items_separator] at hmem
      obtain ⟨t, -, ht⟩ := List.mem_map.mp hmem
      cases ht
    obtain ⟨passed, said, rest, hargs, hlength, hstep⟩ := exists_step hne hfault
    rw [hargs, hstep.items_eq] at hfault hmem
    rw [hargs]
    rcases List.mem_append.mp hmem with hhere | hrest
    · obtain ⟨kept, hremoval⟩ := hstep.removal k value hhere
      exact .front hremoval rest
    · exact (removable g k value rest (List.forall_mem_append.mp hfault).2 hrest).behind
        hstep.notMem
  termination_by args => args.length
  decreasing_by exact Nat.lt_succ_of_le hlength

end Grammar

/-- Where an option is not known, it is wrong, however it is spelled. -/
theorem Spelling.options_unknown {g : Grammar} {k : Key} (hk : k ∉ g.keys) {value first : Text}
    {rest : List Text} (h : Spelling k value (first :: rest)) :
    g.options first = ⟨[.wrong], none⟩ := by
  cases h with
  | long =>
    exact Grammar.longOption_unknown hk (List.takeWhile_eq_self_iff.mpr k.ne_of_mem_name)
  | longAssigned => exact Grammar.longOption_unknown hk (Grammar.takeWhile_name_assigned k value)
  | short hc =>
    rw [Grammar.options_short g (Key.letter_ne_dash hc), Grammar.shortOptions_unknown hk hc]
  | shortAssigned hc =>
    rw [Grammar.options_short g (Key.letter_ne_dash hc), Grammar.shortOptions_unknown hk hc]
  | shortAttached hc =>
    rw [Grammar.options_short g (Key.letter_ne_dash hc), Grammar.shortOptions_unknown hk hc]

end CommandLine
end Marginalia
