import Marginalia.Proofs.Names
import Mathlib.Data.List.TakeWhile

/-!
# What arguments say

An option with a value can be spelled in five ways, and all of them say the same.  What
arguments say does not depend on what follows them, unless the last one still awaits its
value.  From what they say the request is made, which fails if anything is wrong in it.

## Main definitions

* `CommandLine.Spelling` — the ways to spell an option with a value.
* `CommandLine.Grammar.Precedes` — arguments that say the same whatever follows them.
* `CommandLine.Item.isFault` — what no request is made from.

## Main results

* `CommandLine.Grammar.items_spelling` — each of the ways says that the option has the value.
* `CommandLine.Grammar.precedes` — what arguments say when others follow.
* `CommandLine.Request.foldlM_of_take` — what each item does without something in a request,
  all of them do.
* `CommandLine.Request.foldlM_output` — the output decides nothing but itself.
* `CommandLine.Subcommand.read?_eq_some_iff` — **when arguments ask for a command.**
-/

namespace Marginalia
namespace CommandLine

/-! ### Single arguments -/

theorem isOperand_separator : isOperand separator = false := rfl

theorem ne_separator_of_isOperand {arg : Text} (h : isOperand arg = true) : arg ≠ separator := by
  rintro rfl
  rw [isOperand_separator] at h
  exact Bool.false_ne_true h

theorem isOperand_dash (c : Char) (t : Text) : isOperand ('-' :: c :: t) = false := rfl

namespace Grammar

variable {g : Grammar} {k : Key} {arg value : Text} {args : List Text}

theorem items_separator (g : Grammar) (args : List Text) :
    g.items (separator :: args) = args.map .operand := by
  rw [items]
  exact if_pos rfl

theorem items_operand (h : isOperand arg = true) :
    g.items (arg :: args) = .operand arg :: g.items args := by
  rw [items]
  rw [if_neg (ne_separator_of_isOperand h), if_pos h]

/-- An argument with options that are complete. -/
theorem items_complete {is : List Item} (hne : arg ≠ separator) (h : isOperand arg = false)
    (ho : g.options arg = ⟨is, none⟩) : g.items (arg :: args) = is ++ g.items args := by
  rw [items]
  rw [if_neg hne, h, if_neg Bool.false_ne_true, ho]

/-- An argument whose last option lacks its value. -/
theorem items_awaiting_nil {is : List Item} (hne : arg ≠ separator) (h : isOperand arg = false)
    (ho : g.options arg = ⟨is, some k⟩) : g.items [arg] = is ++ [.wrong] := by
  rw [items]
  rw [if_neg hne, h, if_neg Bool.false_ne_true, ho]

/-- An argument whose last option has its value in the next one. -/
theorem items_awaiting {is : List Item} (hne : arg ≠ separator) (h : isOperand arg = false)
    (ho : g.options arg = ⟨is, some k⟩) :
    g.items (arg :: value :: args) =
      is ++ if isOperand value then .setting k value :: g.items args else [.wrong] := by
  rw [items]
  rw [if_neg hne, h, if_neg Bool.false_ne_true, ho]
  change (if isOperand value = true then _ else _) = _
  split <;> rfl

/-! ### Options with a value -/

section Known

variable {c d : Char}

theorem longOption_name (hk : k ∈ g.keys) : g.longOption k.name = ⟨[], some k⟩ := by
  have htake : k.name.takeWhile (· != '=') = k.name :=
    List.takeWhile_eq_self_iff.mpr k.ne_of_mem_name
  rw [longOption, htake, k.find?_flag_name, k.find?_name, if_pos hk, List.drop_length]

theorem takeWhile_name_assigned (k : Key) (value : Text) :
    (k.name ++ '=' :: value).takeWhile (· != '=') = k.name := by
  rw [List.takeWhile_append_of_pos k.ne_of_mem_name, List.takeWhile_cons_of_neg (by decide),
    List.append_nil]

theorem longOption_assigned (hk : k ∈ g.keys) (value : Text) :
    g.longOption (k.name ++ '=' :: value) = ⟨[.setting k value], none⟩ := by
  rw [longOption, takeWhile_name_assigned, k.find?_flag_name, k.find?_name, if_pos hk,
    List.drop_left]

theorem shortOptions_letter (hk : k ∈ g.keys) (hc : k.letter? = some c) :
    g.shortOptions [c] = ⟨[], some k⟩ := by
  rw [shortOptions, Key.find?_flag_letter hc, Key.find?_letter hc, if_pos hk]

theorem shortOptions_assigned (hk : k ∈ g.keys) (hc : k.letter? = some c) (value : Text) :
    g.shortOptions (c :: '=' :: value) = ⟨[.setting k value], none⟩ := by
  rw [shortOptions, Key.find?_flag_letter hc, Key.find?_letter hc, if_pos hk]
  rfl

theorem shortOptions_attached (hk : k ∈ g.keys) (hc : k.letter? = some c) (hd : d ≠ '=')
    (value : Text) : g.shortOptions (c :: d :: value) = ⟨[.setting k (d :: value)], none⟩ := by
  rw [shortOptions, Key.find?_flag_letter hc, Key.find?_letter hc, if_pos hk]
  dsimp only
  split
  · next h => cases h
  · next h => exact absurd (List.cons.inj h).1 hd
  · rfl

end Known

/-- The name of an option that is not known is wrong, whatever follows. -/
theorem longOption_unknown (hk : k ∉ g.keys) {body : Text}
    (hbody : body.takeWhile (· != '=') = k.name) : g.longOption body = ⟨[.wrong], none⟩ := by
  rw [longOption, hbody, k.find?_flag_name, k.find?_name, if_neg hk]

/-- The letter of an option that is not known is wrong, whatever follows. -/
theorem shortOptions_unknown (hk : k ∉ g.keys) {c : Char} (hc : k.letter? = some c)
    (rest : Text) : g.shortOptions (c :: rest) = ⟨[.wrong], none⟩ := by
  rw [shortOptions, Key.find?_flag_letter hc, Key.find?_letter hc, if_neg hk]

end Grammar

/-- The ways to spell that the option `k` has the value `value`. -/
inductive Spelling (k : Key) (value : Text) : List Text → Prop where
  /-- Two dashes and the name, and the value as the next argument. -/
  | long (h : isOperand value = true) : Spelling k value ['-' :: '-' :: k.name, value]
  /-- Two dashes and the name, and the value after a `=`. -/
  | longAssigned : Spelling k value ['-' :: '-' :: (k.name ++ '=' :: value)]
  /-- One dash and the letter, and the value as the next argument. -/
  | short {c : Char} (hc : k.letter? = some c) (h : isOperand value = true) :
    Spelling k value [['-', c], value]
  /-- One dash and the letter, and the value after a `=`. -/
  | shortAssigned {c : Char} (hc : k.letter? = some c) :
    Spelling k value ['-' :: c :: '=' :: value]
  /-- One dash and the letter, and the value directly after it. -/
  | shortAttached {c d : Char} {rest : Text} (hc : k.letter? = some c) (hd : d ≠ '=')
    (h : value = d :: rest) : Spelling k value ['-' :: c :: value]

/-- An argument of one dash, letters and values is not taken for one of two dashes. -/
theorem Grammar.options_short (g : Grammar) {c : Char} (hc : c ≠ '-') (rest : Text) :
    g.options ('-' :: c :: rest) = g.shortOptions (c :: rest) := by
  rw [options]
  intro body h
  exact hc (List.cons.inj h).1

namespace Spelling

variable {k : Key} {value : Text} {args : List Text}

/-- An option begins with an argument that does not stand for itself. -/
theorem exists_cons (h : Spelling k value args) :
    ∃ first rest, args = first :: rest ∧ isOperand first = false ∧ first ≠ separator := by
  obtain ⟨c, name, hname⟩ := List.exists_cons_of_ne_nil k.name_ne_nil
  cases h with
  | long h => exact ⟨_, _, rfl, isOperand_dash _ _, by rw [hname]; simp [separator]⟩
  | longAssigned => exact ⟨_, _, rfl, isOperand_dash _ _, by rw [hname]; simp [separator]⟩
  | short hc h =>
    exact ⟨_, _, rfl, isOperand_dash _ _, by simp [separator, Key.letter_ne_dash hc]⟩
  | shortAssigned hc =>
    exact ⟨_, _, rfl, isOperand_dash _ _, by simp [separator]⟩
  | shortAttached hc hd h =>
    exact ⟨_, _, rfl, isOperand_dash _ _, by rw [h]; simp [separator]⟩

end Spelling

/-- However an option is spelled, its value is in the same argument or in the next one. -/
theorem Spelling.options_eq {g : Grammar} {k : Key} {value : Text} {spelled : List Text}
    (h : Spelling k value spelled) (hk : k ∈ g.keys) :
    (∃ first, spelled = [first] ∧ g.options first = ⟨[.setting k value], none⟩) ∨
      ∃ first, spelled = [first, value] ∧ isOperand value = true ∧
        g.options first = ⟨[], some k⟩ := by
  cases h with
  | long hvalue => exact .inr ⟨_, rfl, hvalue, Grammar.longOption_name hk⟩
  | longAssigned => exact .inl ⟨_, rfl, Grammar.longOption_assigned hk value⟩
  | short hc hvalue =>
    refine .inr ⟨_, rfl, hvalue, ?_⟩
    rw [Grammar.options_short g (Key.letter_ne_dash hc), Grammar.shortOptions_letter hk hc]
  | shortAssigned hc =>
    refine .inl ⟨_, rfl, ?_⟩
    rw [Grammar.options_short g (Key.letter_ne_dash hc), Grammar.shortOptions_assigned hk hc]
  | shortAttached hc hd hvalue =>
    refine .inl ⟨_, rfl, ?_⟩
    rw [Grammar.options_short g (Key.letter_ne_dash hc), hvalue,
      Grammar.shortOptions_attached hk hc hd]

/-- However an option is spelled, it says that it has its value. -/
theorem Grammar.items_spelling {g : Grammar} {k : Key} {value : Text} {spelled : List Text}
    (h : Spelling k value spelled) (hk : k ∈ g.keys) (args : List Text) :
    g.items (spelled ++ args) = .setting k value :: g.items args := by
  obtain ⟨first, rest, hspelled, hoperand, hne⟩ := h.exists_cons
  rcases h.options_eq hk with ⟨arg, rfl, hoptions⟩ | ⟨arg, rfl, hvalue, hoptions⟩
  · obtain rfl := (List.cons.inj hspelled).1
    rw [List.cons_append, List.nil_append, items_complete hne hoperand hoptions]
    rfl
  · obtain rfl := (List.cons.inj hspelled).1
    rw [List.cons_append, List.cons_append, List.nil_append,
      items_awaiting hne hoperand hoptions, if_pos hvalue]
    rfl

/-! ### Arguments before others -/

/-- What the arguments `before` say does not depend on what follows, unless one of them lacks
a value that could follow; then nothing after an option counts. -/
def Grammar.Precedes (g : Grammar) (before : List Text) : Prop :=
  (∃ is, ∀ rest, g.items (before ++ rest) = is ++ g.items rest) ∨
    ∃ is, ∀ first rest, isOperand first = false →
      g.items (before ++ first :: rest) = is ++ [.wrong]

namespace Grammar

variable {g : Grammar} {before : List Text}

/-- Arguments that say something by themselves can be put before others. -/
theorem Precedes.add (h : g.Precedes before) (front : List Text) (said : List Item)
    (hfront : ∀ rest, g.items (front ++ rest) = said ++ g.items rest) :
    g.Precedes (front ++ before) := by
  rcases h with ⟨is, his⟩ | ⟨is, his⟩
  · refine .inl ⟨said ++ is, ?_⟩
    intro rest
    rw [List.append_assoc, hfront, his, List.append_assoc]
  · refine .inr ⟨said ++ is, ?_⟩
    intro first rest hfirst
    rw [List.append_assoc, hfront, his first rest hfirst, List.append_assoc]

/-- An option that awaits its value takes the next argument, wherever that comes from. -/
theorem precedes_awaiting {arg : Text} {said : List Item} {k : Key} (hne : arg ≠ separator)
    (hoperand : isOperand arg = false) (hoptions : g.options arg = ⟨said, some k⟩)
    (h : ∀ value rest, before = value :: rest → g.Precedes rest) :
    g.Precedes (arg :: before) := by
  cases before with
  | nil =>
    refine .inr ⟨said, ?_⟩
    intro first rest hfirst
    rw [List.cons_append, List.nil_append, items_awaiting hne hoperand hoptions, hfirst,
      if_neg Bool.false_ne_true]
  | cons value before =>
    cases hvalue : isOperand value with
    | true =>
      refine (h value before rfl).add [arg, value] (said ++ [.setting k value]) ?_
      intro rest
      rw [List.cons_append, List.cons_append, List.nil_append,
        items_awaiting hne hoperand hoptions, if_pos hvalue, List.append_assoc]
      rfl
    | false =>
      refine .inr ⟨said, ?_⟩
      intro first rest _
      rw [List.cons_append, List.cons_append, items_awaiting hne hoperand hoptions,
        hvalue, if_neg Bool.false_ne_true]

/-- **What arguments say does not depend on what follows**, unless one of them lacks a
value. -/
theorem precedes (g : Grammar) : ∀ before : List Text, separator ∉ before → g.Precedes before
  | [], _ => .inl ⟨[], fun _ => rfl⟩
  | arg :: before, hsep => by
    have hne : arg ≠ separator := fun h => hsep (by simp [h])
    have hbefore : separator ∉ before := fun h => hsep (by simp [h])
    cases hoperand : isOperand arg with
    | true =>
      refine (precedes g before hbefore).add [arg] [.operand arg] ?_
      intro rest
      exact items_operand hoperand
    | false =>
      cases hoptions : g.options arg with
      | mk said awaits =>
        cases awaits with
        | none =>
          refine (precedes g before hbefore).add [arg] said ?_
          intro rest
          exact items_complete hne hoperand hoptions
        | some k =>
          refine precedes_awaiting hne hoperand hoptions ?_
          rintro value rest rfl
          exact precedes g rest fun h => hbefore (by simp [h])

end Grammar

/-! ### Requests -/

/-- Whether no request is made from an item: a misuse, or a flag that asks for something
else. -/
def Item.isFault : Item → Bool
  | .wrong => true
  | .flag .help => true
  | .flag .version => true
  | _ => false

namespace Request

variable {most : Option Nat} {r r' : Request} {is : List Item}

/-- An item that does not name the output neither looks at it nor changes it. -/
theorem take_output {i : Item} (hi : ∀ t, i ≠ .setting .output t) (output : Option Path) :
    take most { r with output := output } i =
      (take most r i).map fun r' => { r' with output := output } := by
  cases i with
  | wrong => rfl
  | operand t =>
    rw [take, take]
    cases path? t with
    | none => rfl
    | some p =>
      change addFile most _ p = (addFile most r p).map _
      rw [addFile, addFile]
      split <;> rfl
  | flag f =>
    cases f with
    | verbose => rfl
    | help => rfl
    | version => rfl
    | plain => rw [take, take]; cases onceFlag r.overrides.plain <;> rfl
    | noHighlight => rw [take, take]; cases onceFlag r.overrides.noHighlight <;> rfl
    | standalone => rw [take, take]; cases onceFlag r.overrides.standalone <;> rfl
  | setting k t =>
    cases k with
    | output => exact absurd rfl (hi t)
    | marker => rw [take, take]; cases once r.overrides.marker t <;> rfl
    | theme => rw [take, take]; cases once r.overrides.theme t <;> rfl

/-- An item that does not name the output keeps it. -/
theorem output_of_take {i : Item} (hi : ∀ t, i ≠ .setting .output t)
    (h : take most r i = some r') : r'.output = r.output := by
  have hself : take most r i = (take most r i).map fun next => { next with output := r.output } :=
    take_output hi r.output
  rw [h, Option.map_some, Option.some.injEq] at hself
  rw [hself]

/-- The output can be named once. -/
theorem take_setting_output {t : Text} (h : take most r (.setting .output t) = some r') :
    r.output = none ∧ r' = { r with output := some ⟨t⟩ } := by
  rw [take, path?] at h
  split at h
  · cases h
  · cases houtput : r.output with
    | none =>
      rw [houtput] at h
      exact ⟨rfl, (Option.some.inj h).symm⟩
    | some p =>
      rw [houtput] at h
      cases h

/-- What holds of a request, and what is done without it, is so for many items if it is for
one. -/
theorem foldlM_of_take {P : Request → Prop} {clear : Request → Request}
    (htake : ∀ (i : Item) (r r' : Request), P r → take most r i = some r' →
      P r' ∧ take most (clear r) i = some (clear r')) :
    ∀ (is : List Item) (r : Request), P r → is.foldlM (take most) r = some r' →
      P r' ∧ is.foldlM (take most) (clear r) = some (clear r') := by
  intro is
  induction is with
  | nil =>
    intro r hr h
    obtain rfl := Option.some.inj h
    exact ⟨hr, rfl⟩
  | cons i is ih =>
    intro r hr h
    rw [List.foldlM_cons] at h
    obtain ⟨next, hnext, hrest⟩ := Option.bind_eq_some_iff.mp h
    obtain ⟨hkept, hclear⟩ := htake i r next hr hnext
    rw [List.foldlM_cons, hclear]
    exact ih next hkept hrest

/-- What comes to hold of a request was brought about by an item that can do so. -/
theorem mem_of_foldlM {P : Request → Prop} {i : Item}
    (htake : ∀ (j : Item) (r r' : Request), take most r j = some r' → P r' → P r ∨ j = i) :
    ∀ (is : List Item) (r : Request), is.foldlM (take most) r = some r' → P r' →
      P r ∨ i ∈ is := by
  intro is
  induction is with
  | nil =>
    intro r h hr
    obtain rfl := Option.some.inj h
    exact .inl hr
  | cons j is ih =>
    intro r h hr
    rw [List.foldlM_cons] at h
    obtain ⟨next, hnext, hrest⟩ := Option.bind_eq_some_iff.mp h
    rcases ih next hrest hr with hnow | hlater
    · rcases htake j r next hnext hnow with hbefore | rfl
      · exact .inl hbefore
      · exact .inr (List.mem_cons_self ..)
    · exact .inr (List.mem_cons_of_mem _ hlater)

/-- Once the output is named it stays, and the other items do the same without it. -/
theorem foldlM_output (is : List Item) (r : Request) {p : Path} (hp : r.output = some p)
    (h : is.foldlM (take most) r = some r') :
    r'.output = some p ∧
      is.foldlM (take most) { r with output := none } = some { r' with output := none } := by
  have htake : ∀ (i : Item) (r r' : Request), r.output = some p → take most r i = some r' →
      r'.output = some p ∧
        take most { r with output := none } i = some { r' with output := none } := by
    intro i r r' hp hr
    have hi : ∀ t, i ≠ .setting .output t := by
      rintro t rfl
      have hnone := (take_setting_output hr).1
      rw [hp] at hnone
      cases hnone
    refine ⟨(output_of_take hi hr).trans hp, ?_⟩
    rw [take_output hi none, hr]
    rfl
  exact foldlM_of_take htake is r hp h

/-- An output that a request has was named. -/
theorem mem_of_output (is : List Item) (r : Request) {p : Path} (hnone : r.output = none)
    (h : is.foldlM (take most) r = some r') (hp : r'.output = some p) :
    .setting .output p.text ∈ is := by
  have htake : ∀ (j : Item) (r r' : Request), take most r j = some r' → r'.output = some p →
      r.output = some p ∨ j = .setting .output p.text := by
    intro j r r' hr hp
    by_cases hj : ∃ t, j = .setting .output t
    · obtain ⟨t, rfl⟩ := hj
      obtain ⟨-, rfl⟩ := take_setting_output hr
      obtain rfl := Option.some.inj hp
      exact .inr rfl
    · exact .inl ((output_of_take (fun t ht => hj ⟨t, ht⟩) hr).symm.trans hp)
  rcases mem_of_foldlM htake is r h hp with hbefore | hmem
  · rw [hnone] at hbefore
    cases hbefore
  · exact hmem

/-- A request is made of no item that is a fault. -/
theorem isFault_of_mem : ∀ (is : List Item) (r : Request),
    is.foldlM (take most) r = some r' → ∀ i ∈ is, i.isFault = false := by
  intro is
  induction is with
  | nil => exact fun r _ i hi => absurd hi List.not_mem_nil
  | cons i is ih =>
    intro r h
    rw [List.foldlM_cons] at h
    obtain ⟨next, hnext, hrest⟩ := Option.bind_eq_some_iff.mp h
    refine List.forall_mem_cons.mpr ⟨?_, ih next hrest⟩
    cases i with
    | wrong => cases hnext
    | operand t => rfl
    | setting k t => rfl
    | flag f =>
      cases f with
      | help => cases hnext
      | version => cases hnext
      | verbose => rfl
      | plain => rfl
      | noHighlight => rfl
      | standalone => rfl

end Request

namespace Subcommand

variable {s : Subcommand} {args : List Text}

/-- Without a request for help the items decide the command. -/
theorem read?_of_notMem (h : .flag .help ∉ s.grammar.items args) :
    s.read? args = (s.request? (s.grammar.items args)).bind s.command? := by
  have hall : (s.grammar.items args).takeWhile (· != .flag .help) = s.grammar.items args := by
    rw [List.takeWhile_eq_self_iff]
    intro i hi
    exact bne_iff_ne.mpr fun heq => h (heq ▸ hi)
  rw [read?, hall]
  cases s.request? (s.grammar.items args) with
  | none => rfl
  | some r => exact if_neg (Nat.lt_irrefl _)

/-- A request for help makes no other command. -/
theorem read?_of_mem (h : .flag .help ∈ s.grammar.items args) :
    s.read? args = none ∨ s.read? args = some (.help s.topic) := by
  have hshort : ((s.grammar.items args).takeWhile (· != .flag .help)).length <
      (s.grammar.items args).length := by
    have hle := (List.takeWhile_prefix (l := s.grammar.items args)
      (· != Item.flag Flag.help)).length_le
    refine Nat.lt_of_le_of_ne hle ?_
    intro heq
    have hall := (List.takeWhile_prefix _).eq_of_length heq
    rw [List.takeWhile_eq_self_iff] at hall
    exact bne_iff_ne.mp (hall _ h) rfl
  rw [read?]
  cases s.request? ((s.grammar.items args).takeWhile (· != .flag .help)) with
  | none => exact .inl rfl
  | some r => exact .inr (if_pos hshort)

/-- Arguments ask for something else than help if nothing in them asks for help and they make
a request for it. -/
theorem read?_eq_some_iff {c : Command} (hc : ∀ topic, c ≠ .help topic) :
    s.read? args = some c ↔ .flag .help ∉ s.grammar.items args ∧
      ∃ r, s.request? (s.grammar.items args) = some r ∧ s.command? r = some c := by
  rw [← Option.bind_eq_some_iff]
  by_cases hhelp : .flag .help ∈ s.grammar.items args
  · refine iff_of_false ?_ fun h => h.1 hhelp
    rcases read?_of_mem hhelp with hnone | hsome
    · rw [hnone]
      exact fun h => by cases h
    · rw [hsome]
      exact fun h => hc s.topic (Option.some.inj h).symm
  · rw [read?_of_notMem hhelp]
    exact (and_iff_right hhelp).symm

/-- A request is for files to be rendered if it is one of that subcommand that names a file. -/
theorem command?_eq_render_iff {r : Request} {files : List Path} {output : Option Path}
    {o : Overrides} :
    s.command? r = some (.render files output o) ↔
      s = .render ∧ r = ⟨files, output, o⟩ ∧ files ≠ [] := by
  obtain ⟨files', output', o'⟩ := r
  constructor
  · intro h
    cases s with
    | render =>
      cases files' with
      | nil => cases h
      | cons f rest =>
        cases h
        exact ⟨rfl, rfl, List.cons_ne_nil _ _⟩
    | parse =>
      cases files' with
      | nil => cases h
      | cons f rest => cases rest <;> cases h
    | themes => cases h
  · rintro ⟨rfl, hr, hne⟩
    cases hr
    obtain ⟨f, rest, rfl⟩ := List.exists_cons_of_ne_nil hne
    rfl

/-- Arguments that ask for the sections of a file: options, and the file as an operand. -/
theorem read?_parse (options : List Text) (is : List Item) {o : Overrides} {p : Text}
    (hp : p ≠ []) (hoptions : ∀ rest, (grammar .parse).items (options ++ rest) =
      is ++ (grammar .parse).items rest)
    (hhelp : .flag .help ∉ is) (hr : parse.request? is = some ⟨[], none, o⟩) :
    parse.read? (options ++ [separator, p]) = some (.parse ⟨p⟩ o) := by
  have hitems : (grammar .parse).items (options ++ [separator, p]) = is ++ [.operand p] := by
    rw [hoptions, Grammar.items_separator, List.map_singleton]
  have hempty : p.isEmpty = false := by
    rw [Bool.eq_false_iff, Ne, List.isEmpty_iff]
    exact hp
  rw [read?_of_notMem, hitems]
  · rw [request?, List.foldlM_append]
    rw [request?] at hr
    rw [hr]
    change (Request.take (some 1) ⟨[], none, o⟩ (.operand p) >>= pure).bind parse.command? = _
    rw [Request.take, path?, hempty]
    rfl
  · rw [hitems, List.mem_append, List.mem_singleton, not_or]
    exact ⟨hhelp, fun h => by cases h⟩

end Subcommand

/-! ### Whole command lines -/

/-- The name of a subcommand leaves the rest to it. -/
theorem read?_name (s : Subcommand) (args : List Text) : read? (s.name :: args) = s.read? args := by
  have hoperand : isOperand s.name = true := by cases s <;> decide
  have hhelp : s.name ≠ helpName := by cases s <;> decide
  rw [read?, if_pos hoperand, if_neg hhelp, Subcommand.ofName?_name]

end CommandLine
end Marginalia
