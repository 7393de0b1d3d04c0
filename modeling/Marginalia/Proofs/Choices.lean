import Marginalia.Proofs.Withdrawal

/-!
# Choices on a command line

Five options of a command line choose what the settings choose too.  Each of them can be taken
out of the command line, and the command is then the same but for this choice.  What the command
makes of settings in which the choice is made is what it made of the settings before.

## Main definitions

* `Choice`, `Choice.item`, `Choice.set` — the choices, with the options that make them and what
  they mean for the settings.
* `Overrides.choices`, `Overrides.without` — the choices that are made, and what is left
  without one.
* `CommandLine.TakenOut` — what is left of a command line without some choices.

## Main results

* `Overrides.apply_without` — a choice can be made in the settings instead.
* `CommandLine.Request.foldlM_choice` — nothing else depends on a choice.
* `CommandLine.read?_without` — **taking a choice out of a command line takes it out of the
  command.**
* `CommandLine.TakenOut.read?_eq` — what is left asks for the same.
* `CommandLine.exists_takenOut`, `CommandLine.eq_default_of_not_takeable` — all choices can be
  taken out, and then none is made.
-/

namespace Marginalia

/-! ### Choices -/

/-- A setting that is chosen on the command line. -/
inductive Choice where
  /-- The marker of comments in all files. -/
  | marker (m : Text)
  /-- The name of the theme. -/
  | theme (name : Text)
  /-- Comments are to be escaped. -/
  | plain
  /-- Code is to be escaped. -/
  | noHighlight
  /-- A complete page is to be made. -/
  | standalone
  deriving DecidableEq

namespace Choice

/-- What an argument says that makes a choice. -/
def item : Choice → CommandLine.Item
  | .marker m => .setting .marker m
  | .theme name => .setting .theme name
  | .plain => .flag .plain
  | .noHighlight => .flag .noHighlight
  | .standalone => .flag .standalone

/-- The settings with a choice made in them. -/
def set : Choice → Settings → Settings
  | .marker m, s => { s with marker := some m }
  | .theme name, s => { s with theme := name }
  | .plain, s => { s with markdown := false }
  | .noHighlight, s => { s with highlight := false }
  | .standalone, s => { s with standalone := true }

end Choice

/-- The settings with choices made in them, one after another. -/
def Settings.withChoices (s : Settings) (xs : List Choice) : Settings :=
  xs.foldl (fun s x => x.set s) s

namespace CommandLine

theorem once_eq_some_iff {α : Type} {old : Option α} {new : α} {v : Option α} :
    once old new = some v ↔ old = none ∧ v = some new := by
  cases old <;> simp [once, eq_comm]

theorem onceFlag_eq_some_iff {old v : Bool} :
    onceFlag old = some v ↔ old = false ∧ v = true := by
  cases old <;> simp [onceFlag, eq_comm]

end CommandLine

namespace Overrides

open CommandLine

/-- The choices that overrides make. -/
def choices (o : Overrides) : List Choice :=
  (o.marker.map .marker).toList ++ (o.theme.map .theme).toList ++
    (if o.plain then [.plain] else []) ++ (if o.noHighlight then [.noHighlight] else []) ++
      (if o.standalone then [.standalone] else [])

/-- Overrides without a choice. -/
def without (o : Overrides) : Choice → Overrides
  | .marker _ => { o with marker := none }
  | .theme _ => { o with theme := none }
  | .plain => { o with plain := false }
  | .noHighlight => { o with noHighlight := false }
  | .standalone => { o with standalone := false }

/-- Overrides with one more choice, which must not have been made. -/
def add? (o : Overrides) : Choice → Option Overrides
  | .marker m => (once o.marker m).map fun v => { o with marker := v }
  | .theme name => (once o.theme name).map fun v => { o with theme := v }
  | .plain => (onceFlag o.plain).map fun v => { o with plain := v }
  | .noHighlight => (onceFlag o.noHighlight).map fun v => { o with noHighlight := v }
  | .standalone => (onceFlag o.standalone).map fun v => { o with standalone := v }

variable {o o' : Overrides} {x y : Choice}

@[simp] theorem marker_mem_choices {m : Text} : .marker m ∈ o.choices ↔ o.marker = some m := by
  simp [choices]

@[simp] theorem theme_mem_choices {name : Text} :
    .theme name ∈ o.choices ↔ o.theme = some name := by
  simp [choices]

@[simp] theorem plain_mem_choices : .plain ∈ o.choices ↔ o.plain = true := by
  simp [choices]

@[simp] theorem noHighlight_mem_choices : .noHighlight ∈ o.choices ↔ o.noHighlight = true := by
  simp [choices]

@[simp] theorem standalone_mem_choices : .standalone ∈ o.choices ↔ o.standalone = true := by
  simp [choices]

theorem eq_default_of_choices (h : o.choices = []) : o = {} := by
  obtain ⟨marker, plain, noHighlight, standalone, theme⟩ := o
  cases marker <;> cases theme <;> simp_all [choices]

/-- A choice can be made in the settings instead. -/
theorem apply_without (h : x ∈ o.choices) (s : Settings) :
    (o.without x).apply (x.set s) = o.apply s := by
  cases x <;> simp_all [without, apply, Choice.set]

/-- A choice that is made can be taken back. -/
theorem add?_self (h : o.add? x = some o') : x ∈ o'.choices ∧ o'.without x = o := by
  obtain ⟨marker, plain, noHighlight, standalone, theme⟩ := o
  cases x <;>
    (obtain ⟨v, hv, rfl⟩ := Option.map_eq_some_iff.1 h
     simp_all [without, once_eq_some_iff, onceFlag_eq_some_iff])

/-- A choice that has been made stays, and others do the same without it. -/
theorem add?_without (hx : x ∈ o.choices) (h : o.add? y = some o') :
    x ∈ o'.choices ∧ (o.without x).add? y = some (o'.without x) := by
  cases y <;>
    (obtain ⟨v, hv, rfl⟩ := Option.map_eq_some_iff.1 h
     cases x <;> simp_all [without, add?, once_eq_some_iff, onceFlag_eq_some_iff])

/-- A choice that has been made was made before or just now. -/
theorem mem_choices_of_add? (h : o.add? y = some o') (hx : x ∈ o'.choices) :
    x ∈ o.choices ∨ x = y := by
  cases y <;>
    (obtain ⟨v, hv, rfl⟩ := Option.map_eq_some_iff.1 h
     cases x <;> simp_all [once_eq_some_iff, onceFlag_eq_some_iff])

theorem mem_choices_of_without (h : y ∈ (o.without x).choices) : y ∈ o.choices ∧ y ≠ x := by
  cases x <;> cases y <;> simp_all [without]

end Overrides

/-! ### Requests -/

namespace CommandLine
namespace Request

/-- A request without a choice. -/
def without (r : Request) (x : Choice) : Request :=
  { r with overrides := r.overrides.without x }

variable {most : Option Nat} {r r' : Request} {x : Choice} {i : Item}

/-- An item that makes a choice does nothing else. -/
theorem take_choice : take most r x.item =
    (r.overrides.add? x).map fun o => { r with overrides := o } := by
  cases x with
  | marker m => rw [Choice.item, take, Overrides.add?]; cases once r.overrides.marker m <;> rfl
  | theme name => rw [Choice.item, take, Overrides.add?]; cases once r.overrides.theme name <;> rfl
  | plain => rw [Choice.item, take, Overrides.add?]; cases onceFlag r.overrides.plain <;> rfl
  | noHighlight =>
    rw [Choice.item, take, Overrides.add?]; cases onceFlag r.overrides.noHighlight <;> rfl
  | standalone =>
    rw [Choice.item, take, Overrides.add?]; cases onceFlag r.overrides.standalone <;> rfl

/-- An item that makes no choice neither looks at the choices nor changes them. -/
theorem take_overrides (hi : ∀ x : Choice, i ≠ x.item) (o : Overrides) :
    take most { r with overrides := o } i =
      (take most r i).map fun r' => { r' with overrides := o } := by
  cases i with
  | wrong => rfl
  | operand t =>
    rw [take, take]
    cases path? t with
    | none => rfl
    | some p =>
      change addFile most _ p = (addFile most r p).map _
      rw [addFile, addFile]
      split <;> rfl
  | flag f =>
    cases f with
    | verbose => rfl
    | help => rfl
    | version => rfl
    | plain => exact absurd rfl (hi .plain)
    | noHighlight => exact absurd rfl (hi .noHighlight)
    | standalone => exact absurd rfl (hi .standalone)
  | setting k t =>
    cases k with
    | output =>
      rw [take, take]
      cases path? t with
      | none => rfl
      | some p =>
        change (once r.output p >>= _) = ((once r.output p >>= _) : Option Request).map _
        cases once r.output p <;> rfl
    | marker => exact absurd rfl (hi (.marker t))
    | theme => exact absurd rfl (hi (.theme t))

theorem overrides_of_take (hi : ∀ x : Choice, i ≠ x.item) (h : take most r i = some r') :
    r'.overrides = r.overrides := by
  have hself : take most r i = (take most r i).map fun next =>
      { next with overrides := r.overrides } := take_overrides hi r.overrides
  rw [h, Option.map_some, Option.some.injEq] at hself
  rw [hself]

/-- A choice that has been made stays, and each item does the same without it. -/
theorem take_without (hx : x ∈ r.overrides.choices) (h : take most r i = some r') :
    x ∈ r'.overrides.choices ∧ take most (r.without x) i = some (r'.without x) := by
  by_cases hi : ∃ y : Choice, i = y.item
  · obtain ⟨y, rfl⟩ := hi
    rw [take_choice] at h
    obtain ⟨o, ho, rfl⟩ := Option.map_eq_some_iff.mp h
    obtain ⟨hkept, hwithout⟩ := Overrides.add?_without hx ho
    refine ⟨hkept, ?_⟩
    rw [take_choice, without, hwithout]
    rfl
  · rw [not_exists] at hi
    have hsame := overrides_of_take hi h
    refine ⟨hsame ▸ hx, ?_⟩
    rw [without, take_overrides hi, h, Option.map_some, without, hsame]

/-- **A choice is made where it stands, and nothing else depends on it.** -/
theorem foldlM_choice {is js : List Item}
    (h : (is ++ x.item :: js).foldlM (take most) {} = some r) :
    x ∈ r.overrides.choices ∧ (is ++ js).foldlM (take most) {} = some (r.without x) := by
  rw [List.foldlM_append] at h
  obtain ⟨before, hbefore, h⟩ := Option.bind_eq_some_iff.mp h
  rw [List.foldlM_cons] at h
  obtain ⟨next, hnext, hrest⟩ := Option.bind_eq_some_iff.mp h
  rw [take_choice] at hnext
  obtain ⟨o, ho, rfl⟩ := Option.map_eq_some_iff.mp hnext
  obtain ⟨hx, hsame⟩ := Overrides.add?_self ho
  -- the items after the choice do the same without it
  obtain ⟨hkept, hwithout⟩ := foldlM_of_take (fun _ _ _ => take_without) js _ hx hrest
  refine ⟨hkept, ?_⟩
  rw [List.foldlM_append, hbefore]
  rw [without, hsame] at hwithout
  exact hwithout

/-- A choice that a request makes was made by an item. -/
theorem mem_of_choice {is : List Item} (h : is.foldlM (take most) r = some r')
    (hx : x ∈ r'.overrides.choices) : x ∈ r.overrides.choices ∨ x.item ∈ is := by
  have htake : ∀ (i : Item) (r r' : Request), take most r i = some r' →
      x ∈ r'.overrides.choices → x ∈ r.overrides.choices ∨ i = x.item := by
    intro i r r' h hx
    by_cases hi : ∃ y : Choice, i = y.item
    · obtain ⟨y, rfl⟩ := hi
      rw [take_choice] at h
      obtain ⟨o, ho, rfl⟩ := Option.map_eq_some_iff.mp h
      rcases Overrides.mem_choices_of_add? ho hx with hbefore | rfl
      · exact .inl hbefore
      · exact .inr rfl
    · rw [not_exists] at hi
      exact .inl (overrides_of_take hi h ▸ hx)
  exact mem_of_foldlM htake is r h hx

end Request
end CommandLine

/-! ### Commands -/

namespace Command

/-- A command with other overrides. -/
def withOverrides (o : Overrides) : Command → Command
  | .render files output _ => .render files output o
  | .parse file _ => .parse file o
  | c => c

variable {c : Command} {o o' : Overrides}

theorem withOverrides_self (h : c.overrides? = some o) : c.withOverrides o = c := by
  cases c <;> cases h <;> rfl

theorem withOverrides_withOverrides :
    (c.withOverrides o).withOverrides o' = c.withOverrides o' := by
  cases c <;> rfl

theorem overrides?_withOverrides (h : c.overrides? = some o) :
    (c.withOverrides o').overrides? = some o' := by
  cases c <;> cases h <;> rfl

theorem ne_help (h : c.overrides? = some o) (topic : CommandLine.Topic) : c ≠ .help topic := by
  rintro rfl
  cases h

end Command

/-! ### Command lines -/

namespace CommandLine

variable {x : Choice} {before spelled kept after args args' : List Text} {c : Command}
  {o : Overrides}

theorem Subcommand.command?_without (s : Subcommand) (r : Request) (x : Choice) :
    s.command? (r.without x) =
      (s.command? r).map (Command.withOverrides (r.overrides.without x)) := by
  obtain ⟨files, output, o⟩ := r
  cases s with
  | render => cases files <;> rfl
  | parse =>
    cases files with
    | nil => rfl
    | cons file files => cases files <;> rfl
  | themes => rfl

theorem Subcommand.overrides_of_command? {s : Subcommand} {r : Request}
    (h : s.command? r = some c) (hc : c.overrides? = some o) : r.overrides = o := by
  obtain ⟨files, output, o'⟩ := r
  cases s with
  | render =>
    cases files with
    | nil => cases h
    | cons file files => cases h; exact Option.some.inj hc
  | parse =>
    cases files with
    | nil => cases h
    | cons file files =>
      cases files with
      | nil => cases h; exact Option.some.inj hc
      | cons other files => cases h
  | themes => cases h; cases hc

/-- Taking a choice out of the arguments of a subcommand takes it out of the command. -/
theorem Subcommand.read?_without {s : Subcommand} (h : Taken x.item spelled kept)
    (hsep : separator ∉ before) (hc : c.overrides? = some o)
    (hread : s.read? (before ++ (spelled ++ after)) = some c) :
    x ∈ o.choices ∧
      s.read? (before ++ (kept ++ after)) = some (c.withOverrides (o.without x)) := by
  obtain ⟨is, js, r, hr, hcommand, hkept⟩ := read?_taken h hsep (Command.ne_help hc) hread
  obtain ⟨hx, hwithout⟩ := Request.foldlM_choice hr
  obtain rfl := overrides_of_command? hcommand hc
  refine ⟨hx, ?_⟩
  rw [hkept, request?, hwithout, Option.bind_some, s.command?_without, hcommand]
  rfl

/-- Before a subcommand no choice is known. -/
theorem not_known_choice (x : Choice) : ¬ x.item.Known programGrammar := by
  cases x <;> simp [Choice.item, Item.Known, programGrammar]

/-- **Taking a choice out of a command line takes it out of the command.** -/
theorem read?_without (h : Taken x.item spelled kept) (hsep : separator ∉ before)
    (hc : c.overrides? = some o) (hread : read? (before ++ (spelled ++ after)) = some c) :
    x ∈ o.choices ∧ read? (before ++ (kept ++ after)) = some (c.withOverrides (o.without x)) :=
  read?_of_subcommands h (not_known_choice x) hc (Command.overrides?_withOverrides hc)
    (fun _ _ hbefore hread => Subcommand.read?_without h hbefore hc hread) before hsep hread

theorem Subcommand.takeable_choice {s : Subcommand} (hc : c.overrides? = some o)
    (hx : x ∈ o.choices) (hread : s.read? args = some c) : Takeable x.item args := by
  obtain ⟨-, r, hr, hcommand⟩ := (read?_eq_some_iff (Command.ne_help hc)).mp hread
  obtain rfl := overrides_of_command? hcommand hc
  have hmem : x.item ∈ s.grammar.items args :=
    (Request.mem_of_choice hr hx).resolve_left (by cases x <;> simp)
  have hfine := Request.isFault_of_mem _ _ hr
  cases x with
  | marker m => exact Takeable.setting_iff.mpr (s.grammar.removable .marker m args hfine hmem)
  | theme name => exact Takeable.setting_iff.mpr (s.grammar.removable .theme name args hfine hmem)
  | plain => exact Grammar.takeable_flag rfl args hmem
  | noHighlight => exact Grammar.takeable_flag rfl args hmem
  | standalone => exact Grammar.takeable_flag rfl args hmem

/-- A choice that is made can be taken out. -/
theorem takeable_choice (hc : c.overrides? = some o) (hx : x ∈ o.choices)
    (hread : read? args = some c) : Takeable x.item args :=
  takeable_of_subcommands hc (fun _ _ => Subcommand.takeable_choice hc hx) args hread

/-- Taking the choices `xs`, one after another, out of the arguments `args` leaves the
arguments `args'`. -/
inductive TakenOut : List Choice → List Text → List Text → Prop where
  /-- Nothing is taken out. -/
  | nil {args : List Text} : TakenOut [] args args
  /-- A choice is taken out, wherever it stands. -/
  | cons {x : Choice} {xs : List Choice} {before spelled kept after args' : List Text}
    (h : Taken x.item spelled kept) (hsep : separator ∉ before)
    (hrest : TakenOut xs (before ++ (kept ++ after)) args') :
    TakenOut (x :: xs) (before ++ (spelled ++ after)) args'

/-- What is left of a command line asks for the same, and where the choices that have been taken
out are settings, for the same settings. -/
theorem TakenOut.read?_eq {xs : List Choice} (h : TakenOut xs args args')
    (hc : c.overrides? = some o) (hread : read? args = some c) :
    ∃ o', read? args' = some (c.withOverrides o') ∧
      ∀ s : Settings, o'.apply (s.withChoices xs) = o.apply s := by
  induction h generalizing c o with
  | nil => exact ⟨o, by rw [Command.withOverrides_self hc, hread], fun s => rfl⟩
  | cons h hsep _ ih =>
    obtain ⟨hx, hread⟩ := read?_without h hsep hc hread
    obtain ⟨o', hread, ho'⟩ := ih (Command.overrides?_withOverrides hc) hread
    rw [Command.withOverrides_withOverrides] at hread
    refine ⟨o', hread, fun s => ?_⟩
    rw [← Overrides.apply_without hx, ← ho']
    rfl

/-- A command line out of which no choice can be taken makes none. -/
theorem eq_default_of_not_takeable (hc : c.overrides? = some o) (hread : read? args = some c)
    (h : ∀ x : Choice, ¬ Takeable x.item args) : o = {} := by
  refine Overrides.eq_default_of_choices (List.eq_nil_iff_forall_not_mem.mpr fun x hx => ?_)
  exact h x (takeable_choice hc hx hread)

/-- All choices can be taken out. -/
theorem exists_takenOut {xs : List Choice} (hc : c.overrides? = some o)
    (hxs : ∀ x ∈ o.choices, x ∈ xs) (hread : read? args = some c) :
    ∃ ys args', TakenOut ys args args' ∧ read? args' = some (c.withOverrides {}) := by
  induction xs generalizing args c o with
  | nil =>
    obtain rfl := Overrides.eq_default_of_choices (List.eq_nil_iff_forall_not_mem.mpr
      fun x hx => List.not_mem_nil (hxs x hx))
    exact ⟨[], args, .nil, by rw [Command.withOverrides_self hc, hread]⟩
  | cons x xs ih =>
    by_cases hx : x ∈ o.choices
    · obtain ⟨before, spelled, kept, after, rfl, hsep, htaken⟩ := takeable_choice hc hx hread
      obtain ⟨-, hread⟩ := read?_without htaken hsep hc hread
      have hxs' : ∀ y ∈ (o.without x).choices, y ∈ xs := fun y hy => by
        obtain ⟨hy, hne⟩ := Overrides.mem_choices_of_without hy
        exact (List.mem_cons.mp (hxs y hy)).resolve_left hne
      obtain ⟨ys, args', hout, hleft⟩ := ih (Command.overrides?_withOverrides hc) hxs' hread
      rw [Command.withOverrides_withOverrides] at hleft
      exact ⟨x :: ys, args', .cons htaken hsep hout, hleft⟩
    · refine ih hc (fun y hy => ?_) hread
      refine (List.mem_cons.mp (hxs y hy)).resolve_left ?_
      rintro rfl
      exact hx hy

end CommandLine
end Marginalia
