import Mathlib.Data.List.Induction
import Marginalia.Proofs.Statements

/-!
# The keys at the top of a document

A statement names a key at the top of its document if it is a header, or if no header stands
before it.  What a key at the top stands for can be read off these statements, in whatever
order they come: a pair whose key has one part gives it a value, all others make it a table
or an array of tables.  The pairs after a header only change what is below the header's key.

## Main definitions

* `Toml.topLevel` — the statements that name a key at the top.
* `Toml.Members.Fills` — a key is a table, or becomes one, and what is in it changes.
* `Toml.Reading.Follows` — what has been read agrees with the statements read so far.
* `Toml.Reading.onto` — what has been read, after other keys.

## Main results

* `Toml.Reading.take_follows` — taking one more statement keeps the agreement.
* `Toml.follows_of_foldlM` — **the top of a document agrees with its statements.**
* `Toml.foldlM_onto` — **statements do not see keys at the top that they do not name.**
-/

namespace Marginalia
namespace Toml

/-- The statements that name a key at the top: the pairs before the first header, and all
headers. -/
def topLevel (ss : List Statement) : List Statement :=
  ss.takeWhile Statement.isPair ++ ss.filter fun s => !s.isPair

/-- The keys at the top that statements name. -/
def namedKeys (ss : List Statement) : List Text := (topLevel ss).filterMap (·.keys.head?)

/-! ### Looking up and putting down -/

namespace Members

theorem get?_cons (m : Text × Node) (ms : Members) (k : Text) :
    get? (m :: ms) k = if m.1 = k then some m.2 else get? ms k := by
  by_cases h : m.1 = k <;> simp [get?, h]

theorem get?_set (ms : Members) (key : Text) (n : Node) (k : Text) :
    (ms.set key n).get? k = if key = k then some n else ms.get? k := by
  induction ms with
  | nil => simp [set, get?_cons]
  | cons m ms ih =>
    by_cases hm : m.1 = key
    · subst hm
      simp only [set, if_true, get?_cons]
      split <;> rfl
    · rw [set, if_neg hm, get?_cons, ih, get?_cons]
      by_cases hk : m.1 = k
      · rw [if_pos hk, if_neg fun h => hm (hk.trans h.symm)]
        simp [hk]
      · simp [hk]

theorem get?_eq_none_iff (ms : Members) (k : Text) :
    ms.get? k = none ↔ k ∉ ms.map (·.1) := by
  induction ms with
  | nil => simp [get?]
  | cons m ms ih => by_cases hm : m.1 = k <;> simp_all [get?_cons, eq_comm]

theorem get?_append (others ms : Members) {k : Text} (h : k ∉ others.map (·.1)) :
    get? (others ++ ms) k = ms.get? k := by
  induction others with
  | nil => rfl
  | cons m others ih =>
    simp only [List.map_cons, List.mem_cons, not_or] at h
    rw [List.cons_append, get?_cons, if_neg (Ne.symm h.1), ih h.2]

theorem set_append (others ms : Members) {k : Text} (n : Node) (h : k ∉ others.map (·.1)) :
    set (others ++ ms) k n = others ++ ms.set k n := by
  induction others with
  | nil => rfl
  | cons m others ih =>
    simp only [List.map_cons, List.mem_cons, not_or] at h
    rw [List.cons_append, set, if_neg (Ne.symm h.1), ih h.2, List.cons_append]

/-! ### What changes at the top -/

/-- A key comes to stand for a table or an array of tables, and did not stand for a value
before. -/
def Fills (key : Text) (ms ms' : Members) : Prop :=
  ∃ n, ms' = ms.set key n ∧ (∀ v, n ≠ .value v) ∧ ∀ v, ms.get? key ≠ some (.value v)

theorem Fills.value_iff {key : Text} {ms ms' : Members} (h : Fills key ms ms') (k : Text)
    (v : Value) : ms'.get? k = some (.value v) ↔ ms.get? k = some (.value v) := by
  obtain ⟨n, rfl, hn, hold⟩ := h
  rw [get?_set]
  split
  · next hk => subst hk; simp [hn, hold]
  · rfl

theorem Fills.none_iff {key : Text} {ms ms' : Members} (h : Fills key ms ms') (k : Text) :
    ms'.get? k = none ↔ ms.get? k = none ∧ key ≠ k := by
  obtain ⟨n, rfl, -, -⟩ := h
  rw [get?_set]
  split <;> simp_all

theorem descend_fills {key : Text} {ms ms' : Members} {f : Members → Option Members}
    (h : ms.descend key f = some ms') : Fills key ms ms' := by
  revert h
  fun_cases descend ms key f with
  | case1 hget =>
    intro h
    obtain ⟨inner, -, rfl⟩ := Option.map_eq_some_iff.1 h
    exact ⟨_, rfl, by simp, by simp [hget]⟩
  | case2 origin old hget =>
    intro h
    obtain ⟨inner, -, rfl⟩ := Option.map_eq_some_iff.1 h
    exact ⟨_, rfl, by simp, by simp [hget]⟩
  | case3 last others hget =>
    intro h
    obtain ⟨inner, -, rfl⟩ := Option.map_eq_some_iff.1 h
    exact ⟨_, rfl, by simp, by simp [hget]⟩
  | case4 => simp

theorem openTable_fills {key : Text} {keys : List Text} {ms ms' : Members}
    (h : ms.openTable (key :: keys) = some ms') : Fills key ms ms' := by
  cases keys with
  | nil =>
    simp only [openTable] at h
    split at h <;> cases h
    · next hget => exact ⟨_, rfl, by simp, by simp [hget]⟩
    · next hget => exact ⟨_, rfl, by simp, by simp [hget]⟩
  | cons next keys => exact descend_fills h

theorem openElement_fills {key : Text} {keys : List Text} {ms ms' : Members}
    (h : ms.openElement (key :: keys) = some ms') : Fills key ms ms' := by
  cases keys with
  | nil =>
    simp only [openElement] at h
    split at h <;> cases h
    · next hget => exact ⟨_, rfl, by simp, by simp [hget]⟩
    · next hget => exact ⟨_, rfl, by simp, by simp [hget]⟩
  | cons next keys => exact descend_fills h

theorem insert_singleton (v : Value) (key : Text) (ms : Members) :
    ms.insert v [key] = if ms.get? key = none then some (ms.set key (.value v)) else none := by
  cases hget : ms.get? key <;> simp [insert, insertUnder, hget]

theorem insert_fills {v : Value} {key next : Text} {keys : List Text} {ms ms' : Members}
    (h : ms.insert v (key :: next :: keys) = some ms') : Fills key ms ms' := by
  simp only [insert, insertUnder] at h
  split at h
  · next hget =>
    obtain ⟨inner, -, rfl⟩ := Option.map_eq_some_iff.1 h
    exact ⟨_, rfl, by simp, by simp [hget]⟩
  · cases h
  · next hget =>
    obtain ⟨inner, -, rfl⟩ := Option.map_eq_some_iff.1 h
    exact ⟨_, rfl, by simp, by simp [hget]⟩
  · next hget =>
    obtain ⟨last, -, rfl⟩ := Option.map_eq_some_iff.1 h
    exact ⟨_, rfl, by simp, by simp [hget]⟩
  · cases h

/-! ### Keys that are not named -/

section

variable {others : Members} {key : Text} (h : key ∉ others.map (·.1))
include h

theorem descend_append (ms : Members) (f : Members → Option Members) :
    descend (others ++ ms) key f = (ms.descend key f).map (others ++ ·) := by
  unfold descend
  rw [get?_append others ms h]
  split <;> simp [Function.comp_def, set_append others ms _ h]

theorem openTable_append (ms : Members) (keys : List Text) :
    openTable (key :: keys) (others ++ ms) = (ms.openTable (key :: keys)).map (others ++ ·) := by
  cases keys with
  | nil =>
    simp only [openTable, get?_append others ms h]
    split <;> simp [set_append others ms _ h]
  | cons next keys => exact descend_append h ms _

theorem openElement_append (ms : Members) (keys : List Text) :
    openElement (key :: keys) (others ++ ms) =
      (ms.openElement (key :: keys)).map (others ++ ·) := by
  cases keys with
  | nil =>
    simp only [openElement, get?_append others ms h]
    split <;> simp [set_append others ms _ h]
  | cons next keys => exact descend_append h ms _

theorem insert_append (ms : Members) (v : Value) (keys : List Text) :
    insert v (key :: keys) (others ++ ms) = (ms.insert v (key :: keys)).map (others ++ ·) := by
  cases keys with
  | nil =>
    simp only [insert_singleton, get?_append others ms h, set_append others ms _ h]
    split <;> rfl
  | cons next keys =>
    simp only [insert, insertUnder, get?_append others ms h]
    split <;> simp [Function.comp_def, set_append others ms _ h]

theorem insertIn_append (ms : Members) (v : Value) (keys header : List Text) :
    insertIn v keys (key :: header) (others ++ ms) =
      (ms.insertIn v keys (key :: header)).map (others ++ ·) :=
  descend_append h ms _

end

end Members

/-! ### The top of a document -/

@[simp] theorem topLevel_nil : topLevel [] = [] := rfl

@[simp] theorem topLevel_singleton (s : Statement) : topLevel [s] = [s] := by cases s <;> rfl

theorem topLevel_append_of_all {ss : List Statement} (h : ss.all Statement.isPair)
    (others : List Statement) : topLevel (ss ++ others) = ss ++ topLevel others := by
  have hpairs : ∀ s ∈ ss, s.isPair := List.all_eq_true.1 h
  rw [topLevel, List.takeWhile_append_of_pos hpairs, List.filter_append,
    List.filter_eq_nil_iff.2 (by simpa using hpairs), List.nil_append, List.append_assoc, topLevel]

theorem topLevel_of_all {ss : List Statement} (h : ss.all Statement.isPair) :
    topLevel ss = ss := by
  simpa using topLevel_append_of_all h []

theorem topLevel_append_of_not_all {ss : List Statement} (h : ¬ ss.all Statement.isPair)
    (others : List Statement) :
    topLevel (ss ++ others) = topLevel ss ++ others.filter fun s => !s.isPair := by
  have htake : (ss ++ others).takeWhile Statement.isPair = ss.takeWhile Statement.isPair := by
    induction ss with
    | nil => simp at h
    | cons s ss ih =>
      by_cases hs : s.isPair
      · have hss : ¬ ss.all Statement.isPair := by simpa [hs] using h
        simp [hs, ih hss]
      · simp [hs]
  rw [topLevel, htake, List.filter_append, topLevel, List.append_assoc]

/-! ### Taking statements -/

/-- How a statement that names a key at the top changes the top. -/
structure Statement.Names (s : Statement) (ms ms' : Members) : Prop where
  /-- A pair whose key has one part gives it a value. -/
  value_iff : ∀ key v,
    ms'.get? key = some (.value v) ↔ ms.get? key = some (.value v) ∨ s = .pair [key] v
  /-- A key that is named stands for something. -/
  none_iff : ∀ key, ms'.get? key = none ↔ ms.get? key = none ∧ s.keys.head? ≠ some key
  /-- A key that is named did not stand for a value. -/
  not_value : ∀ key v, s.keys.head? = some key → ms.get? key ≠ some (.value v)
  /-- A key that is given a value did not stand for anything. -/
  not_some : ∀ key v, s = .pair [key] v → ms.get? key = none

theorem Statement.names_of_fills {s : Statement} {key : Text} {ms ms' : Members}
    (h : ms.Fills key ms') (hkey : s.keys.head? = some key) (hs : ∀ v, s ≠ .pair [key] v) :
    s.Names ms ms' where
  value_iff k v := by
    rw [h.value_iff]
    refine (or_iff_left fun heq => ?_).symm
    subst heq
    obtain rfl : k = key := by simpa [keys] using hkey
    exact hs v rfl
  none_iff k := by rw [h.none_iff, hkey]; simp
  not_value k v hk := by
    obtain rfl : key = k := Option.some.inj (hkey.symm.trans hk)
    obtain ⟨-, -, -, hold⟩ := h
    exact hold v
  not_some k v heq := by
    subst heq
    obtain rfl : k = key := by simpa [keys] using hkey
    exact absurd rfl (hs v)

theorem Statement.names_of_set {key : Text} {v : Value} {ms : Members}
    (h : ms.get? key = none) : Names (.pair [key] v) ms (ms.set key (.value v)) where
  value_iff k w := by
    rw [Members.get?_set]
    split
    · next hk => subst hk; simp [h]
    · next hk => simp [hk]
  none_iff k := by
    rw [Members.get?_set]
    split <;> simp_all [keys]
  not_value k w hk := by
    obtain rfl : key = k := by simpa [keys] using hk
    simp [h]
  not_some k w heq := by
    cases heq
    exact h

namespace Reading

/-- What has been read agrees with the statements that have been taken: what the keys at the
top stand for, and below which of them the next pair goes. -/
structure Follows (ss : List Statement) (r : Reading) : Prop where
  /-- The keys that stand for values. -/
  value_iff : ∀ key v, r.root.get? key = some (.value v) ↔ .pair [key] v ∈ topLevel ss
  /-- The keys that stand for nothing. -/
  none_iff : ∀ key, r.root.get? key = none ↔ key ∉ namedKeys ss
  /-- A key that stands for a value is named once. -/
  once : ∀ key v, .pair [key] v ∈ topLevel ss → ∀ s ∈ topLevel ss, s.keys.head? = some key →
    s = .pair [key] v
  /-- Pairs go to the top as long as there is no header. -/
  header_iff : r.header = [] ↔ ss.all Statement.isPair
  /-- The key that pairs go below is there. -/
  header_named : ∀ key, r.header.head? = some key → r.root.get? key ≠ none

theorem follows_start : Follows [] start where
  value_iff key v := by simp [start, Members.get?]
  none_iff key := by simp [start, Members.get?, namedKeys]
  once key v h := by simp at h
  header_iff := by simp [start]
  header_named key h := by simp [start] at h

/-- Headers, and pairs when there is no header yet, name a key at the top. -/
theorem take_names {r r' : Reading} {s : Statement} (htake : r.take s = some r')
    (h : s.isPair → r.header = []) : s.Names r.root r'.root := by
  cases s with
  | pair keys v =>
    obtain ⟨root, hroot, rfl⟩ := Option.map_eq_some_iff.1 htake
    rw [h rfl] at hroot
    match keys with
    | [] => cases hroot
    | [key] =>
      rw [Members.insertIn, Members.insert_singleton] at hroot
      split at hroot
      · next hnone =>
        cases hroot
        exact Statement.names_of_set hnone
      · cases hroot
    | key :: next :: keys =>
      exact Statement.names_of_fills (Members.insert_fills hroot) rfl (by simp)
  | table keys =>
    obtain ⟨root, hroot, rfl⟩ := Option.map_eq_some_iff.1 htake
    cases keys with
    | nil => cases hroot
    | cons key keys => exact Statement.names_of_fills (Members.openTable_fills hroot) rfl (by simp)
  | element keys =>
    obtain ⟨root, hroot, rfl⟩ := Option.map_eq_some_iff.1 htake
    cases keys with
    | nil => cases hroot
    | cons key keys =>
      exact Statement.names_of_fills (Members.openElement_fills hroot) rfl (by simp)

/-- Pairs after a header change what is below the header's key. -/
theorem take_fills {r r' : Reading} {s : Statement} (htake : r.take s = some r')
    (hpair : s.isPair) (h : r.header ≠ []) :
    ∃ key, r.header.head? = some key ∧ r.root.Fills key r'.root ∧ r'.header = r.header := by
  cases s with
  | pair keys v =>
    obtain ⟨root, hroot, rfl⟩ := Option.map_eq_some_iff.1 htake
    obtain ⟨key, header, hheader⟩ := List.exists_cons_of_ne_nil h
    rw [hheader] at hroot
    exact ⟨key, by simp [hheader], Members.descend_fills hroot, rfl⟩
  | table keys => cases hpair
  | element keys => cases hpair

/-- A header is what the following pairs go below. -/
theorem take_header {r r' : Reading} {s : Statement} (htake : r.take s = some r') :
    r'.header = if s.isPair then r.header else s.keys := by
  cases s <;> obtain ⟨root, -, rfl⟩ := Option.map_eq_some_iff.1 htake <;> rfl

theorem Follows.topLevel_concat {ss : List Statement} {r : Reading} {s : Statement}
    (h : Follows ss r) (hs : s.isPair → r.header = []) :
    topLevel (ss ++ [s]) = topLevel ss ++ [s] := by
  by_cases hall : ss.all Statement.isPair
  · rw [topLevel_append_of_all hall, topLevel_of_all hall, topLevel_singleton]
  · have hheader : s.isPair = false :=
      Bool.eq_false_iff.2 fun hpair => hall (h.header_iff.1 (hs hpair))
    rw [topLevel_append_of_not_all hall]
    simp [hheader]

theorem Follows.take_pair {ss : List Statement} {r r' : Reading} {s : Statement}
    (h : Follows ss r) (htake : r.take s = some r') (hpair : s.isPair) (hheader : r.header ≠ []) :
    Follows (ss ++ [s]) r' := by
  -- the pair goes below the last header, so that the top says nothing new
  have hall : ¬ ss.all Statement.isPair := fun hall => hheader (h.header_iff.2 hall)
  have htop : topLevel (ss ++ [s]) = topLevel ss := by
    rw [topLevel_append_of_not_all hall]
    simp [hpair]
  obtain ⟨key, hkey, hfills, hsame⟩ := take_fills htake hpair hheader
  have hnone : ∀ k, r'.root.get? k = none ↔ r.root.get? k = none := fun k => by
    rw [hfills.none_iff]
    refine and_iff_left_of_imp fun hk heq => ?_
    subst heq
    exact h.header_named key hkey hk
  exact {
    value_iff := fun k v => by rw [hfills.value_iff, h.value_iff, htop]
    none_iff := fun k => by simp only [hnone, h.none_iff, namedKeys, htop]
    once := by rw [htop]; exact h.once
    header_iff := by simp [hsame, hheader, List.all_append, hall]
    header_named := fun k hk => by
      rw [Ne, hnone]
      exact h.header_named k (hsame ▸ hk) }

theorem Follows.once_concat {ss : List Statement} {r : Reading} {s : Statement} {ms : Members}
    (h : Follows ss r) (hnames : s.Names r.root ms) (key : Text) (v : Value)
    (hpair : .pair [key] v ∈ topLevel ss ++ [s]) :
    ∀ s' ∈ topLevel ss ++ [s], s'.keys.head? = some key → s' = .pair [key] v := by
  intro s' hs' hkey
  rcases List.mem_append.1 hpair with hold | hnew
  · rcases List.mem_append.1 hs' with hs' | hs'
    · exact h.once key v hold s' hs' hkey
    · -- what stands for a value cannot be named again
      obtain rfl := List.mem_singleton.1 hs'
      exact absurd ((h.value_iff key v).2 hold) (hnames.not_value key v hkey)
  · obtain rfl := List.mem_singleton.1 hnew
    rcases List.mem_append.1 hs' with hs' | hs'
    · -- what is given a value has not been named before
      have hnone := (h.none_iff key).1 (hnames.not_some key v rfl)
      exact absurd (List.mem_filterMap.2 ⟨s', hs', hkey⟩) hnone
    · exact List.mem_singleton.1 hs'

theorem keys_ne_nil_of_take {r r' : Reading} {s : Statement} (htake : r.take s = some r')
    (hs : s.isPair = false) : s.keys ≠ [] := by
  cases s with
  | pair keys v => cases hs
  | table keys => rintro rfl; cases htake
  | element keys => rintro rfl; cases htake

theorem Follows.take_named {ss : List Statement} {r r' : Reading} {s : Statement}
    (h : Follows ss r) (htake : r.take s = some r') (hs : s.isPair → r.header = []) :
    Follows (ss ++ [s]) r' := by
  have htop := h.topLevel_concat hs
  have hnames := take_names htake hs
  have hheader := take_header htake
  exact {
    value_iff := fun k v => by simp [hnames.value_iff, h.value_iff, htop, eq_comm]
    none_iff := fun k => by
      rw [hnames.none_iff, h.none_iff]
      simp [namedKeys, htop]
    once := by
      rw [htop]
      exact h.once_concat hnames
    header_iff := by
      by_cases hpair : s.isPair
      · rw [hheader, if_pos hpair, h.header_iff]
        simp [hpair]
      · rw [hheader, if_neg hpair]
        simp [keys_ne_nil_of_take htake (by simpa using hpair), hpair]
    header_named := fun k hk hnone => by
      by_cases hpair : s.isPair
      · rw [hheader, if_pos hpair, hs hpair] at hk
        cases hk
      · rw [hheader, if_neg hpair] at hk
        exact ((hnames.none_iff k).1 hnone).2 hk }

/-- Taking one more statement keeps the agreement. -/
theorem take_follows {ss : List Statement} {r r' : Reading} {s : Statement} (h : Follows ss r)
    (htake : r.take s = some r') : Follows (ss ++ [s]) r' := by
  by_cases hinside : s.isPair ∧ r.header ≠ []
  · exact h.take_pair htake hinside.1 hinside.2
  · exact h.take_named htake (by simpa using hinside)

end Reading

/-- The top of a document agrees with its statements. -/
theorem follows_of_foldlM {ss : List Statement} {r : Reading}
    (h : ss.foldlM Reading.take .start = some r) : r.Follows ss := by
  induction ss using List.reverseRecOn generalizing r with
  | nil =>
    cases h
    exact Reading.follows_start
  | append_singleton ss s ih =>
    rw [List.foldlM_append] at h
    obtain ⟨before, hbefore, htake⟩ := Option.bind_eq_some_iff.1 h
    exact Reading.take_follows (ih hbefore) (by simpa using htake)

/-! ### Other keys at the top -/

theorem topLevel_subset_append (ss others : List Statement) :
    topLevel ss ⊆ topLevel (ss ++ others) := by
  by_cases hall : ss.all Statement.isPair
  · rw [topLevel_append_of_all hall, topLevel_of_all hall]
    exact List.subset_append_left _ _
  · rw [topLevel_append_of_not_all hall]
    exact List.subset_append_left _ _

theorem namedKeys_subset_append (ss others : List Statement) :
    namedKeys ss ⊆ namedKeys (ss ++ others) := fun _ hkey => by
  obtain ⟨s, hs, hhead⟩ := List.mem_filterMap.1 hkey
  exact List.mem_filterMap.2 ⟨s, topLevel_subset_append ss others hs, hhead⟩

namespace Reading

/-- What has been read, after other keys at the top. -/
def onto (others : Members) (r : Reading) : Reading := ⟨others ++ r.root, r.header⟩

theorem take_onto {others : Members} {r : Reading} {s : Statement}
    (hheader : ∀ key, s.isPair → r.header.head? = some key → key ∉ others.map (·.1))
    (hkeys : ∀ key, (s.isPair → r.header = []) → s.keys.head? = some key →
      key ∉ others.map (·.1)) :
    (r.onto others).take s = (r.take s).map (onto others) := by
  obtain ⟨root, header⟩ := r
  cases s with
  | pair keys v =>
    have hroot : Members.insertIn v keys header (others ++ root) =
        (Members.insertIn v keys header root).map (others ++ ·) := by
      match header, keys with
      | [], [] => rfl
      | [], key :: keys => exact Members.insert_append (hkeys key (fun _ => rfl) rfl) root v keys
      | key :: header, keys =>
        exact Members.insertIn_append (hheader key rfl rfl) root v keys header
    simp [take, onto, hroot, Function.comp_def]
  | table keys =>
    have hroot : Members.openTable keys (others ++ root) =
        (Members.openTable keys root).map (others ++ ·) := by
      cases keys with
      | nil => rfl
      | cons key keys =>
        exact Members.openTable_append (hkeys key (by simp [Statement.isPair]) rfl) root keys
    simp [take, onto, hroot, Function.comp_def]
  | element keys =>
    have hroot : Members.openElement keys (others ++ root) =
        (Members.openElement keys root).map (others ++ ·) := by
      cases keys with
      | nil => rfl
      | cons key keys =>
        exact Members.openElement_append (hkeys key (by simp [Statement.isPair]) rfl) root keys
    simp [take, onto, hroot, Function.comp_def]

end Reading

/-- A value under a new key at the top goes to the end. -/
theorem Reading.take_new {others : Members} {key : Text} {v : Value}
    (h : key ∉ others.map (·.1)) :
    take ⟨others, []⟩ (.pair [key] v) = some ⟨others ++ [(key, .value v)], []⟩ := by
  have hset := Members.set_append others [] (.value v) h
  rw [List.append_nil] at hset
  simp [take, Members.insertIn, Members.insert_singleton,
    (Members.get?_eq_none_iff others key).2 h, hset, Members.set]

/-- Statements do not see keys at the top that they do not name. -/
theorem foldlM_onto {others : Members} {ss : List Statement}
    (h : ∀ key ∈ namedKeys ss, key ∉ others.map (·.1)) :
    ss.foldlM Reading.take (Reading.start.onto others) =
      (ss.foldlM Reading.take .start).map (Reading.onto others) := by
  -- from the end, since which keys a statement touches depends on those before it
  induction ss using List.reverseRecOn with
  | nil => rfl
  | append_singleton ss s ih =>
    have hss : ∀ key ∈ namedKeys ss, key ∉ others.map (·.1) := fun key hkey =>
      h key (namedKeys_subset_append ss [s] hkey)
    rw [List.foldlM_append, List.foldlM_append, ih hss]
    cases hr : ss.foldlM Reading.take .start with
    | none => rfl
    | some r =>
      have hfollows := follows_of_foldlM hr
      have htake : (r.onto others).take s = (r.take s).map (Reading.onto others) := by
        refine Reading.take_onto (fun key hpair hkey => ?_) fun key hs hkey => ?_
        · -- a pair below a header touches the header's key, which was named
          have hnamed : key ∈ namedKeys ss := by
            simpa [hfollows.none_iff] using hfollows.header_named key hkey
          exact hss key hnamed
        · refine h key (List.mem_filterMap.2 ⟨s, ?_, hkey⟩)
          rw [hfollows.topLevel_concat hs]
          simp
      simpa using htake

end Toml
end Marginalia
