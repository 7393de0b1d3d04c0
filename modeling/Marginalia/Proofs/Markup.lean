import Marginalia.Proofs.Escaping

/-!
# Markup

A text is markup when it can be read as characters and tags: angle brackets occur only
around tags, the tags are those of a vocabulary, no value of an attribute ends early, and
elements are properly nested.

## Main definitions

* `Html.Attribute`, `Html.Tag` — a tag, and the three ways of writing it.
* `Html.Names`, `Html.Vocabulary` — the names that tags and attributes may have.
* `Html.Markup` — the texts that are markup.
* `Html.tags` — what the opening brackets in a text begin.
* `Html.Tagged` — markup together with the tags in it.

## Main results

* `Html.Tagged.append`, `Html.Tagged.element`, `Html.Tagged.mono` — tagged texts put
  together, and more names.
* `Html.Markup.isTag_of_mem` — **each opening bracket in markup begins a tag.**
* `Html.Markup.not_closing` — markup never closes an element that it cannot open.
-/

namespace Marginalia
namespace Html

/-! ### Tags -/

/-- An attribute in a tag; the value is as it stands between the quotes. -/
structure Attribute where
  /-- The name. -/
  name : Text
  /-- The value. -/
  value : Text

/-- An attribute as it is written, after a space. -/
def Attribute.write (a : Attribute) : Text :=
  ' ' :: a.name ++ "=\"".toList ++ a.value ++ "\"".toList

/-- What a tag says. -/
structure Tag where
  /-- The name of the element. -/
  name : Text
  /-- The attributes. -/
  attributes : List Attribute

namespace Tag

/-- The inside of a tag that is not a closing one. -/
def inside (t : Tag) : Text := t.name ++ t.attributes.flatMap Attribute.write

/-- The tag that opens an element. -/
def opening (t : Tag) : Text := '<' :: t.inside ++ ['>']

/-- The tag that closes an element. -/
def closing (t : Tag) : Text := '<' :: '/' :: t.name ++ ['>']

/-- The tag of an element without content. -/
def void (t : Tag) (slash : Text) : Text := '<' :: t.inside ++ slash ++ ['>']

end Tag

/-- How the tag of an element without content may end. -/
def slashes : List Text := [[], "/".toList, " /".toList]

/-! ### Vocabularies -/

/-- A name of letters and digits. -/
def IsName (t : Text) : Prop := t ≠ [] ∧ ∀ c ∈ t, Text.isAlphanumeric c = true

instance (t : Text) : Decidable (IsName t) :=
  decidable_of_iff ((!t.isEmpty && t.all Text.isAlphanumeric) = true) (by simp [IsName])

theorem IsName.flat {t : Text} (h : IsName t) : Flat t := by
  intro c hc
  constructor
  · rintro rfl
    exact absurd (h.2 _ hc) (by decide)
  · rintro rfl
    exact absurd (h.2 _ hc) (by decide)

/-- The names of elements, each with those of its attributes. -/
structure Names where
  /-- The names. -/
  entries : List (Text × List Text)
  /-- All of them are names. -/
  isName : ∀ entry ∈ entries, IsName entry.1 ∧ ∀ key ∈ entry.2, IsName key

namespace Names

/-- No names. -/
def none : Names := ⟨[], by simp⟩

/-- The names of two lists. -/
def union (m n : Names) : Names where
  entries := m.entries ++ n.entries
  isName := List.forall_mem_append.mpr ⟨m.isName, n.isName⟩

/-- The tag has a listed name, only attributes listed with it, and values that can be
quoted. -/
def Allows (n : Names) (t : Tag) : Prop :=
  ∃ keys, (t.name, keys) ∈ n.entries ∧ ∀ a ∈ t.attributes, a.name ∈ keys ∧ Quotable a.value

variable {m n : Names} {t : Tag}

theorem Allows.mono (h : m.entries ⊆ n.entries) (ht : m.Allows t) : n.Allows t := by
  obtain ⟨keys, hkeys, hattributes⟩ := ht
  exact ⟨keys, h hkeys, hattributes⟩

/-- A tag without attributes. -/
theorem allows_bare {name : Text} {keys : List Text} (h : (name, keys) ∈ n.entries) :
    n.Allows ⟨name, []⟩ :=
  ⟨keys, h, by simp⟩

/-- A tag with one attribute. -/
theorem allows_single {name key value : Text} {keys : List Text} (h : (name, keys) ∈ n.entries)
    (hkey : key ∈ keys) (hvalue : Quotable value) : n.Allows ⟨name, [⟨key, value⟩]⟩ := by
  refine ⟨keys, h, ?_⟩
  intro a ha
  obtain rfl := List.mem_singleton.mp ha
  exact ⟨hkey, hvalue⟩

theorem Allows.isName (ht : n.Allows t) : IsName t.name := by
  obtain ⟨keys, hkeys, -⟩ := ht
  exact (n.isName _ hkeys).1

end Names

theorem flat_write {a : Attribute} (hname : IsName a.name) (hvalue : Quotable a.value) :
    Flat a.write := by
  have hspace : Flat [' '] := by decide
  have hequals : Flat "=\"".toList := by decide
  have hquote : Flat "\"".toList := by decide
  have hkey : Flat (' ' :: a.name ++ "=\"".toList) :=
    flat_append.mpr ⟨flat_append.mpr ⟨hspace, hname.flat⟩, hequals⟩
  exact flat_append.mpr ⟨flat_append.mpr ⟨hkey, hvalue.flat⟩, hquote⟩

/-- No bracket stands inside a tag that is allowed. -/
theorem Names.Allows.flat_inside {n : Names} {t : Tag} (ht : n.Allows t) : Flat t.inside := by
  obtain ⟨keys, hkeys, hattributes⟩ := ht
  obtain ⟨hname, hnames⟩ := n.isName _ hkeys
  refine flat_append.mpr ⟨hname.flat, ?_⟩
  intro c hc
  obtain ⟨a, ha, hc⟩ := List.mem_flatMap.mp hc
  obtain ⟨hkey, hvalue⟩ := hattributes a ha
  exact flat_write (hnames _ hkey) hvalue c hc

/-- The names that may stand in tags. -/
structure Vocabulary where
  /-- Those of the elements that have content. -/
  elements : Names
  /-- Those of the elements without content. -/
  voids : Names

namespace Vocabulary

/-- No names. -/
def empty : Vocabulary := ⟨.none, .none⟩

/-- The names of two vocabularies. -/
def union (v w : Vocabulary) : Vocabulary :=
  ⟨v.elements.union w.elements, v.voids.union w.voids⟩

/-- The tags that a vocabulary allows, as they are written. -/
inductive IsTag (v : Vocabulary) : Text → Prop where
  /-- A tag that opens an element. -/
  | opening {t : Tag} : v.elements.Allows t → IsTag v t.opening
  /-- A tag that closes an element. -/
  | closing {t : Tag} : v.elements.Allows t → IsTag v t.closing
  /-- A tag of an element without content. -/
  | void {t : Tag} {slash : Text} : v.voids.Allows t → slash ∈ slashes → IsTag v (t.void slash)

/-- A tag has its only brackets at its ends. -/
theorem IsTag.eq_body {v : Vocabulary} {tag : Text} (h : v.IsTag tag) :
    ∃ body, tag = '<' :: body ++ ['>'] ∧ Flat body := by
  cases h with
  | @opening t ht => exact ⟨t.inside, rfl, ht.flat_inside⟩
  | @closing t ht =>
    have hslash : Flat ['/'] := by decide
    exact ⟨'/' :: t.name, rfl, flat_append.mpr ⟨hslash, ht.isName.flat⟩⟩
  | @void t slash ht hslash =>
    have hflat : Flat slash := by
      revert slash
      decide
    exact ⟨t.inside ++ slash, rfl, flat_append.mpr ⟨ht.flat_inside, hflat⟩⟩

end Vocabulary

/-! ### Markup -/

/-- A text of characters and tags in which elements are properly nested. -/
inductive Markup (v : Vocabulary) : Text → Prop where
  /-- Nothing. -/
  | nil : Markup v []
  /-- A character. -/
  | char {c : Char} {rest : Text} : c ≠ '<' ∧ c ≠ '>' → Markup v rest → Markup v (c :: rest)
  /-- An element without content. -/
  | void {t : Tag} {slash rest : Text} : v.voids.Allows t → slash ∈ slashes →
      Markup v rest → Markup v (t.void slash ++ rest)
  /-- An element around its content. -/
  | element {t : Tag} {content rest : Text} : v.elements.Allows t →
      Markup v content → Markup v rest → Markup v (t.opening ++ content ++ t.closing ++ rest)

namespace Markup

variable {v w : Vocabulary} {a b : Text}

theorem append (ha : Markup v a) (hb : Markup v b) : Markup v (a ++ b) := by
  induction ha with
  | nil => exact hb
  | char hc _ ih => exact .char hc ih
  | void ht hslash _ ih =>
    rw [List.append_assoc]
    exact .void ht hslash ih
  | element ht hcontent _ _ ih =>
    rw [List.append_assoc]
    exact .element ht hcontent ih

theorem of_flat {t : Text} (h : Flat t) : Markup v t := by
  induction t with
  | nil => exact .nil
  | cons c t ih => exact .char (h c (by simp)) (ih fun d hd => h d (by simp [hd]))

/-- More names make more texts markup. -/
theorem mono (helements : v.elements.entries ⊆ w.elements.entries)
    (hvoids : v.voids.entries ⊆ w.voids.entries) (h : Markup v a) : Markup w a := by
  induction h with
  | nil => exact .nil
  | char hc _ ih => exact .char hc ih
  | void ht hslash _ ih => exact .void (ht.mono hvoids) hslash ih
  | element ht _ _ ih₁ ih₂ => exact .element (ht.mono helements) ih₁ ih₂

end Markup

/-! ### The tags in a text -/

/-- A text up to the first closing bracket, which is part of it. -/
def upToBracket (t : Text) : Text :=
  t.takeWhile (· != '>') ++ (t.dropWhile (· != '>')).take 1

/-- What the opening brackets in a text begin, each up to the next closing bracket. -/
def tags : Text → List Text
  | [] => []
  | c :: t => if c = '<' then ('<' :: upToBracket t) :: tags t else tags t

@[simp] theorem tags_nil : tags [] = [] := rfl

@[simp] theorem tags_cons_lt (t : Text) : tags ('<' :: t) = ('<' :: upToBracket t) :: tags t := rfl

theorem tags_cons {c : Char} (h : c ≠ '<') (t : Text) : tags (c :: t) = tags t := if_neg h

theorem prefix_upToBracket (t : Text) : upToBracket t <+: t := by
  refine ⟨(t.dropWhile (· != '>')).drop 1, ?_⟩
  rw [upToBracket, List.append_assoc, List.take_append_drop, List.takeWhile_append_dropWhile]

theorem upToBracket_append {body : Text} (h : Flat body) (b : Text) :
    upToBracket (body ++ '>' :: b) = body ++ ['>'] := by
  have hbody : ∀ c ∈ body, (c != '>') = true := fun c hc => bne_iff_ne.mpr (h c hc).2
  rw [upToBracket, List.takeWhile_append_of_pos hbody, List.dropWhile_append_of_pos hbody]
  simp

/-- Each opening bracket counts. -/
theorem mem_tags (a b : Text) : '<' :: upToBracket b ∈ tags (a ++ '<' :: b) := by
  induction a with
  | nil => simp
  | cons c a ih =>
    rw [List.cons_append, tags]
    split
    · exact List.mem_cons_of_mem _ ih
    · exact ih

theorem tags_flat_append {a : Text} (h : Flat a) (b : Text) : tags (a ++ b) = tags b := by
  induction a with
  | nil => rfl
  | cons c a ih =>
    rw [List.cons_append, tags_cons (h c (by simp)).1]
    exact ih fun d hd => h d (by simp [hd])

theorem tags_flat {a : Text} (h : Flat a) : tags a = [] := by
  simpa using tags_flat_append h []

namespace Vocabulary.IsTag

variable {v : Vocabulary} {tag : Text}

/-- A tag is read as one. -/
theorem tags_append (h : v.IsTag tag) (b : Text) : tags (tag ++ b) = tag :: tags b := by
  obtain ⟨body, rfl, hflat⟩ := h.eq_body
  have hbracket : '>' ≠ '<' := by decide
  rw [List.append_assoc, List.cons_append, List.singleton_append, tags_cons_lt,
    upToBracket_append hflat, tags_flat_append hflat, tags_cons hbracket]
  rfl

end Vocabulary.IsTag

namespace Markup

variable {v : Vocabulary} {a : Text}

/-- Markup is complete: what follows it is read as it would be alone. -/
theorem tags_append (h : Markup v a) : ∀ b : Text, tags (a ++ b) = tags a ++ tags b := by
  induction h with
  | nil =>
    intro b
    rfl
  | char hc _ ih =>
    intro b
    rw [List.cons_append, tags_cons hc.1, tags_cons hc.1, ih]
  | void ht hslash _ ih =>
    intro b
    have htag := Vocabulary.IsTag.void ht hslash
    rw [List.append_assoc, htag.tags_append, htag.tags_append, ih, List.cons_append]
  | element ht _ _ ih₁ ih₂ =>
    intro b
    have hopen := Vocabulary.IsTag.opening ht
    have hclose := Vocabulary.IsTag.closing ht
    simp only [List.append_assoc, hopen.tags_append, hclose.tags_append, ih₁, ih₂,
      List.cons_append]

/-- **Each opening bracket in markup begins a tag.** -/
theorem isTag_of_mem (h : Markup v a) : ∀ tag ∈ tags a, v.IsTag tag := by
  induction h with
  | nil => simp
  | char hc _ ih =>
    rw [tags_cons hc.1]
    exact ih
  | void ht hslash _ ih =>
    have htag := Vocabulary.IsTag.void ht hslash
    rw [htag.tags_append]
    exact List.forall_mem_cons.mpr ⟨htag, ih⟩
  | element ht hcontent _ ih₁ ih₂ =>
    have hopen := Vocabulary.IsTag.opening ht
    have hclose := Vocabulary.IsTag.closing ht
    rw [List.append_assoc, List.append_assoc, hopen.tags_append, hcontent.tags_append,
      hclose.tags_append]
    exact List.forall_mem_cons.mpr
      ⟨hopen, List.forall_mem_append.mpr ⟨ih₁, List.forall_mem_cons.mpr ⟨hclose, ih₂⟩⟩⟩

/-- Markup never closes an element that it cannot open. -/
theorem not_closing (h : Markup v a) {n : Text} (hn : IsName n)
    (hnot : n ∉ v.elements.entries.map Prod.fst) {tag : Text}
    (hclosing : tag = '<' :: '/' :: n ++ ['>']) : ¬ tag <:+: a := by
  subst hclosing
  rintro ⟨x, y, ha⟩
  have hslash : Flat ['/'] := by decide
  have hflat : Flat ('/' :: n) := flat_append.mpr ⟨hslash, hn.flat⟩
  -- the bracket in `tag` begins a tag, which is all of `tag` as nothing in it ends sooner
  have htag : v.IsTag ('<' :: '/' :: n ++ ['>']) := by
    have hmem := mem_tags x ('/' :: n ++ '>' :: y)
    rw [upToBracket_append hflat] at hmem
    refine h.isTag_of_mem _ ?_
    simpa [← ha] using hmem
  -- a tag that does not close anything goes on with its name
  have hinside : ∀ (s : Tag) (tail : Text), IsName s.name →
      '<' :: '/' :: n ++ ['>'] ≠ '<' :: s.inside ++ tail := by
    intro s tail hname heq
    obtain ⟨c, name, hc⟩ := List.exists_cons_of_ne_nil hname.1
    rw [Tag.inside, hc] at heq
    obtain rfl : '/' = c := (List.cons.inj (List.cons.inj heq).2).1
    exact absurd (hname.2 '/' (by simp [hc])) (by decide)
  generalize htext : '<' :: '/' :: n ++ ['>'] = text at htag hinside
  cases htag with
  | @opening s hs => exact hinside s ['>'] hs.isName rfl
  | @closing s hs =>
    obtain ⟨keys, hkeys, -⟩ := hs
    have hname : n = s.name := by simpa [Tag.closing] using htext
    exact hnot (hname ▸ List.mem_map_of_mem hkeys)
  | @void s slash hs hslash =>
    refine hinside s (slash ++ ['>']) hs.isName ?_
    rw [Tag.void, List.append_assoc]

end Markup

/-! ### Tagged texts -/

/-- The text `t` is markup, and the tags in it are `ts`. -/
structure Tagged (v : Vocabulary) (t : Text) (ts : List Text) : Prop where
  markup : Markup v t
  tags_eq : tags t = ts

namespace Tagged

variable {v w : Vocabulary} {a b : Text} {as bs : List Text}

theorem of_flat (h : Flat a) : Tagged v a [] := ⟨.of_flat h, tags_flat h⟩

theorem append (ha : Tagged v a as) (hb : Tagged v b bs) : Tagged v (a ++ b) (as ++ bs) := by
  refine ⟨ha.markup.append hb.markup, ?_⟩
  rw [ha.markup.tags_append, ha.tags_eq, hb.tags_eq]

/-- A tag without content. -/
theorem void {t : Tag} {slash : Text} (ht : v.voids.Allows t) (hslash : slash ∈ slashes) :
    Tagged v (t.void slash) [t.void slash] := by
  constructor
  · simpa using Markup.void ht hslash .nil
  · simpa using (Vocabulary.IsTag.void ht hslash).tags_append []

/-- An element around a tagged text. -/
theorem element {t : Tag} (ht : v.elements.Allows t) (ha : Tagged v a as) :
    Tagged v (t.opening ++ a ++ t.closing) (t.opening :: as ++ [t.closing]) := by
  have hopen := Vocabulary.IsTag.opening ht
  have hclose := (Vocabulary.IsTag.closing ht).tags_append []
  constructor
  · simpa using Markup.element ht ha.markup .nil
  · rw [List.append_assoc, hopen.tags_append, ha.markup.tags_append, ha.tags_eq]
    simpa using hclose

theorem flatMap {α : Type} {f : α → Text} {g : α → List Text} {xs : List α}
    (h : ∀ x ∈ xs, Tagged v (f x) (g x)) : Tagged v (xs.flatMap f) (xs.flatMap g) := by
  induction xs with
  | nil => exact of_flat flat_nil
  | cons x xs ih =>
    rw [List.flatMap_cons, List.flatMap_cons]
    exact (h x (by simp)).append (ih fun y hy => h y (by simp [hy]))

theorem union_left (h : Tagged v a as) : Tagged (v.union w) a as :=
  ⟨h.markup.mono (List.subset_append_left _ _) (List.subset_append_left _ _), h.tags_eq⟩

theorem union_right (h : Tagged w a as) : Tagged (v.union w) a as :=
  ⟨h.markup.mono (List.subset_append_right _ _) (List.subset_append_right _ _), h.tags_eq⟩

theorem isTag (h : Tagged v a as) : ∀ tag ∈ as, v.IsTag tag := by
  intro tag htag
  rw [← h.tags_eq] at htag
  exact h.markup.isTag_of_mem tag htag

/-- Each opening bracket begins one of the tags. -/
theorem exists_tag (h : Tagged v a as) {x y : Text} (ha : a = x ++ '<' :: y) :
    ∃ tag ∈ as, tag <+: '<' :: y := by
  subst ha
  refine ⟨'<' :: upToBracket y, ?_, (List.prefix_cons_inj _).mpr (prefix_upToBracket y)⟩
  rw [← h.tags_eq]
  exact mem_tags x y

end Tagged
end Html
end Marginalia
