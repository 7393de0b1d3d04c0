import Marginalia.Proofs.ProseMarkup

/-!
# Tags that are never written

Whatever the events of a document are, each opening bracket that is written for them begins
a tag of the writer, unless there is HTML among them.  So a closing tag that is not one of the
writer's never comes up.  This needs nothing of how the events follow one another, and holds
with any extensions: the only events that close a `div` are those for footnotes.

## Main definitions

* `Html.spares` — the tag with a body is not begun in a text, nor could it be begun there and
  completed by what follows.
* `Html.IsForeign` — a closing tag that closes no element of the writer.

## Main results

* `Html.spares_append`, `Html.not_infix_of_spares` — spared tags.
* `Markdown.Writer.spares_step`, `Markdown.Writer.spares_run` — what one event and what all
  events are written as.
* `Markdown.not_infix_write` — **no foreign tag is written**, and no `</div>` without
  footnotes.
-/

namespace Marginalia
namespace Html

/-! ### Spared tags -/

/-- Two texts differ before one of them ends. -/
def differ (a b : Text) : Bool := !a.isPrefixOf b && !b.isPrefixOf a

/-- No opening bracket in a text is followed by `body`, nor could it be after more text. -/
def spares (body : Text) : Text → Bool
  | [] => true
  | c :: t => (c != '<' || differ body t) && spares body t

variable {body a b : Text}

theorem differ_iff : differ a b = true ↔ ¬ a <+: b ∧ ¬ b <+: a := by
  simp [differ, ← List.isPrefixOf_iff_prefix]

theorem differ_append (h : differ body a = true) (b : Text) : differ body (a ++ b) = true := by
  obtain ⟨hbody, ha⟩ := differ_iff.mp h
  refine differ_iff.mpr ⟨?_, ?_⟩
  · -- a beginning of `a ++ b` is one of `a`, or has `a` as a beginning
    intro hprefix
    rcases List.prefix_or_prefix_of_prefix hprefix (List.prefix_append a b) with h | h
    · exact hbody h
    · exact ha h
  · intro hprefix
    exact ha ((List.prefix_append a b).trans hprefix)

theorem spares_append :
    spares body a = true → spares body b = true → spares body (a ++ b) = true := by
  intro ha hb
  induction a with
  | nil => exact hb
  | cons c a ih =>
    simp only [spares, Bool.and_eq_true, Bool.or_eq_true] at ha
    simp only [List.cons_append, spares, Bool.and_eq_true, Bool.or_eq_true]
    exact ⟨ha.1.imp_right (differ_append · b), ih ha.2⟩

/-- A spared tag is not in the text. -/
theorem not_infix_of_spares (h : spares body a = true) : ¬ ('<' :: body) <:+: a := by
  rintro ⟨x, y, rfl⟩
  induction x with
  | nil =>
    simp only [List.nil_append, List.cons_append, spares, Bool.and_eq_true] at h
    -- a text does not differ from itself with more behind it
    have hdiffer : differ body (body ++ y) = true := by simpa using h.1
    exact (differ_iff.mp hdiffer).1 (List.prefix_append body y)
  | cons c x ih =>
    simp only [List.cons_append, spares, Bool.and_eq_true] at h
    exact ih h.2

theorem spares_of_notMem (h : '<' ∉ a) : spares body a = true := by
  induction a with
  | nil => rfl
  | cons c a ih =>
    obtain ⟨hc, ha⟩ := not_or.mp (List.mem_cons.not.mp h)
    simp [spares, Ne.symm hc, ih ha]

theorem spares_of_flat (h : Flat a) : spares body a = true :=
  spares_of_notMem fun hmem => (h _ hmem).1 rfl

theorem flat_cons {c : Char} (hc : c ≠ '<' ∧ c ≠ '>') (h : Flat a) : Flat (c :: a) :=
  List.forall_mem_cons.mpr ⟨hc, h⟩

theorem flat_flatMap {α : Type} {f : α → Text} {xs : List α} (h : ∀ x ∈ xs, Flat (f x)) :
    Flat (xs.flatMap f) := by
  intro c hc
  obtain ⟨x, hx, hc⟩ := List.mem_flatMap.mp hc
  exact h x hx c hc

theorem spares_newlineIf (wanted : Bool) : spares body (newlineIf wanted) = true := by
  refine spares_of_flat ?_
  cases wanted <;> decide

theorem differ_of_head {c d : Char} (h : c ≠ d) : differ (c :: a) (d :: b) = true := by
  rw [differ_iff, List.cons_prefix_cons, List.cons_prefix_cons]
  exact ⟨fun hprefix => h hprefix.1, fun hprefix => h hprefix.1.symm⟩

theorem differ_cons {c : Char} (h : differ a b = true) : differ (c :: a) (c :: b) = true := by
  rw [differ_iff, List.cons_prefix_cons, List.cons_prefix_cons]
  obtain ⟨hab, hba⟩ := differ_iff.mp h
  exact ⟨fun hprefix => hab hprefix.2, fun hprefix => hba hprefix.2⟩

/-- A tag alone is spared if it differs. -/
theorem spares_tag (h : differ body (a ++ ['>']) = true) (ha : Flat a) :
    spares body ('<' :: a ++ ['>']) = true := by
  have hinside : spares body (a ++ ['>']) = true :=
    spares_append (spares_of_flat ha) (spares_of_notMem (by decide))
  rw [List.cons_append, spares, h, hinside]
  rfl

/-- No opening bracket in a text begins a closing tag. -/
def opensOnly : Text → Bool
  | [] => true
  | [c] => c != '<'
  | c :: d :: t => (c != '<' || d != '/') && opensOnly (d :: t)

theorem spares_of_opensOnly (h : opensOnly a = true) : spares ('/' :: body) a = true := by
  induction a using opensOnly.induct with
  | case1 => rfl
  | case2 c =>
    have hc : c ≠ '<' := by simpa [opensOnly] using h
    simp [spares, hc]
  | case3 c d t ih =>
    simp only [opensOnly, Bool.and_eq_true, Bool.or_eq_true, bne_iff_ne] at h
    rw [spares, ih h.2, Bool.and_true, Bool.or_eq_true, bne_iff_ne]
    exact h.1.imp_right fun hd => differ_of_head (Ne.symm hd)

/-! ### Elements -/

theorem Element.flat_inside (e : Element) : Flat (e.name ++ e.attributes) := by
  by_cases h : e.Levelled
  · have hallowed := Element.allows h
    rw [e.attributes_eq]
    exact hallowed.flat_inside
  · -- a heading of any level has a number in its name and no attributes
    cases e with
    | heading level =>
      have hletter : Flat "h".toList := by decide
      exact flat_append.mpr ⟨flat_append.mpr ⟨hletter, (quotable_decimal level).flat⟩, flat_nil⟩
    | _ => exact absurd trivial h

theorem Element.exists_name (e : Element) : ∃ c rest, e.name = c :: rest ∧ c ≠ '/' := by
  cases e <;> exact ⟨_, _, rfl, by decide⟩

theorem Void.exists_inside (v : Void) : ∃ c rest, v.parts.inside = c :: rest ∧ c ≠ '/' := by
  cases v <;> exact ⟨_, _, rfl, by decide⟩

/-- A closing tag with the name `n` closes none of the elements that are written, but maybe
the text of a footnote. -/
structure IsForeign (n : Text) : Prop where
  /-- It closes no element of the vocabulary. -/
  element : ∀ e : Element, differ (n ++ ['>']) (e.name ++ ['>']) = true
  /-- Nor one that other extensions bring in. -/
  others : ∀ t ∈ ["</dl>\n", "</dt>\n", "</dd>\n", "</sup>", "</sub>", "</span>", "</a></sup>"],
    spares ('/' :: (n ++ ['>'])) t.toList = true

end Html

namespace Markdown

open Html

/-! ### Pieces -/

/-- What is written spares a tag. -/
def Writing.Spares (body : Text) (f : Writing) : Prop := ∀ w, spares body (f w).1 = true

namespace Writing.Spares

variable {n body t : Text} {f g : Writing}

theorem nothing : Spares body nothing := fun _ => rfl

theorem remember (h : Writer → Writer) : Spares body (remember h) := fun _ => rfl

theorem put (h : spares body t = true) : Spares body (put t) := fun _ => h

theorem onFreshLine (h : spares body t = true) : Spares body (onFreshLine t) :=
  fun _ => spares_append (spares_newlineIf _) h

theorem andThen (hf : Spares body f) (hg : Spares body g) : Spares body (f.andThen g) :=
  fun w => spares_append (hf w) (hg _)

theorem opening (e : Element) : Spares ('/' :: body) (opening e) := by
  obtain ⟨c, rest, hname, hc⟩ := e.exists_name
  have htag : spares ('/' :: body) e.openTag = true := by
    refine spares_tag ?_ e.flat_inside
    rw [hname]
    exact differ_of_head (Ne.symm hc)
  exact fun w => spares_append (spares_append (spares_newlineIf _) htag) (spares_newlineIf _)

theorem closing (hn : IsForeign n) (e : Element) :
    Spares ('/' :: (n ++ ['>'])) (closing e) := by
  have hslash : Flat ['/'] := by decide
  have hname : Flat e.name := (flat_append.mp e.flat_inside).1
  have htag : spares ('/' :: (n ++ ['>'])) e.closeTag = true := by
    refine spares_tag (a := '/' :: e.name) ?_ (flat_append.mpr ⟨hslash, hname⟩)
    exact differ_cons (hn.element e)
  exact fun w => spares_append htag (spares_newlineIf _)

theorem void (v : Void) : Spares ('/' :: body) (void v) := by
  have htag : spares ('/' :: body) v.tag = true := by
    have hslash : Flat v.slash := by
      have hslashes : ∀ t ∈ slashes, Flat t := by decide
      exact hslashes _ v.slash_mem
    obtain ⟨c, rest, hinside, hc⟩ := v.exists_inside
    rw [v.tag_eq, Tag.void, List.cons_append]
    refine spares_tag ?_ (flat_append.mpr ⟨v.allows.flat_inside, hslash⟩)
    rw [hinside]
    exact differ_of_head (Ne.symm hc)
  exact fun w => spares_append (spares_append (spares_newlineIf _) htag) (spares_newlineIf _)

theorem numbered {name : Text} {rest : Nat → Writing} (h : ∀ i, Spares body (rest i)) :
    Spares body (Writer.numbered name rest) := fun _ => h _ _

end Writing.Spares

/-! ### Events -/

namespace Writer

variable {n body : Text}

theorem flat_alertAttribute (alert : Option Alert) : Flat (alertAttribute alert) := by
  unfold alertAttribute
  cases alert with
  | none => decide
  | some alert => cases alert <;> decide

theorem flat_headingNames (id : Option Text) (classes : List Text) :
    Flat (headingNames id classes) := by
  have hid : Flat " id=\"".toList := by decide
  have hclass : Flat " class=\"".toList := by decide
  have hquote : Flat "\"".toList := by decide
  unfold headingNames
  refine flat_append.mpr ⟨?_, ?_⟩
  · cases id with
    | none => exact flat_nil
    | some id =>
      exact flat_append.mpr ⟨flat_append.mpr ⟨hid, (quotable_escapeAttribute id).flat⟩, hquote⟩
  · cases classes with
    | nil => exact flat_nil
    | cons first others =>
      refine flat_append.mpr ⟨flat_append.mpr ⟨flat_append.mpr
        ⟨hclass, (quotable_escapeAttribute first).flat⟩, ?_⟩, hquote⟩
      exact flat_flatMap fun name _ => flat_cons (by decide) (quotable_escapeAttribute name).flat

theorem flat_headingAttribute (entry : Text × Option Text) : Flat (headingAttribute entry) := by
  have hequals : Flat "=\"".toList := by decide
  have hquote : Flat "\"".toList := by decide
  have hvalue : Flat (entry.2.elim [] escapeAttribute) := by
    cases entry.2 with
    | none => exact flat_nil
    | some value => exact (quotable_escapeAttribute value).flat
  refine flat_append.mpr ⟨flat_append.mpr ⟨flat_append.mpr ⟨?_, hequals⟩, hvalue⟩, hquote⟩
  exact flat_cons (by decide) (quotable_escapeAttribute entry.1).flat

/-- What is written where something begins. -/
theorem spares_begin (hn : IsForeign n) (c : Container) :
    Writing.Spares ('/' :: (n ++ ['>'])) (begin c) := by
  unfold begin
  cases c with
  | paragraph => exact .opening _
  | heading level id classes attributes =>
    have hname : Flat (Element.heading level).name :=
      (flat_append.mp (Element.heading level).flat_inside).1
    have hattributes : Flat (attributes.flatMap headingAttribute) :=
      flat_flatMap fun entry _ => flat_headingAttribute entry
    refine .onFreshLine (spares_tag ?_ (flat_append.mpr
      ⟨flat_append.mpr ⟨hname, flat_headingNames id classes⟩, hattributes⟩))
    exact differ_of_head (by decide)
  | quote alert =>
    have htag : spares ('/' :: (n ++ ['>'])) "<blockquote".toList = true :=
      spares_of_opensOnly (by decide)
    exact .onFreshLine (spares_append
      (spares_append htag (spares_of_flat (flat_alertAttribute alert)))
      (spares_of_notMem (by decide)))
  | codeBlock info => exact .andThen (.opening _) (.opening _)
  | htmlBlock => exact .nothing
  | list start => exact .opening _
  | item => exact .opening _
  | footnote name =>
    -- only the name and the number come from the document
    refine .numbered fun i => .onFreshLine (spares_append (spares_append (spares_append
      (spares_append ?_ ?_) ?_) ?_) ?_)
    · exact spares_of_opensOnly (by decide)
    · exact spares_of_flat (quotable_escapeAttribute name).flat
    · exact spares_of_opensOnly (by decide)
    · exact spares_of_flat (quotable_decimal i).flat
    · exact hn.others _ (by simp)
  | definitions => exact .onFreshLine (spares_of_opensOnly (by decide))
  | term => exact .onFreshLine (spares_of_opensOnly (by decide))
  | definition => exact .onFreshLine (spares_of_opensOnly (by decide))
  | table columns => exact .andThen (.remember _) (.opening _)
  | tableHead => exact .andThen (.remember _) (.andThen (.opening _) (.opening _))
  | tableRow => exact .andThen (.remember _) (.opening _)
  | tableCell => exact fun w => Writing.Spares.opening _ w
  | emphasis => exact .opening _
  | strong => exact .opening _
  | deleted => exact .opening _
  | superscript => exact .put (spares_of_opensOnly (by decide))
  | subscript => exact .put (spares_of_opensOnly (by decide))
  | link url title => exact .opening _
  | image url title =>
    refine .andThen (.remember _) (.put (spares_append (spares_append ?_ ?_) ?_))
    · exact spares_of_opensOnly (by decide)
    · exact spares_of_flat (quotable_escapeUrl url).flat
    · exact spares_of_notMem (by decide)
  | metadata => exact .remember _

/-- What is written where something ends. -/
theorem spares_finish (hn : IsForeign n) {c : Container}
    (hc : ∀ name, c = .footnote name → spares ('/' :: (n ++ ['>'])) "</div>\n".toList = true) :
    Writing.Spares ('/' :: (n ++ ['>'])) (finish c) := by
  have hothers := hn.others
  unfold finish
  cases c with
  | paragraph => exact .closing hn _
  | heading level id classes attributes => exact .closing hn _
  | quote alert => exact .closing hn _
  | codeBlock info => exact .andThen (.closing hn _) (.closing hn _)
  | htmlBlock => exact .nothing
  | list start => exact .closing hn _
  | item => exact .closing hn _
  | footnote name => exact .put (hc name rfl)
  | definitions => exact .put (hothers _ (by simp))
  | term => exact .put (hothers _ (by simp))
  | definition => exact .put (hothers _ (by simp))
  | table columns => exact .andThen (.closing hn _) (.closing hn _)
  | tableHead =>
    exact .andThen (.remember _) (.andThen (.closing hn _) (.andThen (.closing hn _) (.opening _)))
  | tableRow => exact .andThen (.closing hn _) (.put (spares_of_notMem (by decide)))
  | tableCell => exact fun w => (Writing.Spares.andThen (.remember _) (.closing hn _)) w
  | emphasis => exact .closing hn _
  | strong => exact .closing hn _
  | deleted => exact .closing hn _
  | superscript => exact .put (hothers _ (by simp))
  | subscript => exact .put (hothers _ (by simp))
  | link url title => exact .closing hn _
  | image url title => exact .nothing
  | metadata => exact .remember _

/-- An event outside of images. -/
theorem spares_write (hn : IsForeign n) {e : Event} (hhtml : e.isHtml = false)
    (hnote : e.isFootnote = true → spares ('/' :: (n ++ ['>'])) "</div>\n".toList = true) :
    Writing.Spares ('/' :: (n ++ ['>'])) (write e) := by
  unfold write
  cases e with
  | start c => exact spares_begin hn c
  | stop c => exact spares_finish hn (by rintro name rfl; exact hnote rfl)
  | text t =>
    intro w
    dsimp only
    split
    · rfl
    · exact spares_of_flat (flat_escapeText t)
  | code t =>
    exact .andThen (.opening _) (.andThen (.put (spares_of_flat (flat_escapeText t)))
      (.closing hn _))
  | formula display t =>
    refine .put (spares_append (spares_append ?_ ?_) ?_)
    · cases display <;> exact spares_of_opensOnly (by decide)
    · exact spares_of_flat (quotable_escapeAttribute t).flat
    · exact hn.others _ (by simp)
  | html t => cases hhtml
  | inlineHtml t => cases hhtml
  | footnoteReference name =>
    refine .numbered fun i => .put (spares_append (spares_append (spares_append
      (spares_append ?_ ?_) ?_) ?_) ?_)
    · exact spares_of_opensOnly (by decide)
    · exact spares_of_flat (quotable_escapeAttribute name).flat
    · exact spares_of_notMem (by decide)
    · exact spares_of_flat (quotable_decimal i).flat
    · exact hn.others _ (by simp)
  | softBreak => exact .put (spares_of_notMem (by decide))
  | hardBreak => exact .void _
  | rule => exact .void _
  | task ticked => exact .void _

theorem flat_titleAttribute (title : Text) : Flat (titleAttribute title) := by
  have hname : Flat " title=\"".toList := by decide
  have hquote : Flat "\"".toList := by decide
  unfold titleAttribute
  split
  · exact flat_nil
  · exact flat_append.mpr ⟨flat_append.mpr ⟨hname, (quotable_escapeAttribute title).flat⟩, hquote⟩

theorem spares_endImage (title : Text) : Writing.Spares body (endImage title) :=
  .andThen (.remember _) (.put (spares_append
    (spares_append (spares_of_notMem (by decide)) (spares_of_flat (flat_titleAttribute title)))
    (spares_of_notMem (by decide))))

/-- An event in the description of an image: there are no brackets in it. -/
theorem spares_describe (i : OpenImage) (e : Event) : Writing.Spares body (describe i e) := by
  unfold describe
  cases e with
  | start c => exact .remember _
  | stop c =>
    dsimp only
    split
    · exact spares_endImage i.title
    · exact .remember _
  | text t => exact fun w => spares_of_flat (quotable_escapeAttribute t).flat
  | code t => exact fun w => spares_of_flat (quotable_escapeAttribute t).flat
  | inlineHtml t => exact fun w => spares_of_flat (quotable_escapeAttribute t).flat
  | formula display t =>
    have hmark : Flat (if display then "$$".toList else "$".toList) := by
      cases display <;> decide
    exact .put (spares_of_flat (flat_append.mpr
      ⟨flat_append.mpr ⟨hmark, (quotable_escapeAttribute t).flat⟩, hmark⟩))
  | html t => exact .nothing
  | footnoteReference name =>
    have hclose : Flat [']'] := by decide
    exact .numbered fun i => .put (spares_of_flat (flat_cons (by decide)
      (flat_append.mpr ⟨(quotable_decimal i).flat, hclose⟩)))
  | softBreak => exact .put (spares_of_notMem (by decide))
  | hardBreak => exact .put (spares_of_notMem (by decide))
  | rule => exact .put (spares_of_notMem (by decide))
  | task ticked =>
    refine .put (spares_of_notMem ?_)
    cases ticked <;> decide

/-- **One event writes no foreign tag**, whatever came before it. -/
theorem spares_step (hn : IsForeign n) {e : Event} (hhtml : e.isHtml = false)
    (hnote : e.isFootnote = true → spares ('/' :: (n ++ ['>'])) "</div>\n".toList = true) :
    Writing.Spares ('/' :: (n ++ ['>'])) (step e) := by
  intro w
  unfold step
  split
  · exact spares_write hn hhtml hnote w
  · -- in the description of an image no tags are written at all
    exact spares_describe _ e w

/-- Nor do all of them, one after another. -/
theorem spares_run (hn : IsForeign n) {es : List Event} (hhtml : ∀ e ∈ es, e.isHtml = false)
    (hnote : (∃ e ∈ es, e.isFootnote = true) →
      spares ('/' :: (n ++ ['>'])) "</div>\n".toList = true) :
    Writing.Spares ('/' :: (n ++ ['>'])) (run es) := by
  induction es with
  | nil => exact .nothing
  | cons e es ih =>
    obtain ⟨he, hes⟩ := List.forall_mem_cons.mp hhtml
    refine .andThen (spares_step hn he fun hfoot => hnote ⟨e, by simp, hfoot⟩) (ih hes ?_)
    rintro ⟨e', he', hfoot⟩
    exact hnote ⟨e', List.mem_cons_of_mem _ he', hfoot⟩

end Writer

/-- **No foreign tag is written**, whatever the events are, when HTML among them has been
turned into text; what closes the text of a footnote is only written if there is one. -/
theorem not_infix_write {n : Text} (hn : IsForeign n) {es : List Event}
    (hhtml : ∀ e ∈ es, e.isHtml = false) (hnote : (∃ e ∈ es, e.isFootnote = true) →
      spares ('/' :: (n ++ ['>'])) "</div>\n".toList = true) :
    ¬ ('<' :: '/' :: (n ++ ['>'])) <:+: write es := by
  -- at the end an image may be open, which is closed then
  refine not_infix_of_spares (spares_append (Writer.spares_run hn hhtml hnote {}) ?_)
  unfold Writer.rest
  split
  · rfl
  · exact Writer.spares_endImage _ _

/-! ### The frame -/

theorem isForeign_div : IsForeign "div".toList where
  element e := by
    cases e with
    | heading level => exact differ_of_head (by decide)
    | _ => rfl
  others := by decide

theorem isForeign_section : IsForeign "section".toList where
  element e := by
    cases e with
    | heading level => exact differ_of_head (by decide)
    | _ => rfl
  others := by decide

end Markdown
end Marginalia
