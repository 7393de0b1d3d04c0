import Marginalia.Markdown

/-!
# The levels of headings

HTML has headings of six levels.  A document has no others: the levels come from number
signs that have been counted and from underlines, and nothing that happens to a block while
a document is being read changes the level of a heading in it.

## Main definitions

* `Html.IsLevel`, `Markdown.Block.Levelled` — a level, and a block whose headings are of levels
  from one to six.
* `Markdown.Progress.drafts`, `Markdown.Progress.Levelled` — the blocks that have been
  completed in the middle of a document.

## Main results

* `Markdown.Progress.Levelled.readLine` — reading a line keeps headings levelled.
* `Markdown.levelled_readBlocks`, `Markdown.levelled_read` — **the headings of a document
  are of levels from one to six.**
-/

namespace Marginalia

/-- What each step of a scan keeps, the whole scan keeps. -/
theorem Text.scanFrom_invariant {σ α : Type} {P : σ → Prop} {step : σ → α → List α → σ × Nat}
    (hstep : ∀ s a rest, P s → P (step s a rest).1) :
    ∀ (xs : List α) (skip : Nat) (s : σ), P s → P (Text.scanFrom step xs skip s) := by
  intro xs
  induction xs with
  | nil =>
    intro skip s hs
    cases skip <;> exact hs
  | cons a rest ih =>
    intro skip s hs
    cases skip with
    | zero => exact ih _ _ (hstep s a rest hs)
    | succ skip => exact ih skip s hs

/-- A level that a heading can have. -/
def Html.IsLevel (level : Nat) : Prop := 1 ≤ level ∧ level ≤ 6

instance (level : Nat) : Decidable (Html.IsLevel level) := inferInstanceAs (Decidable (_ ∧ _))

namespace Markdown

open Html (IsLevel)

/-! ### Blocks -/

namespace Block

variable {α β : Type}

mutual

/-- All headings in the block are of levels that there are. -/
def Levelled : Block α → Prop
  | .heading level _ => IsLevel level
  | .quote content => LevelledList content
  | .list _ items => LevelledItems items
  | _ => True

/-- All headings in the blocks are of levels that there are. -/
def LevelledList : List (Block α) → Prop
  | [] => True
  | b :: bs => Levelled b ∧ LevelledList bs

/-- All headings in the items are of levels that there are. -/
def LevelledItems : List (List (Block α)) → Prop
  | [] => True
  | item :: items => LevelledList item ∧ LevelledItems items

end

theorem levelledList_iff : ∀ {bs : List (Block α)}, LevelledList bs ↔ ∀ b ∈ bs, Levelled b := by
  intro bs
  induction bs with
  | nil => simp [LevelledList]
  | cons b bs ih => simp [LevelledList, ih]

theorem levelledItems_iff :
    ∀ {items : List (List (Block α))},
      LevelledItems items ↔ ∀ item ∈ items, ∀ b ∈ item, Levelled b := by
  intro items
  induction items with
  | nil => simp [LevelledItems]
  | cons item items ih => simp [LevelledItems, levelledList_iff, ih]

@[simp] theorem levelled_quote {content : List (Block α)} :
    (Block.quote content).Levelled ↔ ∀ b ∈ content, Levelled b := by
  rw [Levelled, levelledList_iff]

@[simp] theorem levelled_list {start : Option Nat} {items : List (List (Block α))} :
    (Block.list start items).Levelled ↔ ∀ item ∈ items, ∀ b ∈ item, Levelled b := by
  rw [Levelled, levelledItems_iff]

theorem Levelled.tighten {b : Block α} (h : b.Levelled) : b.tighten.Levelled := by
  cases b with
  | paragraph prose => trivial
  | _ => exact h

mutual

theorem Levelled.map (f : α → β) : ∀ {b : Block α}, b.Levelled → (b.map f).Levelled
  | .paragraph _, _ => by simp only [Block.map, Levelled]
  | .plain _, _ => by simp only [Block.map, Levelled]
  | .heading _ _, h => by simpa only [Block.map, Levelled] using h
  | .rule, _ => by simp only [Block.map, Levelled]
  | .code _ _, _ => by simp only [Block.map, Levelled]
  | .html _, _ => by simp only [Block.map, Levelled]
  | .quote content, h => by
    rw [Levelled] at h
    rw [Block.map, Levelled]
    exact LevelledList.map f h
  | .list start items, h => by
    rw [Levelled] at h
    rw [Block.map, Levelled]
    exact LevelledItems.map f h
  | .table _ _ _, _ => by simp only [Block.map, Levelled]

theorem LevelledList.map (f : α → β) :
    ∀ {bs : List (Block α)}, LevelledList bs → LevelledList (mapList f bs)
  | [], _ => by simp only [mapList, LevelledList]
  | _ :: _, h => by
    rw [LevelledList] at h
    rw [mapList, LevelledList]
    exact ⟨Levelled.map f h.1, LevelledList.map f h.2⟩

theorem LevelledItems.map (f : α → β) :
    ∀ {items : List (List (Block α))}, LevelledItems items → LevelledItems (mapItems f items)
  | [], _ => by simp only [mapItems, LevelledItems]
  | _ :: _, h => by
    rw [LevelledItems] at h
    rw [mapItems, LevelledItems]
    exact ⟨LevelledList.map f h.1, LevelledItems.map f h.2⟩

end

end Block

/-! ### Marks of headings -/

theorem isLevel_headingLevel? {t : Text} {level : Nat} (h : headingLevel? t = some level) :
    IsLevel level := by
  simp only [headingLevel?, Option.ite_none_right_eq_some, Bool.and_eq_true,
    decide_eq_true_eq, Option.some.injEq] at h
  obtain ⟨⟨⟨hlow, hhigh⟩, -⟩, rfl⟩ := h
  exact ⟨hlow, hhigh⟩

theorem isLevel_underlineLevel? {t : Text} {level : Nat} (h : underlineLevel? t = some level) :
    IsLevel level := by
  unfold underlineLevel? at h
  split at h
  · obtain ⟨-, hlevel⟩ := Option.ite_none_right_eq_some.mp h
    obtain rfl := Option.some.inj hlevel
    decide
  · obtain ⟨-, hlevel⟩ := Option.ite_none_right_eq_some.mp h
    obtain rfl := Option.some.inj hlevel
    decide
  · cases h

theorem Onward.isLevel_underline? {w : Onward} {level : Nat} (h : w.underline? = some level) :
    IsLevel level := by
  obtain ⟨-, hlevel⟩ := Option.ite_none_right_eq_some.mp h
  exact isLevel_underlineLevel? hlevel

theorem isLevel_underline {o : Options} {frames : List Frame} :
    ∀ (rest : List Text) (t : Text) {level : Nat},
      (proseFrom o frames t rest).underline = some level → IsLevel level := by
  intro rest
  induction rest with
  | nil =>
    intro t level h
    cases h
  | cons line rest ih =>
    intro t level h
    unfold proseFrom at h
    dsimp only at h
    split at h
    · next level' hunderline =>
      cases h
      exact Onward.isLevel_underline? hunderline
    · split at h
      · exact ih line h
      · cases h

/-! ### Completed blocks -/

/-- The blocks completed in a frame. -/
def Frame.drafts : Frame → List Draft
  | .quote content => content
  | .list _ _ items current => items.flatten ++ current.elim [] OpenItem.content

@[simp] theorem Frame.drafts_quote (content : List Draft) :
    (Frame.quote content).drafts = content := rfl

@[simp] theorem Frame.drafts_list_none (mark : ListMark) (tight : Bool)
    (items : List (List Draft)) : (Frame.list mark tight items none).drafts = items.flatten := by
  simp [drafts]

@[simp] theorem Frame.drafts_list_some (mark : ListMark) (tight : Bool)
    (items : List (List Draft)) (item : OpenItem) :
    (Frame.list mark tight items (some item)).drafts = items.flatten ++ item.content := rfl

namespace Progress

/-- The blocks that have been completed, in some order. -/
def drafts (p : Progress) : List Draft := p.frames.flatMap Frame.drafts ++ p.blocks

/-- The headings completed so far are of levels that there are. -/
def Levelled (p : Progress) : Prop := ∀ b ∈ p.drafts, b.Levelled

variable {p : Progress} {b : Draft}

theorem mem_drafts_add {d : Draft} : d ∈ (p.add b).drafts ↔ d = b ∨ d ∈ p.drafts := by
  rcases p with ⟨frames, blocks, _, _, _, _⟩
  unfold add
  dsimp only
  split <;> simp [drafts, or_left_comm]

namespace Levelled

/-- Only the blocks matter. -/
theorem of_drafts {q : Progress} (h : p.Levelled) (hq : q.drafts ⊆ p.drafts) : q.Levelled :=
  fun b hb => h b (hq hb)

theorem add (h : p.Levelled) (hb : b.Levelled) : (p.add b).Levelled := by
  intro d hd
  rcases mem_drafts_add.mp hd with rfl | hd
  · exact hb
  · exact h d hd

theorem closeOne (h : p.Levelled) : p.closeOne.Levelled := by
  unfold Progress.closeOne
  split
  · exact h
  · -- a quote
    next content frames hframes =>
    have hbefore : Levelled { p with frames := frames } :=
      h.of_drafts (by simp [drafts, hframes])
    refine hbefore.add (Block.levelled_quote.mpr ?_)
    intro b hb
    exact h b (by simp [drafts, hframes, List.mem_reverse.mp hb])
  · -- an item: its blocks stay where they are, in the list
    next mark tight items item frames hframes =>
    refine h.of_drafts fun b hb => ?_
    simp only [drafts, hframes, List.flatMap_cons, Frame.drafts_list_none,
      Frame.drafts_list_some, List.flatten_cons, List.mem_append, List.mem_reverse] at hb ⊢
    grind
  · -- a list, with its items made tight or not
    next x mark tight items frames hframes =>
    have hbefore : Levelled { p with frames := frames, inEmptyItem := p.inEmptyItem && !tight } :=
      h.of_drafts (by simp [drafts, hframes])
    have hitems : ∀ item ∈ items, ∀ b ∈ item, b.Levelled := by
      intro item hitem b hb
      have hmem : b ∈ items.flatten := List.mem_flatten.mpr ⟨item, hitem, hb⟩
      exact h b (by simp only [drafts, hframes, List.flatMap_cons, Frame.drafts_list_none,
        List.mem_append, hmem, true_or])
    refine hbefore.add (Block.levelled_list.mpr ?_)
    intro item hitem b hb
    split at hitem
    · obtain ⟨old, hold, rfl⟩ := List.mem_map.mp hitem
      obtain ⟨loose, hloose, rfl⟩ := List.mem_map.mp hb
      exact (hitems old (List.mem_reverse.mp hold) loose hloose).tighten
    · exact hitems item (List.mem_reverse.mp hitem) b hb

theorem closeMany : ∀ (n : Nat) {p : Progress}, p.Levelled → (p.closeMany n).Levelled := by
  intro n
  induction n with
  | zero =>
    intro p h
    exact h
  | succ n ih =>
    intro p h
    exact ih h.closeOne

theorem closeTo (h : p.Levelled) (n : Nat) : (p.closeTo n).Levelled := closeMany _ h

theorem leaveEmptyItem (h : p.Levelled) : p.leaveEmptyItem.Levelled := by
  unfold Progress.leaveEmptyItem
  dsimp only
  split
  · exact h.closeOne
  · exact h

theorem loosen (h : p.Levelled) : p.loosen.Levelled := by
  unfold Progress.loosen
  split
  · next hframes => exact h.of_drafts (by simp [drafts, hframes])
  · exact h

theorem settle (h : p.Levelled) : p.settle.Levelled := by
  unfold Progress.settle
  dsimp only
  split
  · exact h.leaveEmptyItem.closeOne.loosen
  · exact h.leaveEmptyItem.loosen

theorem openItem (h : p.Levelled) (mark : ListMark) (indent : Nat) :
    (p.openItem mark indent).Levelled := by
  have hleft := h.leaveEmptyItem
  unfold Progress.openItem
  dsimp only
  split
  · -- the item goes on with the list that is open
    next q hq =>
    split at hq
    · next hframes =>
      obtain ⟨-, hq⟩ := Option.ite_none_right_eq_some.mp hq
      obtain rfl := Option.some.inj hq
      exact hleft.of_drafts (by simp [drafts, hframes])
    · cases hq
  · have hsettled : Levelled (if p.leaveEmptyItem.frames.isEmpty then p.leaveEmptyItem
        else p.leaveEmptyItem.settle) := by
      split
      · exact hleft
      · exact hleft.settle
    exact hsettled.of_drafts (by simp [drafts])

theorem openQuote (h : p.Levelled) : p.openQuote.Levelled :=
  h.settle.of_drafts (by simp [Progress.openQuote, drafts])

theorem takeBlank (h : p.Levelled) : p.takeBlank.Levelled := by
  unfold Progress.takeBlank
  split
  · exact h
  · next hframes => exact h.of_drafts (by simp [drafts, hframes])
  · exact h

theorem define (h : p.Levelled) (d : Definition) : (p.define d).Levelled := h

/-! ### Lines -/

theorem readParagraph (h : p.Levelled) (o : Options) (task : Option Bool) (lead : Nat) (t : Text)
    (rest : List Text) : (readParagraph o p task lead t rest).1.Levelled := by
  unfold Markdown.readParagraph
  dsimp only
  split
  · exact h.add (by simp only [Block.Levelled])
  · refine h.add ?_
    split
    · next level hlevel => exact isLevel_underline rest t hlevel
    · simp only [Block.Levelled]

theorem readProse (h : p.Levelled) (o : Options) (lead : Nat) (t : Text) (rest : List Text) :
    (readProse o p lead t rest).1.Levelled := by
  unfold Markdown.readProse
  dsimp only
  split
  · exact h.define _
  · exact h.readParagraph o none lead t rest

theorem readBlock (h : p.Levelled) (o : Options) (c : Cursor) (rest : List Text) :
    (readBlock o p c rest).1.Levelled := by
  have hsettled := h.settle
  unfold Markdown.readBlock
  dsimp only
  split
  · -- indented code
    exact (hsettled.add (by simp only [Block.Levelled])).of_drafts (List.Subset.refl _)
  split
  · -- HTML
    exact hsettled.add (by simp only [Block.Levelled])
  split
  · exact hsettled.add (by simp only [Block.Levelled])
  split
  · next level hlevel => exact hsettled.add (isLevel_headingLevel? hlevel)
  split
  · -- fenced code
    exact hsettled.add (by simp only [Block.Levelled])
  · exact hsettled.readProse o 0 _ rest

theorem openFramesFrom (o : Options) :
    ∀ (fuel : Nat) {p : Progress} (c : Cursor), p.Levelled →
      (openFramesFrom o fuel p c).1.Levelled := by
  intro fuel
  induction fuel with
  | zero =>
    intro p c h
    exact h
  | succ fuel ih =>
    intro p c h
    unfold Markdown.openFramesFrom
    dsimp only
    split
    · exact h
    split
    · -- an item
      next mark indent inside _ =>
      have hopened := h.openItem mark indent
      split
      · exact hopened
      split
      · split
        · exact hopened.add (by simp only [Block.Levelled])
        · exact hopened
      · exact ih inside hopened
    · -- a quote
      split
      · exact ih _ h.openQuote
      · exact h

theorem readLine (h : p.Levelled) (o : Options) (line : Text) (rest : List Text) :
    (readLine o p line rest).1.Levelled := by
  have hready : Levelled { p with afterDefinition := false } := h
  unfold Markdown.readLine
  dsimp only
  split
  · exact hready.readProse o _ _ rest
  have hopened := openFramesFrom o
    ((lineText (matchFrames p.frames.reverse (Cursor.ofLine line)).2.rest).length + 1)
    (matchFrames p.frames.reverse (Cursor.ofLine line)).2
    (hready.closeTo (matchFrames p.frames.reverse (Cursor.ofLine line)).1)
  split
  · next q hq =>
    rw [openFrames] at hq
    rwa [hq] at hopened
  · next q ticked t hq =>
    rw [openFrames] at hq
    rw [hq] at hopened
    exact hopened.readParagraph o (some ticked) 0 t rest
  · next q c hq =>
    rw [openFrames] at hq
    rw [hq] at hopened
    split
    · exact hopened.takeBlank
    · exact hopened.readBlock o c rest

end Levelled
end Progress

/-! ### Documents -/

/-- The headings that are found have levels from one to six. -/
theorem levelled_readBlocks (o : Options) (t : Text) : ∀ b ∈ (readBlocks o t).1, b.Levelled := by
  have hstart : Progress.Levelled {} := by
    intro b hb
    cases hb
  have hend := Text.scanFrom_invariant (P := Progress.Levelled)
    (fun p line rest (h : p.Levelled) => h.readLine o line rest) (lineStarts t) 0 {} hstart
  intro b hb
  refine (hend.closeTo 0) b (List.mem_append_right _ ?_)
  exact List.mem_reverse.mp hb

/-- **The headings of a document are of levels from one to six.** -/
theorem levelled_read (o : Options) (t : Text) : Block.LevelledList (read o t) :=
  Block.LevelledList.map _ (Block.levelledList_iff.mpr (levelled_readBlocks o t))

end Markdown
end Marginalia
