import Marginalia.Fragment

/-!
# The regions of a fragment

A fragment is a text in which the regions stand between fixed pieces.  They can be read off
it again as long as no comment region holds the tag that ends it, and no code region the one
that ends its section: the first such tag after the beginning of a region is then the one
that the frame has put there.

## Main definitions

* `Fragment.commentRegion`, `Fragment.codeRegion`, `Fragment.regions` — what the regions of
  a section are.
* `Regions.Closed` — regions that do not hold the tags that end them.
* `Fragment.Decodes` — a fragment and the regions that it can be read as.

## Main results

* `Fragment.render_eq_write` — a fragment has the regions of its sections, in order.
* `Fragment.write_injective` — **closed regions can be read off a fragment.**
-/

namespace Marginalia

/-! ### The regions of a section -/

namespace Fragment

/-- The region of the comments `t`: what the hook makes of them, or a placeholder where that
would show nothing. -/
def commentRegion (comment : Hook) (t : Text) : Text :=
  if t.isEmpty || Text.isBlank (comment t) then emptyComment else comment t

/-- The region of the code `t`: what the hook makes of it without the blank lines around
it. -/
def codeRegion (code : Hook) (t : Text) : Text :=
  if (Code.trim t).isEmpty then [] else code (Code.trim t)

/-- The regions of a section. -/
def regions (comment code : Hook) (s : Section) : Regions :=
  ⟨commentRegion comment s.comments, codeRegion code s.code⟩

theorem fillComment_eq (comment : Hook) (t : Text) :
    fillComment (if t.isEmpty then [] else comment t) = commentRegion comment t := by
  unfold fillComment commentRegion
  by_cases hempty : t.isEmpty
  · simp [hempty, Text.isBlank]
  · simp [hempty]

theorem run_regionsM (comment code : Hook) (s : Section) :
    Id.run (regionsM (fun t => pure (comment t)) (fun t => pure (code t)) s) =
      regions comment code s := by
  rw [regions, ← fillComment_eq, codeRegion]
  by_cases hcomments : s.comments.isEmpty <;> by_cases hcode : (Code.trim s.code).isEmpty <;>
    simp [regionsM, hcomments, hcode]

theorem run_regionListM (comment code : Hook) (ss : List Section) :
    Id.run (regionListM (fun t => pure (comment t)) (fun t => pure (code t)) ss) =
      ss.map (regions comment code) := by
  induction ss with
  | nil => rfl
  | cons s ss ih =>
    rw [List.map_cons, ← run_regionsM, ← ih]
    rfl

/-- **A fragment has the regions of its sections**, in order. -/
theorem render_eq_write (comment code : Hook) (ss : List Section) :
    render comment code ss = write (ss.map (regions comment code)) := by
  rw [← run_regionListM]
  rfl

end Fragment

/-! ### Texts up to a delimiter -/

namespace Text

/-- What holds no newline and occurs in a text occurs in one of its lines. -/
theorem infix_of_infix_append_newline {s a b : Text} (hs : '\n' ∉ s)
    (h : s <:+: a ++ '\n' :: b) : s <:+: a ∨ s <:+: b := by
  obtain ⟨x, y, h⟩ := h
  rw [List.append_assoc] at h
  rcases List.append_eq_append_iff.mp h with ⟨c, ha, hc⟩ | ⟨c, hx, hc⟩
  · -- `s` begins within `a`, so it ends there
    rcases List.append_eq_append_iff.mp hc with ⟨d, hcd, -⟩ | ⟨d, hsd, hd⟩
    · exact Or.inl ⟨x, d, by rw [List.append_assoc, ← hcd, ← ha]⟩
    · cases d with
      | nil => exact Or.inl ⟨x, [], by simp [ha, hsd]⟩
      | cons e d =>
        obtain rfl : '\n' = e := (List.cons.inj hd).1
        exact absurd (by simp [hsd]) hs
  · cases c with
    | nil =>
      cases s with
      | nil => exact Or.inl (List.nil_infix)
      | cons e s =>
        obtain rfl : '\n' = e := (List.cons.inj hc).1
        exact absurd (by simp) hs
    | cons e c => exact Or.inr ⟨c, y, by simpa using (List.cons.inj hc).2.symm⟩

/-- Two texts that go on with a newline and `s` are equal, if `s` occurs in neither of
them. -/
theorem append_newline_inj {s a b x y : Text} (hs : '\n' ∉ s) (ha : ¬ s <:+: a)
    (hb : ¬ s <:+: b) (h : a ++ '\n' :: (s ++ x) = b ++ '\n' :: (s ++ y)) : a = b ∧ x = y := by
  -- the longer one would hold `s`
  have hlonger : ∀ {c d z w : Text}, '\n' :: (s ++ z) = c ++ '\n' :: (s ++ w) →
      ¬ s <:+: d ++ c → c = [] := by
    intro c d z w heq hnot
    cases c with
    | nil => rfl
    | cons e c =>
      exfalso
      refine hnot ?_
      have htail : s ++ z = c ++ '\n' :: (s ++ w) := (List.cons.inj heq).2
      rcases List.append_eq_append_iff.mp htail with ⟨f, hc, -⟩ | ⟨f, hsf, hf⟩
      · exact ⟨d ++ [e], f, by simp [hc]⟩
      · cases f with
        | nil => exact ⟨d ++ [e], [], by simp [hsf]⟩
        | cons g f =>
          obtain rfl : '\n' = g := (List.cons.inj hf).1
          exact absurd (by simp [hsf]) hs
  have hab : a = b := by
    rcases List.append_eq_append_iff.mp h with ⟨c, rfl, hc⟩ | ⟨c, rfl, hc⟩
    · rw [hlonger hc hb, List.append_nil]
    · rw [hlonger hc ha, List.append_nil]
  subst hab
  refine ⟨rfl, ?_⟩
  simpa using h

end Text

/-! ### Closed regions -/

namespace Regions

/-- The tag that ends a comment region. -/
def commentEnd : Text := "</div>".toList

/-- The tag that ends a section, and the code region in it. -/
def codeEnd : Text := "</section>".toList

/-- Neither region holds the tag that ends it. -/
structure Closed (r : Regions) : Prop where
  comments : ¬ commentEnd <:+: r.comments
  code : ¬ codeEnd <:+: r.code

theorem notMem_commentEnd : '\n' ∉ commentEnd := by decide

theorem notMem_codeEnd : '\n' ∉ codeEnd := by decide

/-- A section is what begins it, the comment region, what follows that up to the code
region, the code region and what follows that; the ends stand on lines of their own. -/
theorem write_append (r : Regions) (x : Text) :
    r.write ++ x =
      "<section>\n<div class=\"lit-comment\">\n".toList ++ (r.comments ++ '\n' :: (commentEnd ++
        ("\n<code class=\"lit-code\">\n".toList ++ ((r.code ++ "\n</code>".toList) ++
          '\n' :: (codeEnd ++ '\n' :: x))))) := by
  unfold write commentEnd codeEnd
  simp

theorem notInfix_code_end {code : Text} (h : ¬ codeEnd <:+: code) :
    ¬ codeEnd <:+: code ++ "\n</code>".toList := by
  have hend : "\n</code>".toList = '\n' :: "</code>".toList := by simp
  have hshort : ¬ codeEnd <:+: "</code>".toList := by
    intro hinfix
    have hlength := hinfix.length_le
    revert hlength
    decide
  intro hinfix
  rw [hend] at hinfix
  rcases Text.infix_of_infix_append_newline notMem_codeEnd hinfix with hinfix | hinfix
  · exact h hinfix
  · exact hshort hinfix

/-- Closed regions can be read off the beginning of a text. -/
theorem write_append_inj {r r' : Regions} {x y : Text} (h : r.Closed) (h' : r'.Closed)
    (heq : r.write ++ x = r'.write ++ y) : r = r' ∧ x = y := by
  rw [write_append, write_append] at heq
  obtain ⟨hcomments, hrest⟩ := Text.append_newline_inj notMem_commentEnd h.comments h'.comments
    (List.append_cancel_left heq)
  obtain ⟨hcode, hxy⟩ := Text.append_newline_inj notMem_codeEnd (notInfix_code_end h.code)
    (notInfix_code_end h'.code) (List.append_cancel_left hrest)
  constructor
  · cases r
    cases r'
    simp_all
  · simpa using hxy

end Regions

namespace Fragment

/-- A section and the end of a fragment begin differently. -/
theorem write_append_ne_closing (r : Regions) (x : Text) : r.write ++ x ≠ closing := by
  unfold closing
  rw [Regions.write_append]
  simp

theorem flatMap_write_inj :
    ∀ {rs rs' : List Regions}, (∀ r ∈ rs, r.Closed) → (∀ r ∈ rs', r.Closed) →
      rs.flatMap Regions.write ++ closing = rs'.flatMap Regions.write ++ closing → rs = rs' := by
  intro rs
  induction rs with
  | nil =>
    intro rs' _ _ heq
    cases rs' with
    | nil => rfl
    | cons r' rs' =>
      -- a section is not the end of the fragment
      rw [List.flatMap_cons, List.append_assoc] at heq
      exact absurd heq.symm (write_append_ne_closing r' _)
  | cons r rs ih =>
    intro rs' h h' heq
    cases rs' with
    | nil =>
      rw [List.flatMap_cons, List.append_assoc] at heq
      exact absurd heq (write_append_ne_closing r _)
    | cons r' rs' =>
      rw [List.flatMap_cons, List.flatMap_cons, List.append_assoc, List.append_assoc] at heq
      obtain ⟨hr, hrest⟩ := List.forall_mem_cons.mp h
      obtain ⟨hr', hrest'⟩ := List.forall_mem_cons.mp h'
      obtain ⟨rfl, hxy⟩ := Regions.write_append_inj hr hr' heq
      rw [ih hrest hrest' hxy]

/-- **Closed regions can be read off a fragment.** -/
theorem write_injective {rs rs' : List Regions} (h : ∀ r ∈ rs, r.Closed)
    (h' : ∀ r ∈ rs', r.Closed) (heq : write rs = write rs') : rs = rs' := by
  rw [write, write, List.append_assoc, List.append_assoc] at heq
  exact flatMap_write_inj h h' (List.append_cancel_left heq)

/-- `html` is a fragment with the regions `rs`, none of which holds the tag that ends it. -/
structure Decodes (html : Text) (rs : List Regions) : Prop where
  closed : ∀ r ∈ rs, r.Closed
  write : write rs = html

theorem Decodes.unique {html : Text} {rs rs' : List Regions} (h : Decodes html rs)
    (h' : Decodes html rs') : rs = rs' :=
  write_injective h.closed h'.closed (h.write.trans h'.write.symm)

end Fragment
end Marginalia
