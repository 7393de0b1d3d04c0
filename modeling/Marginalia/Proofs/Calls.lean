import Marginalia.Fragment
import Marginalia.Proofs.SectionForm

/-!
# The calls of a render

A render calls the hook for comments for each section that has comments, and then the hook for
code if the section has code that is not blank.  Which calls are made, with what and in which
order is decided by the sections alone.  For the sections of a source, they pass the fields as
they are.

## Main definitions

* `Fragment.callWith`, `Fragment.callsOf` — the calls for a text and for a section.
* `Fragment.Call.text`, `Fragment.Call.perform` — the text passed, and what a call does.

## Main results

* `Fragment.discard_renderM` — a render has the effects of its calls, whatever these are.
* `Fragment.calls_renderRecorded` — the calls that are recorded.
* `Fragment.callsOf_of_mem_sectionsOf` — the calls for a section of a source.
* `Fragment.render_makes_calls` — **the calls of a render**, for all sections and hooks.
-/

namespace Marginalia
namespace Fragment

/-! ### Calls -/

namespace Call

/-- The text that is passed. -/
def text : Call → Text
  | .comment t => t
  | .code t => t

/-- Whether the hook for comments is called. -/
def isComment : Call → Bool
  | .comment _ => true
  | .code _ => false

/-- Call the hook, which may have effects. -/
def perform {m : Type → Type} (comment code : Text → m Text) : Call → m Text
  | .comment t => comment t
  | .code t => code t

end Call

/-- The call that passes a text, unless the text is empty. -/
def callWith (call : Text → Call) (t : Text) : List Call := if t = [] then [] else [call t]

/-- The calls for a section: one with the comments if there are any, and then one with the code
without the blank lines around it if there is any left. -/
def callsOf (s : Section) : List Call :=
  callWith .comment s.comments ++ callWith .code (Code.trim s.code)

variable {s : Section} {t : Text}

theorem callWith_nil (call : Text → Call) : callWith call [] = [] := rfl

theorem callWith_of_ne_nil (h : t ≠ []) (call : Text → Call) : callWith call t = [call t] :=
  if_neg h

theorem callWith_eq_nil_iff {call : Text → Call} : callWith call t = [] ↔ t = [] := by
  by_cases h : t = []
  · simp [h, callWith_nil]
  · simp [h, callWith_of_ne_nil]

theorem mem_callWith {call : Text → Call} {c : Call} :
    c ∈ callWith call t ↔ c = call t ∧ t ≠ [] := by
  by_cases h : t = []
  · simp [h, callWith_nil]
  · simp [h, callWith_of_ne_nil]

theorem comment_mem_callsOf :
    .comment t ∈ callsOf s ↔ t = s.comments ∧ s.comments ≠ [] := by
  simp [callsOf, mem_callWith]

theorem code_mem_callsOf :
    .code t ∈ callsOf s ↔ t = Code.trim s.code ∧ Code.trim s.code ≠ [] := by
  simp [callsOf, mem_callWith]

/-- No call passes an empty text. -/
theorem text_ne_nil_of_mem_callsOf {c : Call} (h : c ∈ callsOf s) : c.text ≠ [] := by
  cases c with
  | comment t =>
    obtain ⟨rfl, hne⟩ := comment_mem_callsOf.mp h
    exact hne
  | code t =>
    obtain ⟨rfl, hne⟩ := code_mem_callsOf.mp h
    exact hne

theorem marginless_of_mem_callsOf (h : .code t ∈ callsOf s) : Code.Marginless t := by
  obtain ⟨rfl, hne⟩ := code_mem_callsOf.mp h
  exact Code.marginless_trim hne

theorem countP_callsOf (s : Section) :
    (callsOf s).countP Call.isComment ≤ 1 ∧ (callsOf s).countP (fun c => !c.isComment) ≤ 1 := by
  unfold callsOf callWith
  split <;> split <;> simp [Call.isComment, List.countP_cons]

/-! ### The effects of a render -/

section

variable {m : Type → Type} [Monad m] [LawfulMonad m]

theorem discard_eq_map {α : Type} (x : m α) : discard x = (fun _ => PUnit.unit) <$> x := by
  simp [discard, map_const]

variable (comment code : Text → m Text)

/-- Making the regions of a section has the effects of its calls. -/
theorem discard_regionsM (s : Section) :
    discard (regionsM comment code s) =
      forM (callsOf s) fun c => discard (c.perform comment code) := by
  rw [regionsM, callsOf]
  by_cases hcomments : s.comments = [] <;> by_cases hcode : Code.trim s.code = [] <;>
    simp [callWith, hcomments, hcode, discard_eq_map, Call.perform]

theorem discard_regionListM (ss : List Section) :
    discard (regionListM comment code ss) =
      forM (ss.flatMap callsOf) fun c => discard (c.perform comment code) := by
  induction ss with
  | nil => simp [regionListM, discard_eq_map]
  | cons s ss ih =>
    rw [List.flatMap_cons, List.forM_append, ← ih, ← discard_regionsM, regionListM]
    simp [discard_eq_map]

/-- A render has the effects of its calls, in order, and no others. -/
theorem discard_renderM (ss : List Section) :
    discard (renderM comment code ss) =
      forM (ss.flatMap callsOf) fun c => discard (c.perform comment code) := by
  rw [← discard_regionListM, renderM]
  simp [discard_eq_map]

end

/-! ### The calls that are recorded -/

section

variable (comment code : Hook)

/-- Recording a call adds it to the record. -/
theorem run_discard_recording (c : Call) (calls : List Call) :
    (discard (c.perform (recording .comment comment) (recording .code code))).run calls =
      (PUnit.unit, calls ++ [c]) := by
  cases c <;> rfl

theorem run_forM_recording (cs : List Call) : ∀ calls : List Call,
    (forM cs fun c => discard (c.perform (recording .comment comment) (recording .code code)) :
      StateM (List Call) PUnit).run calls = (PUnit.unit, calls ++ cs) := by
  induction cs with
  | nil =>
    intro calls
    rw [List.append_nil]
    rfl
  | cons c cs ih =>
    intro calls
    rw [List.forM_cons, StateT.run_bind, run_discard_recording]
    exact (ih _).trans (by rw [List.append_assoc]; rfl)

/-- The calls that are recorded are those for the sections, in order. -/
theorem calls_renderRecorded (ss : List Section) :
    (renderRecorded comment code ss).2 = ss.flatMap callsOf := by
  have heffects := congrArg (StateT.run · [])
    (discard_renderM (recording Call.comment comment) (recording Call.code code) ss)
  simp only [run_forM_recording] at heffects
  exact congrArg Prod.snd heffects

end

/-! ### The sections of a source -/

section

variable {m : Marker} {source : Text}

/-- For a section of a source the fields are passed as they are. -/
theorem callsOf_of_mem_sectionsOf (h : s ∈ sectionsOf m source) :
    callsOf s = callWith .comment s.comments ++ callWith .code s.code := by
  rw [callsOf, Section.trim_code_of_mem h]

theorem callsOf_ne_nil (h : s ∈ sectionsOf m source) : callsOf s ≠ [] := by
  rw [callsOf_of_mem_sectionsOf h, ne_eq, List.append_eq_nil_iff, callWith_eq_nil_iff,
    callWith_eq_nil_iff]
  exact (Section.wellFormed_sectionsOf m source).nonempty s h

/-- Only for the last section the hook for code may not be called. -/
theorem code_mem_callsOf_of_mem_dropLast (h : s ∈ (sectionsOf m source).dropLast) :
    .code s.code ∈ callsOf s := by
  have htrim := Section.trim_code_of_mem ((List.dropLast_prefix _).subset h)
  have hne := (Section.wellFormed_sectionsOf m source).code_ne_nil s h
  rw [code_mem_callsOf, htrim]
  exact ⟨rfl, hne⟩

end

/-- **The calls of a render** are those for its sections, in order: it has their effects and no
others, and they are what is recorded.  No call passes an empty text, and none passes code that
is blank at either end; no section is passed to a hook twice.  For the sections of a source the
fields are passed as they are, there is a call for each section, and one with code for each but
the last. -/
theorem render_makes_calls :
    (∀ {n : Type → Type} [Monad n] [LawfulMonad n] (comment code : Text → n Text)
        (ss : List Section),
      discard (renderM comment code ss) =
        forM (ss.flatMap callsOf) fun c => discard (c.perform comment code)) ∧
    (∀ (comment code : Hook) (ss : List Section),
      (renderRecorded comment code ss).2 = ss.flatMap callsOf) ∧
    (∀ s, (∀ c ∈ callsOf s, c.text ≠ []) ∧ (∀ t, .code t ∈ callsOf s → Code.Marginless t) ∧
      (callsOf s).countP Call.isComment ≤ 1 ∧ (callsOf s).countP (fun c => !c.isComment) ≤ 1) ∧
    ∀ (m : Marker) (source : Text),
      (∀ s ∈ sectionsOf m source, callsOf s ≠ [] ∧
        callsOf s = callWith .comment s.comments ++ callWith .code s.code) ∧
      ∀ s ∈ (sectionsOf m source).dropLast, .code s.code ∈ callsOf s := by
  refine ⟨fun comment code ss => discard_renderM comment code ss, calls_renderRecorded, ?_, ?_⟩
  · intro s
    exact ⟨fun c hc => text_ne_nil_of_mem_callsOf hc, fun t ht => marginless_of_mem_callsOf ht,
      countP_callsOf s⟩
  · intro m source
    exact ⟨fun s hs => ⟨callsOf_ne_nil hs, callsOf_of_mem_sectionsOf hs⟩,
      fun s hs => code_mem_callsOf_of_mem_dropLast hs⟩

/-- Comments that are only blank are passed as they are, and blank code is not; hooks that count
are called once for each of the other fields. -/
theorem render_makes_calls_blank :
    (renderRecorded Hook.escape Hook.highlight
        [⟨" ".toList, "\n \n".toList⟩, ⟨[], "\n\n  x\n \ny\n".toList⟩]).2 =
      [.comment " ".toList, .code "  x\n \ny".toList] ∧
      (discard (renderM (m := StateM Nat) (fun t => modifyGet fun n => (t, n + 1))
        (fun t => modifyGet fun n => (t, n + 1))
        [⟨" ".toList, "\n \n".toList⟩, ⟨[], "\n\n  x\n \ny\n".toList⟩])).run 0 = ((), 2) ∧
      (.code "  x\n \ny".toList ∈ callsOf ⟨[], "\n\n  x\n \ny\n".toList⟩ ∧
        "  x\n \ny".toList ≠ [] ∧ Code.Marginless "  x\n \ny".toList) ∧
      (⟨"a\n".toList, "x".toList⟩ ∈ (sectionsOf Marker.slashes "// a\nx\n// b".toList).dropLast ∧
        .code "x".toList ∈ callsOf ⟨"a\n".toList, "x".toList⟩) ∧
      (⟨"b\n".toList, []⟩ ∈ sectionsOf Marker.slashes "// a\nx\n// b".toList ∧
        callsOf ⟨"b\n".toList, []⟩ = [.comment "b\n".toList]) := by
  obtain ⟨heffects, hrecord, hcalls, hsource⟩ := render_makes_calls
  obtain ⟨hsections, hcode⟩ := hsource Marker.slashes "// a\nx\n// b".toList
  have hcall : .code "  x\n \ny".toList ∈ callsOf ⟨[], "\n\n  x\n \ny\n".toList⟩ := by decide
  have hfirst : ⟨"a\n".toList, "x".toList⟩ ∈
      (sectionsOf Marker.slashes "// a\nx\n// b".toList).dropLast := by decide
  have hlast : ⟨"b\n".toList, []⟩ ∈ sectionsOf Marker.slashes "// a\nx\n// b".toList := by decide
  refine ⟨(hrecord _ _ _).trans (by decide), ?_, ⟨hcall, ?_, ?_⟩, ⟨hfirst, hcode _ hfirst⟩,
    hlast, (hsections _ hlast).2⟩
  · rw [heffects]
    rfl
  · exact (hcalls _).1 _ hcall
  · exact (hcalls _).2.1 _ hcall

end Fragment
end Marginalia
