import Marginalia.Proofs.Quotation

/-!
# Reading JSON that has been written

What the program writes is made of texts, arrays and objects.  Its layout on lines is cut
into the tokens of the value, and from these the value is put together again, at whatever
place it stands in another one.

## Main definitions

* `Json.Textual` — a value made of texts, arrays and objects.
* `Json.tokens` — the tokens of a value.
* `Json.ReadsAs` — a text that is cut into given tokens, whatever follows it.
* `Json.Machine.Takes` — a machine that gets from one state to another by given tokens.

## Main results

* `Json.readsAs_pretty` — a value on lines is cut into its tokens.
* `Json.Machine.takes_tokens` — the tokens of a value put it together.
* `Json.read?_pretty_append` — **a value that has been written is read again**, and white
  space after it does not matter.
-/

namespace Marginalia

/-- Items that have been dealt with are passed over. -/
theorem Text.scanFrom_append {σ α : Type} (step : σ → α → List α → σ × Nat) (s : σ)
    (passed rest : List α) :
    scanFrom step (passed ++ rest) passed.length s = scanFrom step rest 0 s := by
  induction passed with
  | nil => rfl
  | cons a passed ih => exact ih

namespace Json

/-! ### Values and their tokens -/

mutual

/-- A value made of texts, arrays and objects. -/
def Textual : Json → Prop
  | .string t => t.isSome
  | .array vs => AllTextual vs
  | .object ms => MembersTextual ms
  | _ => False

/-- Values that are all made of texts, arrays and objects. -/
def AllTextual : List Json → Prop
  | [] => True
  | v :: vs => Textual v ∧ AllTextual vs

/-- Members whose names are texts and whose values are made of texts, arrays and objects. -/
def MembersTextual : List (Option Text × Json) → Prop
  | [] => True
  | (name, v) :: ms => name.isSome ∧ Textual v ∧ MembersTextual ms

end

mutual

/-- The tokens of a value. -/
def tokens : Json → List Token
  | .string t => [.string t]
  | .array [] => [.openArray, .closeArray]
  | .array (v :: vs) => [.openArray] ++ tokens v ++ elementTokens vs ++ [.closeArray]
  | .object [] => [.openObject, .closeObject]
  | .object ((name, v) :: ms) =>
    [.openObject, .string name, .colon] ++ tokens v ++ memberTokens ms ++ [.closeObject]
  | v => [.scalar v]

/-- The tokens of the elements of an array after the first one. -/
def elementTokens : List Json → List Token
  | [] => []
  | v :: vs => [.comma] ++ tokens v ++ elementTokens vs

/-- The tokens of the members of an object after the first one. -/
def memberTokens : List (Option Text × Json) → List Token
  | [] => []
  | (name, v) :: ms => [.comma, .string name, .colon] ++ tokens v ++ memberTokens ms

end

/-! ### Cutting a text into tokens -/

/-- A text that is cut into the given tokens, whatever follows it. -/
def ReadsAs (t : Text) (ts : List Token) : Prop :=
  ∀ rest done, Text.scanFrom tokenStep (t ++ rest) 0 (some done) =
    Text.scanFrom tokenStep rest 0 (some (ts.reverse ++ done))

namespace ReadsAs

theorem nil : ReadsAs [] [] := fun _ _ => rfl

theorem append {a b : Text} {as bs : List Token} (ha : ReadsAs a as) (hb : ReadsAs b bs) :
    ReadsAs (a ++ b) (as ++ bs) := by
  intro rest done
  rw [List.append_assoc, ha, hb, List.reverse_append, List.append_assoc]

/-- A character that begins a token, and what else belongs to the token. -/
theorem token {c : Char} {body : Text} {t : Token} (hc : isSpace c = false)
    (h : ∀ rest, token? c (body ++ rest) = some (t, body.length)) : ReadsAs (c :: body) [t] := by
  intro rest done
  have hstep : tokenStep (some done) c (body ++ rest) = (some (t :: done), body.length) := by
    rw [tokenStep, hc, if_neg Bool.false_ne_true, h]
  rw [List.cons_append, Text.scanFrom, hstep]
  exact Text.scanFrom_append tokenStep _ body rest

/-- A character that is a token by itself. -/
theorem sign {c : Char} {t : Token} (hc : isSpace c = false)
    (h : ∀ rest, token? c rest = some (t, 0)) : ReadsAs [c] [t] :=
  token hc h

/-- White space between tokens. -/
theorem spaces {t : Text} (h : ∀ c ∈ t, isSpace c = true) : ReadsAs t [] := by
  induction t with
  | nil => exact nil
  | cons c t ih =>
    intro rest done
    have hstep : tokenStep (some done) c (t ++ rest) = (some done, 0) := by
      rw [tokenStep, h c (by simp), if_pos rfl]
    rw [List.cons_append, Text.scanFrom, hstep]
    exact ih (fun d hd => h d (by simp [hd])) rest done

theorem indentation (depth : Nat) : ReadsAs (indentation depth) [] := by
  refine spaces ?_
  intro c hc
  rcases List.mem_cons.mp hc with rfl | hc
  · rfl
  · rw [List.eq_of_mem_replicate hc]
    rfl

/-- A string is one token. -/
theorem quote (t : Text) : ReadsAs (quote t) [.string (some t)] := by
  change ReadsAs ('"' :: (t.flatMap quoteChar ++ ['"'])) _
  refine token rfl ?_
  intro rest
  have hlength : (t.flatMap quoteChar ++ '"' :: rest).length - rest.length =
      (t.flatMap quoteChar ++ ['"']).length := by
    rw [List.length_append, List.length_append, List.length_cons, List.length_singleton]
    omega
  rw [List.append_assoc, List.singleton_append, token?, stringBody?_quoted]
  change some (Token.string (joinSurrogates (t.map Char.toNat)), _ - rest.length) = _
  rw [joinSurrogates_map_toNat, hlength]

theorem openArray : ReadsAs ['['] [.openArray] := sign rfl fun _ => rfl

theorem closeArray : ReadsAs [']'] [.closeArray] := sign rfl fun _ => rfl

theorem openObject : ReadsAs ['\x7b'] [.openObject] := sign rfl fun _ => rfl

theorem closeObject : ReadsAs ['\x7d'] [.closeObject] := sign rfl fun _ => rfl

theorem comma : ReadsAs [','] [.comma] := sign rfl fun _ => rfl

/-- The colon after a name, and the space after it. -/
theorem colon : ReadsAs ": ".toList [.colon] :=
  (sign (c := ':') rfl fun _ => rfl).append (spaces (t := [' ']) (by simp [isSpace]))

end ReadsAs

mutual

/-- A value on lines is cut into its tokens. -/
theorem readsAs_pretty : ∀ (v : Json) (depth : Nat), v.Textual → ReadsAs (v.pretty depth) v.tokens
  | .string t, depth, h => by
    obtain ⟨u, rfl⟩ := Option.isSome_iff_exists.mp h
    exact .quote u
  | .array [], depth, _ => ReadsAs.openArray.append .closeArray
  | .array (v :: vs), depth, h => by
    obtain ⟨hv, hvs⟩ := h
    have hopen := ReadsAs.openArray.append (.indentation (depth + 1))
    have helements := (hopen.append (readsAs_pretty v (depth + 1) hv)).append
      (readsAs_prettyElements vs (depth + 1) hvs)
    have hclose := (helements.append (.indentation depth)).append .closeArray
    rw [List.append_nil, List.append_nil] at hclose
    exact hclose
  | .object [], depth, _ => ReadsAs.openObject.append .closeObject
  | .object ((name, v) :: ms), depth, h => by
    obtain ⟨hname, hv, hms⟩ := h
    obtain ⟨t, rfl⟩ := Option.isSome_iff_exists.mp hname
    have hopen := (ReadsAs.openObject.append (.indentation (depth + 1))).append (.quote t)
    have hmembers := ((hopen.append .colon).append (readsAs_pretty v (depth + 1) hv)).append
      (readsAs_prettyMembers ms (depth + 1) hms)
    have hclose := (hmembers.append (.indentation depth)).append .closeObject
    rw [List.append_nil, List.append_nil] at hclose
    exact hclose
  | .null, _, h => h.elim
  | .bool _, _, h => h.elim
  | .number _, _, h => h.elim

theorem readsAs_prettyElements : ∀ (vs : List Json) (depth : Nat), AllTextual vs →
    ReadsAs (prettyElements depth vs) (elementTokens vs)
  | [], _, _ => .nil
  | v :: vs, depth, h => by
    obtain ⟨hv, hvs⟩ := h
    have hcomma := ReadsAs.comma.append (.indentation depth)
    rw [List.append_nil] at hcomma
    exact (hcomma.append (readsAs_pretty v depth hv)).append (readsAs_prettyElements vs depth hvs)

theorem readsAs_prettyMembers : ∀ (ms : List (Option Text × Json)) (depth : Nat),
    MembersTextual ms → ReadsAs (prettyMembers depth ms) (memberTokens ms)
  | [], _, _ => .nil
  | (name, v) :: ms, depth, h => by
    obtain ⟨hname, hv, hms⟩ := h
    obtain ⟨t, rfl⟩ := Option.isSome_iff_exists.mp hname
    have hcomma := ((ReadsAs.comma.append (.indentation depth)).append (.quote t)).append .colon
    rw [List.append_nil] at hcomma
    exact (hcomma.append (readsAs_pretty v depth hv)).append (readsAs_prettyMembers ms depth hms)

end

/-! ### Putting a value together -/

namespace Machine

/-- The machine gets from one state to another by taking tokens. -/
def Takes (m : Machine) (ts : List Token) (m' : Machine) : Prop := ts.foldlM step m = some m'

theorem takes_nil (m : Machine) : m.Takes [] m := rfl

theorem Takes.append {m m' m'' : Machine} {ts ts' : List Token} (h : m.Takes ts m')
    (h' : m'.Takes ts' m'') : m.Takes (ts ++ ts') m'' := by
  unfold Takes at h h' ⊢
  rw [List.foldlM_append, h]
  exact h'

theorem takes_singleton {m m' : Machine} {t : Token} (h : m.step t = some m') :
    m.Takes [t] m' := by
  unfold Takes
  rw [List.foldlM_cons, h]
  rfl

variable {stage : Stage} {stack : List Open} {result : Option Json}

/-- Where a value belongs does not depend on the stage. -/
theorem give_stage (stage stage' : Stage) (stack : List Open) (result : Option Json) (v : Json) :
    (⟨stage, stack, result⟩ : Machine).give v = (⟨stage', stack, result⟩ : Machine).give v := by
  cases stack with
  | nil => rfl
  | cons o stack => cases o <;> rfl

theorem takes_openArray (h : (⟨stage, stack, result⟩ : Machine).wantsValue = true) :
    (⟨stage, stack, result⟩ : Machine).Takes [.openArray]
      ⟨.firstValue, .array [] :: stack, result⟩ :=
  takes_singleton (by rw [step, if_pos h])

theorem takes_openObject (h : (⟨stage, stack, result⟩ : Machine).wantsValue = true) :
    (⟨stage, stack, result⟩ : Machine).Takes [.openObject]
      ⟨.firstName, .object [] none :: stack, result⟩ :=
  takes_singleton (by rw [step, if_pos h])

/-- The end of an array gives the array to what is around it. -/
theorem takes_closeArray (hstage : stage = .more ∨ stage = .firstValue) (done : List Json)
    (stage' : Stage) :
    (⟨stage, .array done :: stack, result⟩ : Machine).Takes [.closeArray]
      ((⟨stage', stack, result⟩ : Machine).give (.array done.reverse)) := by
  refine takes_singleton ?_
  rw [give_stage stage' stage]
  rcases hstage with rfl | rfl <;> rfl

/-- The end of an object gives the object to what is around it. -/
theorem takes_closeObject (hstage : stage = .more ∨ stage = .firstName)
    (done : List (Option Text × Json)) (name : Option Text) (stage' : Stage) :
    (⟨stage, .object done name :: stack, result⟩ : Machine).Takes [.closeObject]
      ((⟨stage', stack, result⟩ : Machine).give (.object done.reverse)) := by
  refine takes_singleton ?_
  rw [give_stage stage' stage]
  rcases hstage with rfl | rfl <;> rfl

/-- The name of a member, and the colon after it. -/
theorem takes_name (hstage : stage = .name ∨ stage = .firstName)
    (done : List (Option Text × Json)) (old name : Option Text) :
    (⟨stage, .object done old :: stack, result⟩ : Machine).Takes [.string name, .colon]
      ⟨.value, .object done name :: stack, result⟩ := by
  have hname : (⟨stage, .object done old :: stack, result⟩ : Machine).Takes [.string name]
      ⟨.colon, .object done name :: stack, result⟩ := by
    refine takes_singleton ?_
    rcases hstage with rfl | rfl <;> rfl
  have hcolon : (⟨.colon, .object done name :: stack, result⟩ : Machine).Takes [.colon]
      ⟨.value, .object done name :: stack, result⟩ := takes_singleton rfl
  exact hname.append hcolon

theorem takes_comma_array (done : List Json) (stack : List Open) :
    (⟨.more, .array done :: stack, result⟩ : Machine).Takes [.comma]
      ⟨.value, .array done :: stack, result⟩ :=
  takes_singleton rfl

theorem takes_comma_object (done : List (Option Text × Json)) (name : Option Text)
    (stack : List Open) :
    (⟨.more, .object done name :: stack, result⟩ : Machine).Takes [.comma]
      ⟨.name, .object done name :: stack, result⟩ :=
  takes_singleton rfl

mutual

/-- The tokens of a value put it together, wherever it stands. -/
theorem takes_tokens : ∀ (v : Json) (stage : Stage) (stack : List Open) (result : Option Json),
    v.Textual → (⟨stage, stack, result⟩ : Machine).wantsValue = true →
      (⟨stage, stack, result⟩ : Machine).Takes v.tokens
        ((⟨stage, stack, result⟩ : Machine).give v)
  | .string t, stage, stack, result, _, hwants => by
    refine takes_singleton ?_
    rw [step, if_pos hwants]
  | .array [], stage, stack, result, _, hwants =>
    (takes_openArray hwants).append (takes_closeArray (.inr rfl) [] stage)
  | .array (v :: vs), stage, stack, result, h, hwants => by
    obtain ⟨hv, hvs⟩ := h
    have hfirst := (takes_openArray hwants).append (takes_tokens v .firstValue _ result hv rfl)
    have hall := hfirst.append (takes_elementTokens vs [v] stack result hvs)
    have hclosed := hall.append (takes_closeArray (.inl rfl) _ stage)
    rw [List.reverse_append, List.reverse_reverse] at hclosed
    exact hclosed
  | .object [], stage, stack, result, _, hwants =>
    (takes_openObject hwants).append (takes_closeObject (.inr rfl) [] none stage)
  | .object ((name, v) :: ms), stage, stack, result, h, hwants => by
    obtain ⟨-, hv, hms⟩ := h
    have hname := (takes_openObject hwants).append (takes_name (.inr rfl) [] none name)
    have hfirst := hname.append (takes_tokens v .value _ result hv rfl)
    have hall := hfirst.append (takes_memberTokens ms [(name, v)] stack result hms)
    have hclosed := hall.append (takes_closeObject (.inl rfl) _ none stage)
    rw [List.reverse_append, List.reverse_reverse] at hclosed
    exact hclosed
  | .null, _, _, _, h, _ => h.elim
  | .bool _, _, _, _, h, _ => h.elim
  | .number _, _, _, _, h, _ => h.elim

/-- The elements of an array are added to those read so far. -/
theorem takes_elementTokens : ∀ (vs done : List Json) (stack : List Open) (result : Option Json),
    AllTextual vs →
      (⟨.more, .array done :: stack, result⟩ : Machine).Takes (elementTokens vs)
        ⟨.more, .array (vs.reverse ++ done) :: stack, result⟩
  | [], _, _, _, _ => takes_nil _
  | v :: vs, done, stack, result, h => by
    obtain ⟨hv, hvs⟩ := h
    have hfirst := (takes_comma_array done stack).append (takes_tokens v .value _ result hv rfl)
    have hall := hfirst.append (takes_elementTokens vs (v :: done) stack result hvs)
    rw [List.reverse_cons, List.append_assoc]
    exact hall

/-- The members of an object are added to those read so far. -/
theorem takes_memberTokens : ∀ (ms done : List (Option Text × Json)) (stack : List Open)
    (result : Option Json), MembersTextual ms →
      (⟨.more, .object done none :: stack, result⟩ : Machine).Takes (memberTokens ms)
        ⟨.more, .object (ms.reverse ++ done) none :: stack, result⟩
  | [], _, _, _, _ => takes_nil _
  | (name, v) :: ms, done, stack, result, h => by
    obtain ⟨-, hv, hms⟩ := h
    have hcomma := @takes_comma_object result done none stack
    have hname := hcomma.append (takes_name (.inl rfl) done none name)
    have hfirst := hname.append (takes_tokens v .value _ result hv rfl)
    have hall := hfirst.append (takes_memberTokens ms ((name, v) :: done) stack result hms)
    rw [List.reverse_cons, List.append_assoc]
    exact hall

end

end Machine

/-! ### Reading what was written -/

/-- **A value that has been written is read again**, and white space after it does not
matter. -/
theorem read?_pretty_append {v : Json} (h : v.Textual) {blank : Text}
    (hblank : ∀ c ∈ blank, isSpace c = true) : read? (v.pretty 0 ++ blank) = some v := by
  have hcut : tokens? (v.pretty 0 ++ blank) = some v.tokens := by
    have hall := (readsAs_pretty v 0 h).append (.spaces hblank) [] []
    rw [List.append_nil, List.append_nil, List.append_nil] at hall
    rw [tokens?, hall, Text.scanFrom, Option.map_some, List.reverse_reverse]
  have htakes : v.tokens.foldlM Machine.step Machine.start = some (Machine.start.give v) :=
    Machine.takes_tokens v .value [] none h rfl
  rw [read?, hcut]
  change (v.tokens.foldlM Machine.step Machine.start >>= Machine.result) = some v
  rw [htakes]
  rfl

end Json
end Marginalia
