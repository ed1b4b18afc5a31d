import TypeTags.Proofs.Attribution.History
import TypeTags.Proofs.Signature.Sound

/-!
# Reading never fails in another way

A text gives a signature or a type that meets its constraints, or a fault that is about a place in
the text. So do the types inside that are built on the way, also when the text is refused later. The
machine only keeps signatures that were read, and folding keeps the constraints; so it answers every
declaration on line 1 or later, whatever steps came before, steps that failed included.

Results:
* `step_wellFormed`, `run_wellFormed`: the signatures that wait are well-formed in every state that
  can be reached.
* `declare_answers`: a declaration is answered.
* `reading_total`: the readers and the machine together.
-/

namespace TypeTags

/-- The signatures that wait in the scope are well-formed. -/
def Scope.WellFormed (scope : Scope) : Prop := ∀ p ∈ scope.pending, p.signature.WellFormed

namespace Attribution

/-- The signatures that wait in any open scope are well-formed. -/
structure WellFormed (a : Attribution) : Prop where
  current : a.current.WellFormed
  outer : ∀ scope ∈ a.outer, scope.WellFormed

theorem empty_wellFormed : ({} : Scope).WellFormed := by simp [Scope.WellFormed]

/-! ## Steps -/

theorem addSignature_wellFormed {file : Option String} {scope scope' : Scope} {text : String}
    {line : Int} {found : List Diagnostic} (hs : scope.WellFormed)
    (h : addSignature file scope text line = .ok (scope', found)) : scope'.WellFormed := by
  simp only [addSignature] at h
  split at h
  · rename_i sig hsig
    cases h
    refine List.forall_mem_append.2 ⟨hs, ?_⟩
    simpa using (Signature.parse_sound text line).1 sig hsig
  · cases h
    exact hs
  · cases h

/-- What is read of segments before one that cannot be placed is kept, and it is well-formed. -/
theorem absorbSegments_wellFormed (file : Option String) {scope : Scope} (hs : scope.WellFormed)
    (found : List Diagnostic) (run : List String) (segs : List Segment) :
    (absorbSegments file scope found run segs).scope.WellFormed := by
  induction segs generalizing scope found run with
  | nil => exact hs
  | cons segment segs ih =>
    unfold absorbSegments
    split
    · exact ih hs _ _
    · have hdoc : (if run.isEmpty then scope
          else { scope with docRuns := scope.docRuns ++ [joinRun run] }).WellFormed := by
        split
        · exact hs
        · exact hs
      dsimp only
      split
      · exact ih (addSignature_wellFormed hdoc ‹_›) _ _
      · exact hdoc
    · exact ih hs _ _
    · exact ih hs _ _

variable {a : Attribution} (h : a.WellFormed)

include h

theorem absorb_wellFormed (text : String) (line : Int) : (a.absorb text line).1.WellFormed :=
  ⟨absorbSegments_wellFormed a.file h.current _ _ _, h.outer⟩

theorem dropPending_wellFormed (reason : String) : (a.dropPending reason).WellFormed :=
  ⟨empty_wellFormed, h.outer⟩

theorem leaveScope_wellFormed : a.leaveScope.WellFormed := by
  have hdrop := dropPending_wellFormed h "end of scope"
  unfold leaveScope
  dsimp only
  split
  · exact hdrop
  · rename_i scope outer houter
    have hscopes := hdrop.outer
    rw [houter] at hscopes
    exact ⟨hscopes scope List.mem_cons_self, fun s hs => hscopes s (List.mem_cons_of_mem _ hs)⟩

theorem closeScope_wellFormed (text : String) (line : Int) :
    (a.closeScope text line).1.WellFormed := by
  have habsorb := absorb_wellFormed h text line
  unfold closeScope
  split
  · rename_i b run hb
    rw [hb] at habsorb
    exact leaveScope_wellFormed habsorb
  · rename_i b span hb
    rw [hb] at habsorb
    exact habsorb

theorem feed_wellFormed (text : String) (line : Int) : (a.feed text line).1.WellFormed := by
  have habsorb := absorb_wellFormed h text line
  unfold feed
  split
  · rename_i b run hb
    rw [hb] at habsorb
    exact habsorb
  · rename_i b span hb
    rw [hb] at habsorb
    exact habsorb

theorem leaveInner_wellFormed : a.leaveInner.WellFormed :=
  leaveInner_induction h fun _ => leaveScope_wellFormed

theorem claim_wellFormed (d : Declaration) (run : String) : (a.claim d run).1.WellFormed := by
  unfold claim
  dsimp only
  split
  · exact dropPending_wellFormed h _
  · exact ⟨empty_wellFormed, h.outer⟩

theorem declareSignature_wellFormed (d : Declaration) (run : String) :
    (a.declareSignature d run).1.WellFormed := by
  have hdoc : ({ a.current with docRuns := withRun a.current.docRuns run } : Scope).WellFormed :=
    h.current
  unfold declareSignature
  dsimp only
  split
  · exact ⟨addSignature_wellFormed hdoc ‹_›, h.outer⟩
  · exact ⟨hdoc, h.outer⟩

theorem declare_wellFormed (d : Declaration) : (a.declare d).1.WellFormed := by
  have habsorb := absorb_wellFormed h d.precedingText d.precedingLine
  unfold declare
  split
  · rename_i b span hb
    rw [hb] at habsorb
    exact habsorb
  · rename_i b run hb
    rw [hb] at habsorb
    split
    · exact declareSignature_wellFormed habsorb d run
    · exact claim_wellFormed habsorb d run

theorem step_wellFormed (s : Step) : (a.step s).1.WellFormed := by
  cases s with
  | openScope => exact ⟨empty_wellFormed, List.forall_mem_cons.2 ⟨h.current, h.outer⟩⟩
  | closeScope text line => exact closeScope_wellFormed h text line
  | feed text line => exact feed_wellFormed h text line
  | declare d => exact declare_wellFormed h d
  | finish text line => exact closeScope_wellFormed (leaveInner_wellFormed h) text line

theorem run_wellFormed (steps : List Step) : (a.run steps).1.WellFormed := by
  induction steps generalizing a with
  | nil => exact h
  | cons s steps ih => exact ih (step_wellFormed h s)

/-! ## Answers -/

theorem claim_signature (d : Declaration) (run : String) :
    ∀ sig ∈ (a.claim d run).2.signature, sig.WellFormed := by
  unfold claim
  dsimp only
  split
  · rintro sig ⟨⟩
  · refine Signature.fold?_wellFormed fun sig hs => ?_
    obtain ⟨p, hp, rfl⟩ := List.mem_map.1 hs
    exact h.current p hp

/-- A declaration on line 1 or later is answered, and the signature it claims is well-formed. -/
theorem declare_answers {d : Declaration} (hp : 1 ≤ d.precedingLine) (hl : 1 ≤ d.line) :
    ∃ answer, (a.declare d).2 = .ok answer ∧
      ∀ association ∈ answer, ∀ sig ∈ association.signature, sig.WellFormed := by
  have habsorb := absorb_wellFormed h d.precedingText d.precedingLine
  obtain ⟨b, run, -, hb⟩ := a.absorb_took d.precedingText hp
  rw [hb] at habsorb
  by_cases hk : d.kind = .signature
  · obtain ⟨c, -, hc⟩ := b.declareSignature_took d run hl
    exact ⟨none, by simp [declare, hb, hk, hc], by simp⟩
  · refine ⟨some (b.claim d run).2, by simp [declare, hb, hk], ?_⟩
    rintro association ⟨⟩
    exact claim_signature habsorb d run

omit h

/-- **Reading is total.** A text that starts on line 1 or later is read as a well-formed signature
or refused for a fault inside it, and likewise as a type. Every type that is built from some of its
tokens is well-formed, whatever the tokens end with and whatever becomes of the type. And after any
steps, a declaration on line 1 or later is answered, with a well-formed signature if it claims one.
-/
theorem reading_total (text : String) {line : Int} (hline : 1 ≤ line) (file : Option String)
    (steps : List Step) {d : Declaration} (hp : 1 ≤ d.precedingLine) (hl : 1 ≤ d.line) :
    ((∃ sig, (Signature.parse text line).result = .ok sig ∧ sig.WellFormed) ∨
      ∃ fault, (Signature.parse text line).result = .error (.malformed fault) ∧
        fault.Inside text.length) ∧
    ((∃ t, TypeExpr.parse text = .ok t ∧ t.WellFormed) ∨
      ∃ fault, TypeExpr.parse text = .error fault ∧ fault.Inside text.length) ∧
    (∀ ts, tokenize text.toList = .ok ts → ∀ us, us.Sublist ts.dropLast →
      ∀ boundary ≤ text.length, (∀ u ∈ us, u.start < boundary) → ∀ n t rest notes,
        Parser.typeAt n ⟨text.toList, boundary⟩ us = .ok t rest notes → t.WellFormed) ∧
    ∃ answer, ((run { file } steps).1.declare d).2 = .ok answer ∧
      ∀ association ∈ answer, ∀ sig ∈ association.signature, sig.WellFormed := by
  refine ⟨?_, ?_, ?_, ?_⟩
  · obtain ⟨hok, hfault⟩ := Signature.parse_sound text line
    cases hr : (Signature.parse text line).result with
    | ok sig => exact .inl ⟨sig, rfl, hok sig hr⟩
    | error e =>
      cases e with
      | malformed fault => exact .inr ⟨fault, rfl, hfault fault hr⟩
      | lineBelowOne span => exact absurd hr (Signature.parse_ne_lineBelowOne text hline span)
  · obtain ⟨hok, hfault⟩ := TypeExpr.parse_sound text
    cases hr : TypeExpr.parse text with
    | ok t => exact .inl ⟨t, rfl, hok t hr⟩
    | error fault => exact .inr ⟨fault, rfl, hfault fault hr⟩
  · intro ts ht us hus boundary hb hbefore n t rest notes hread
    rw [← String.length_toList] at hb
    have hlaid := ((tokenize_laid ht).sublist hus).cutOff hb hbefore
    have hmeets := Parser.sound_typeAt n us hlaid
    rw [hread] at hmeets
    exact hmeets.1
  · have hstart : ({ file } : Attribution).WellFormed := ⟨empty_wellFormed, by simp⟩
    exact declare_answers (run_wellFormed hstart steps) hp hl

/-- A helper without its argument. -/
def brokenText : String := "params(x: A).returns(T.nilable)"

/-- A signature that waits, then one that cannot be placed and one that is never closed. -/
def unsettledRun : List Step :=
  [.openScope, .feed "sig \x7b returns(A) \x7d\n" 1, .feed "sig \x7b void \x7d" 0, .feed "sig \x7b void" 3]

theorem reading_total_unsettledRun :
    (∃ fault, (Signature.parse brokenText 1).result = .error (.malformed fault) ∧
      fault.Inside brokenText.length) ∧
    (∃ fault, TypeExpr.parse brokenText = .error fault ∧ fault.Inside brokenText.length) ∧
    (run {} unsettledRun).2.map Except.isOk = [true, true, false, true] ∧
    ∃ answer, ((run {} unsettledRun).1.declare { kind := .method, line := 4 }).2 = .ok answer ∧
      ∀ association ∈ answer, ∀ sig ∈ association.signature, sig.WellFormed := by
  have hsig : (Signature.parse brokenText 1).result.isOk = false := by decide +kernel
  have htype : (TypeExpr.parse brokenText).isOk = false := by decide +kernel
  have hrun : (run {} unsettledRun).2.map Except.isOk = [true, true, false, true] := by
    decide +kernel
  have htotal := reading_total brokenText (show (1 : Int) ≤ 1 by decide) none unsettledRun
    (d := { kind := .method, line := 4 }) (by decide) (by decide)
  obtain ⟨hparse, hread, -, hanswer⟩ := htotal
  refine ⟨hparse.resolve_left ?_, hread.resolve_left ?_, hrun, hanswer⟩
  · rintro ⟨sig, h, -⟩
    rw [h] at hsig
    cases hsig
  · rintro ⟨t, h, -⟩
    rw [h] at htype
    cases htype

end Attribution

end TypeTags
