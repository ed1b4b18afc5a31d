import TypeTags.Proofs.Attribution.History

/-!
# No signature is lost or reported twice

Each signature handed over ends in exactly one of four places: it is reported as malformed, it is
reported as unmatched, a method or attribute claims it, or it still waits in an open scope. The
ledger of a state counts the first, the second and the last; what declarations claim is counted by
the length of their chains, a chain being counted where the answer is its fold.

Results:
* `step_ledger`: what a step hands over and what its declaration claims make up the change of the
  ledger.
* `accounting`: the balance over every run, and the state that the end of the unit leaves.
-/

namespace TypeTags

namespace Attribution

/-! ## The ledger of a state -/

/-- How many signatures wait in the scopes. -/
def pendingCount (scopes : List Scope) : Nat := (scopes.flatMap (·.pending)).length

/-- How many signatures are reported or wait. -/
def ledger (a : Attribution) : Nat :=
  tally .malformedSignature a.diagnostics + tally .unmatchedSignature a.diagnostics
    + pendingCount a.scopes

@[simp] theorem pendingCount_cons (s : Scope) (scopes : List Scope) :
    pendingCount (s :: scopes) = s.pending.length + pendingCount scopes := by
  simp [pendingCount]

/-- Each signature taken in is reported or waits. -/
theorem Took.ledger {a b : Attribution} {handed : List SigText} (h : Took a b handed) :
    b.ledger = a.ledger + handed.length := by
  obtain ⟨more, ha, hd⟩ := h.diagnostics
  have hm := ha.malformed
  have hu := ha.unmatched
  simp only [Attribution.ledger, scopes, hd, tally_append, pendingCount_cons, h.pending, h.outer,
    List.length_append]
  omega

/-- Emptying a scope turns what waits there into reports. -/
theorem dropPending_ledger (a : Attribution) (reason : String) :
    (a.dropPending reason).ledger = a.ledger := by
  simp only [ledger, scopes, dropPending, tally_append, tally_unclaimed_malformed,
    tally_unclaimed_unmatched, pendingCount_cons, List.length_nil]
  omega

theorem leaveScope_ledger (a : Attribution) : a.leaveScope.ledger = a.ledger := by
  rw [← dropPending_ledger a "end of scope"]
  unfold leaveScope
  simp only
  cases h : (a.dropPending "end of scope").outer with
  | nil => rfl
  | cons scope outer =>
    have hc : (a.dropPending "end of scope").current = {} := rfl
    simp [ledger, scopes, h, hc]

theorem leaveInner_ledger (a : Attribution) : a.leaveInner.ledger = a.ledger :=
  leaveInner_induction (P := (·.ledger = a.ledger)) rfl fun b hb => b.leaveScope_ledger.trans hb

/-- A method or attribute takes what waits out of the ledger; a class or module reports it. -/
theorem claim_ledger (a : Attribution) (d : Declaration) (run : String)
    (hk : d.kind ≠ .signature) :
    (a.claim d run).1.ledger + (if claims d.kind then (held a.current).length else 0) =
      a.ledger := by
  unfold claim
  simp only
  split
  · rename_i hn
    have hc : claims d.kind = false := by
      cases hd : d.kind <;> simp [hd, DeclarationKind.isNamespace] at hn <;> rfl
    simp [hc, dropPending_ledger]
  · rename_i hn
    have hc : claims d.kind = true := by
      cases hd : d.kind <;> simp [hd, DeclarationKind.isNamespace] at hn hk <;> rfl
    simp only [hc, if_true, ledger, scopes, pendingCount_cons, held, List.length_map,
      List.length_nil]
    omega

/-! ## Steps -/

/-- How many signatures the step claims, when `top` wait in the innermost scope. -/
def Step.claimCount (top : List Signature) : Step → Nat
  | .declare d => if claims d.kind then (top ++ (Step.declare d).signatures).length else 0
  | _ => 0

/-- **Step.** What a step hands over is reported, waits or is claimed. -/
theorem step_ledger (a : Attribution) (s : Step) (hs : s.Placed) :
    (a.step s).1.ledger + s.claimCount (held a.current) = a.ledger + s.handed.length := by
  cases s with
  | openScope => simp [step, openScope, ledger, scopes, Step.claimCount, Step.handed]
  | closeScope text line =>
    obtain ⟨b, hb, h⟩ := a.closeScope_took text hs
    simpa [step, h, leaveScope_ledger, Step.claimCount, Step.handed] using hb.ledger
  | feed text line =>
    obtain ⟨b, hb, h⟩ := a.feed_took text hs
    simpa [step, h, Step.claimCount, Step.handed] using hb.ledger
  | declare d =>
    obtain ⟨b, run, hb, h⟩ := a.declare_took d hs.1 hs.2
    have hl := hb.ledger
    simp only [step, h, Step.claimCount, Step.handed]
    split
    · rename_i hk
      simpa [hk, claims] using hl
    · rename_i hk
      rw [← hl, ← b.claim_ledger d run hk, hb.held]
      rfl
  | finish text line =>
    obtain ⟨b, hb, h⟩ := a.finish_took text hs
    have hl := hb.ledger
    rw [leaveInner_ledger] at hl
    simpa [step, h, leaveScope_ledger, Step.claimCount, Step.handed] using hl

/-- The signatures that the declaration at step `i` claims, if the answer is an association of a
method or attribute with the fold of its chain. -/
def claimedAt (steps : List Step) (i : Nat) :
    Except LineSpan (Option Association) → List Signature
  | .ok (some association) =>
    if claims association.declaration.kind ∧
      association.signature = Signature.fold? (chain steps i) then chain steps i else []
  | _ => []

/-- How many signatures the associations among the answers to a run claim. -/
def claimedTotal (steps : List Step)
    (answers : List (Except LineSpan (Option Association))) : Nat :=
  (answers.mapIdx (claimedAt steps)).flatten.length

/-- The answer to a step claims as many signatures as the step does. -/
theorem claimedAt_step {steps : List Step} {i : Nat} {s : Step} (h : steps[i]? = some s)
    (hs : s.Placed) (a : Attribution) (ha : held a.current = waiting steps (depthAt steps i) i) :
    (claimedAt steps i (a.step s).2).length = s.claimCount (held a.current) := by
  cases s with
  | openScope => rfl
  | closeScope text line =>
    obtain ⟨b, -, he⟩ := a.closeScope_took text hs
    simp [step, he, claimedAt, Step.claimCount, Except.map]
  | feed text line =>
    obtain ⟨b, -, he⟩ := a.feed_took text hs
    simp [step, he, claimedAt, Step.claimCount, Except.map]
  | declare d =>
    obtain ⟨b, run, hb, he⟩ := a.declare_took d hs.1 hs.2
    obtain ⟨hdeclaration, hfold⟩ := b.claim_association d run
    rw [hb.held_eq_chain h ha] at hfold
    simp only [step, he, Step.claimCount]
    split
    · rename_i hk
      simp [claimedAt, hk, claims]
    · by_cases hk : claims d.kind = true
      · have hchain : held a.current ++ (Step.declare d).signatures = chain steps i := by
          simp [chain, ha, signaturesAt, h]
        simp [claimedAt, hdeclaration, hk, (hfold hk).1, hchain]
      · simp [claimedAt, hdeclaration, hk]
  | finish text line =>
    obtain ⟨b, -, he⟩ := a.finish_took text hs
    simp [step, he, claimedAt, Step.claimCount, Except.map]

/-! ## Runs -/

theorem run_length (a : Attribution) (steps : List Step) :
    (a.run steps).2.length = steps.length := by
  induction steps generalizing a with
  | nil => rfl
  | cons s steps ih => simp [run, ih]

/-- **Run.** Up to every step of a run, what was handed over is reported, waits or is claimed. -/
theorem run_ledger (a : Attribution) (steps : List Step) (hs : ∀ s ∈ steps, s.Placed)
    (ha : a.holdings = [[]]) (i : Nat) (hi : i ≤ steps.length) :
    (a.stateAt steps i).ledger + claimedTotal steps ((a.run steps).2.take i) =
      a.ledger + ((steps.take i).flatMap Step.handed).length := by
  induction i with
  | zero => rfl
  | succ i ih =>
    obtain ⟨s, h⟩ : ∃ s, steps[i]? = some s := ⟨steps[i], List.getElem?_eq_getElem hi⟩
    have ih := ih (by omega)
    have hp : s.Placed := hs s (List.mem_of_getElem? h)
    have hstep := (a.stateAt steps i).step_ledger s hp
    have hlen : ((a.run steps).2.take i).length = i := by
      rw [List.length_take, run_length]; omega
    have hclaim := claimedAt_step h hp _ (waiting_current a steps hs ha (by omega))
    rw [stateAt_succ h, List.take_add_one, List.take_add_one, run_answer h, h]
    simp only [claimedTotal, Option.toList_some, List.mapIdx_append, List.flatten_append, hlen,
      List.flatMap_append, List.length_append] at ih ⊢
    simp only [List.mapIdx_cons, List.mapIdx_nil, List.flatten_cons, List.flatten_nil,
      Nat.zero_add, hclaim, List.flatMap_cons, List.flatMap_nil, List.append_nil]
    omega

/-- After the end of the unit one empty scope is left. -/
theorem finish_scopes (a : Attribution) (text : String) {line : Int} (hl : 1 ≤ line) :
    ∃ b, a.finish text line = (b, .ok ()) ∧ b.scopes = [{}] := by
  obtain ⟨b, hb, h⟩ := a.finish_took text hl
  refine ⟨b.leaveScope, h, ?_⟩
  have ho : b.outer = [] := hb.outer.trans a.leaveInner_outer
  simp [scopes, leaveScope, dropPending, ho]

theorem segments_nil (line : Int) : segments [] line = [] := by
  simp [segments, Text.sourceLines, Text.splitOnChar, Segment.fromLines, Segment.classify,
    Segment.opensBlockComment, Text.trim, Text.trimStart, Text.trimEnd]

/-- There is nothing in an empty text. -/
theorem absorb_empty (a : Attribution) (line : Int) : a.absorb "" line = (a, .ok "") := by
  simp [absorb, segments_nil, absorbSegments, joinRun, Except.map]

theorem closeScope_empty (a : Attribution) (line : Int) :
    a.closeScope "" line = (a.leaveScope, .ok ()) := by
  rw [closeScope, absorb_empty]

/-- Nothing is left to report in a state with one empty scope. -/
theorem finish_empty (a : Attribution) (ha : a.scopes = [{}]) (line : Int) :
    a.finish "" line = (a, .ok ()) := by
  obtain ⟨file, current, outer, diagnostics⟩ := a
  simp only [scopes, List.cons.injEq] at ha
  obtain ⟨rfl, rfl⟩ := ha
  rw [finish, List.foldl_nil, closeScope_empty]
  simp [leaveScope, dropPending, unclaimed]

/-- **Accounting.** In every run on a fresh machine the signatures handed over are those reported as
malformed, those reported as unmatched, those claimed by methods and attributes, and those that
still wait. There is always one scope more than there are bodies to leave, and the end of the unit
leaves one scope in which nothing waits, so that a second end reports nothing. -/
theorem accounting (file : Option String) (steps : List Step) (hs : ∀ s ∈ steps, s.Placed) :
    (steps.flatMap Step.handed).length =
        tally .malformedSignature (run { file } steps).1.diagnostics
          + tally .unmatchedSignature (run { file } steps).1.diagnostics
          + claimedTotal steps (run { file } steps).2
          + pendingCount (run { file } steps).1.scopes ∧
      (run { file } steps).1.scopes.length = depthAt steps steps.length + 1 ∧
      ∀ text line, 1 ≤ line → ∃ b, (run { file } steps).1.finish text line = (b, .ok ()) ∧
        b.scopes = [{}] ∧ ∀ again, b.finish "" again = (b, .ok ()) := by
  have hlen := run_length { file } steps
  have hstate : stateAt { file } steps steps.length = (run { file } steps).1 := by
    simp [stateAt]
  refine ⟨?_, ?_, ?_⟩
  · have h := run_ledger { file } steps hs rfl steps.length (Nat.le_refl _)
    rw [hstate, List.take_length, ← hlen, List.take_length] at h
    have h0 : ledger { file } = 0 := rfl
    simp only [ledger] at h h0
    omega
  · have h := congrArg List.length (waiting_run { file } steps hs rfl steps.length (Nat.le_refl _))
    rw [hstate] at h
    simpa [holdings, below_length] using h
  · intro text line hl
    obtain ⟨b, hb, hsc⟩ := (run { file } steps).1.finish_scopes text hl
    exact ⟨b, hb, hsc, b.finish_empty hsc⟩

/-- One signature of each fate: the first is malformed, a method claims the next two, a class finds
the fourth, a surplus close the fifth, and the last still waits. -/
def fatefulRun : List Step :=
  [.feed "sig { void.void }\nsig { void }\n" 1,
   .declare { kind := .method, precedingText := "sig { returns(A) }\n" },
   .declare { kind := .classBody, precedingText := "sig { void }\n" },
   .closeScope "sig { void }" 1, .openScope, .feed "sig { void }" 1]

theorem accounting_fatefulRun :
    (∀ s ∈ fatefulRun, s.Placed) ∧
      6 = 1 + 2 + claimedTotal fatefulRun (run {} fatefulRun).2 + 1 := by
  have hs : ∀ s ∈ fatefulRun, s.Placed := by decide
  have h := (accounting none fatefulRun hs).1
  rw [show (fatefulRun.flatMap Step.handed).length = 6 by decide +kernel,
    show tally .malformedSignature (run {} fatefulRun).1.diagnostics = 1 by decide +kernel,
    show tally .unmatchedSignature (run {} fatefulRun).1.diagnostics = 2 by decide +kernel,
    show pendingCount (run {} fatefulRun).1.scopes = 1 by decide +kernel] at h
  exact ⟨hs, h⟩

end Attribution

end TypeTags
