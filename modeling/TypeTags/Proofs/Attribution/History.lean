import TypeTags.Proofs.Attribution.Absorb

/-!
# Which signatures a declaration claims

The machine keeps its signatures in a stack of scopes that every step may change. Here the same is
said of the steps alone, without a stack. `depthAt steps i` is the number of bodies open around step
`i`. What step `j` handed over still waits at depth `ℓ` before step `i` (`Waits`) if `j` was taken
at that depth and no step from `j` up to `i` went below it or emptied the body there. A body is
emptied by a declaration that is no signature block, by a close that finds no body to leave, and by
the end of the unit. `chain steps i` lists the signatures that wait for the declaration at step `i`,
with those in the text before it.

Results:
* `step_holdings`: what each step does to the signatures that wait, scope by scope.
* `gathered_run`: after any run, the scopes hold exactly what waits, at every depth, whatever is
  read off scopes and steps; `waiting_run` is the case of the signatures.
* `association_signature`: a method or attribute is answered with the fold of its chain.
-/

namespace TypeTags

namespace Attribution

/-! ## Steps and what they hand over -/

/-- Every line number of the step is at least 1. -/
def Step.Placed : Step → Prop
  | .openScope => True
  | .closeScope _ line => 1 ≤ line
  | .feed _ line => 1 ≤ line
  | .declare d => 1 ≤ d.precedingLine ∧ 1 ≤ d.line
  | .finish _ line => 1 ≤ line

instance : DecidablePred Step.Placed
  | .openScope => inferInstanceAs (Decidable True)
  | .closeScope _ line => inferInstanceAs (Decidable (1 ≤ line))
  | .feed _ line => inferInstanceAs (Decidable (1 ≤ line))
  | .declare d => inferInstanceAs (Decidable (1 ≤ d.precedingLine ∧ 1 ≤ d.line))
  | .finish _ line => inferInstanceAs (Decidable (1 ≤ line))

/-- The signatures that the step hands over for reading, in order. -/
def Step.handed : Step → List SigText
  | .openScope => []
  | .closeScope text line => sigsIn text line
  | .feed text line => sigsIn text line
  | .declare d => handedBy d
  | .finish text line => sigsIn text line

/-- The signatures that the step hands over and that can be read. -/
def Step.signatures (s : Step) : List Signature := s.handed.filterMap SigText.signature?

/-- Whether declarations of the kind claim the signatures before them. -/
def claims : DeclarationKind → Bool
  | .method | .singletonMethod | .attribute => true
  | .classBody | .moduleBody | .signature => false

/-! ## The history of a run -/

/-- How many bodies are open inside the outermost one after the step, if `depth` were before. -/
def Step.deepen (depth : Nat) : Step → Nat
  | .openScope => depth + 1
  | .closeScope _ _ => depth - 1
  | .feed _ _ => depth
  | .declare _ => depth
  | .finish _ _ => 0

/-- How many bodies are open inside the outermost one when step `i` is taken. -/
def depthAt (steps : List Step) (i : Nat) : Nat := (steps.take i).foldl Step.deepen 0

/-- Whether the step empties a body; `here` tells whether it is taken at the depth of that body. -/
def Step.empties (here : Bool) : Step → Bool
  | .openScope => false
  | .closeScope _ _ => here
  | .feed _ _ => false
  | .declare d => here && d.kind != .signature
  | .finish _ _ => true

/-- What step `j` hands over waits at depth `ℓ` until step `i`: it is handed over at that depth, and
no step before `i` leaves the body there or empties it. -/
def Waits (steps : List Step) (ℓ j i : Nat) : Prop :=
  depthAt steps j = ℓ ∧ ∀ k < i, j ≤ k →
    ℓ ≤ depthAt steps (k + 1) ∧ ¬ (steps[k]?.any (Step.empties (depthAt steps k = ℓ)))

instance (steps : List Step) (ℓ j i : Nat) : Decidable (Waits steps ℓ j i) :=
  inferInstanceAs (Decidable (_ ∧ ∀ k < i, j ≤ k → _))

/-- The signatures that step `j` hands over and that can be read. -/
def signaturesAt (steps : List Step) (j : Nat) : List Signature :=
  (steps[j]?.map Step.signatures).getD []

/-- The signatures that wait at depth `ℓ` when step `i` is taken, in order. -/
def waiting (steps : List Step) (ℓ i : Nat) : List Signature :=
  ((List.range i).filter fun j => Waits steps ℓ j i).flatMap (signaturesAt steps)

/-- What step `j` hands over, as `f` reads it off a step. -/
def givenAt {α : Type} (f : Step → List α) (steps : List Step) (j : Nat) : List α :=
  (steps[j]?.map f).getD []

/-- What waits at depth `ℓ` when step `i` is taken, in order, as `f` reads it off the steps. The
signatures that wait are one case of it. -/
def gathered {α : Type} (f : Step → List α) (steps : List Step) (ℓ i : Nat) : List α :=
  ((List.range i).filter fun j => Waits steps ℓ j i).flatMap (givenAt f steps)

/-- The signatures that a declaration at step `i` finds: those that wait in its own body, then those
in the text before it. -/
def chain (steps : List Step) (i : Nat) : List Signature :=
  waiting steps (depthAt steps i) i ++ signaturesAt steps i

theorem depthAt_succ {steps : List Step} {i : Nat} {s : Step} (h : steps[i]? = some s) :
    depthAt steps (i + 1) = s.deepen (depthAt steps i) := by
  simp [depthAt, List.take_add_one, h]

theorem waits_self {steps : List Step} {ℓ i : Nat} :
    Waits steps ℓ i i ↔ depthAt steps i = ℓ := by
  unfold Waits
  constructor
  · exact fun h => h.1
  · intro h
    exact ⟨h, fun k hk hi => absurd hk (by omega)⟩

theorem waits_succ {steps : List Step} {ℓ i j : Nat} {s : Step} (h : steps[i]? = some s)
    (hj : j ≤ i) : Waits steps ℓ j (i + 1) ↔ Waits steps ℓ j i ∧
      ℓ ≤ depthAt steps (i + 1) ∧ ¬ s.empties (depthAt steps i = ℓ) := by
  unfold Waits
  constructor
  · rintro ⟨hd, hk⟩
    refine ⟨⟨hd, fun k hki => hk k (by omega)⟩, ?_⟩
    simpa [h] using hk i (by omega) hj
  · rintro ⟨⟨hd, hk⟩, hi⟩
    refine ⟨hd, fun k hki hjk => ?_⟩
    rcases Nat.lt_succ_iff_lt_or_eq.1 hki with hlt | rfl
    · exact hk k hlt hjk
    · simpa [h] using hi

/-- One step of the history: what waits before goes on waiting, and what the step hands over joins
it, unless the step leaves or empties the body. -/
theorem gathered_succ {α : Type} (f : Step → List α) {steps : List Step} {i : Nat} {s : Step}
    (h : steps[i]? = some s) (ℓ : Nat) :
    gathered f steps ℓ (i + 1) =
      if ℓ ≤ depthAt steps (i + 1) ∧ ¬ s.empties (depthAt steps i = ℓ) then
        gathered f steps ℓ i ++ if depthAt steps i = ℓ then f s else []
      else [] := by
  have hs : givenAt f steps i = f s := by simp [givenAt, h]
  have hle : ∀ j ∈ List.range i ++ [i], j ≤ i := by
    intro j hj
    simp only [List.mem_append, List.mem_range, List.mem_singleton] at hj
    omega
  unfold gathered
  rw [List.range_succ]
  split
  · rename_i hc
    have hf : (List.range i ++ [i]).filter (fun j => Waits steps ℓ j (i + 1)) =
        (List.range i ++ [i]).filter fun j => Waits steps ℓ j i := by
      apply List.filter_congr
      intro j hj
      rw [decide_eq_decide, waits_succ h (hle j hj)]
      exact and_iff_left hc
    rw [hf, List.filter_append, List.flatMap_append]
    congr 1
    by_cases hd : depthAt steps i = ℓ <;> simp [waits_self, hd, hs]
  · rename_i hc
    have hf : (List.range i ++ [i]).filter (fun j => Waits steps ℓ j (i + 1)) = [] := by
      rw [List.filter_eq_nil_iff]
      intro j hj
      rw [decide_eq_true_eq, waits_succ h (hle j hj)]
      exact fun hw => hc hw.2
    rw [hf, List.flatMap_nil]

theorem gathered_above {α : Type} (f : Step → List α) {steps : List Step} {ℓ i : Nat}
    (h : depthAt steps i < ℓ) : gathered f steps ℓ i = [] := by
  have hf : (List.range i).filter (fun j => Waits steps ℓ j i) = [] := by
    rw [List.filter_eq_nil_iff]
    intro j hj
    rw [decide_eq_true_eq]
    rintro ⟨-, hk⟩
    have hj := List.mem_range.1 hj
    have := (hk (i - 1) (by omega) (by omega)).1
    rw [show i - 1 + 1 = i by omega] at this
    omega
  simp [gathered, hf]

/-! ## What a step does to the signatures that wait -/

/-- The open scopes, innermost first. -/
def scopes (a : Attribution) : List Scope := a.current :: a.outer

/-- The signatures that wait in a scope. -/
def held (s : Scope) : List Signature := s.pending.map (·.signature)

/-- The signatures that wait in each open scope, innermost first. -/
def holdings (a : Attribution) : List (List Signature) := a.scopes.map held

theorem map_signature_filterMap_pending (ts : List SigText) :
    (ts.filterMap SigText.pending?).map (·.signature) = ts.filterMap SigText.signature? := by
  rw [List.map_filterMap]
  congr 1
  funext t
  simp [SigText.pending?, Function.comp_def]

theorem Took.held {a b : Attribution} {handed : List SigText} (h : Took a b handed) :
    held b.current = held a.current ++ handed.filterMap SigText.signature? := by
  rw [Attribution.held, h.pending, List.map_append, map_signature_filterMap_pending]
  rfl

/-- Whatever is read off each open scope, leaving a body takes off what is read there. -/
theorem leaveScope_map {α : Type} {g : Scope → List α} (hg : g {} = []) (a : Attribution) :
    a.leaveScope.scopes.map g = if a.outer.map g = [] then [[]] else a.outer.map g := by
  unfold leaveScope scopes
  simp only [dropPending]
  cases a.outer <;> simp [hg]

theorem leaveScope_holdings (a : Attribution) :
    a.leaveScope.holdings = if a.outer.map held = [] then [[]] else a.outer.map held :=
  leaveScope_map rfl a

theorem leaveInner_outer (a : Attribution) : a.leaveInner.outer = [] := by
  -- each body left takes one off the bodies around the innermost one
  have h : ∀ (outer : List Scope) (a : Attribution), a.outer = outer →
      (outer.foldl (fun a _ => a.leaveScope) a).outer = [] := by
    intro outer
    induction outer with
    | nil => exact fun a ha => ha
    | cons scope outer ih =>
      intro a ha
      refine ih a.leaveScope ?_
      simp [leaveScope, dropPending, ha]
  exact h a.outer a rfl

theorem claim_holdings (a : Attribution) (d : Declaration) (run : String) :
    (a.claim d run).1.holdings = [] :: a.outer.map held := by
  unfold claim
  simp only
  split <;> simp [holdings, scopes, dropPending, held]

/-- The answer to a declaration is about it; a method or attribute gets the fold of what waits. -/
theorem claim_association (a : Attribution) (d : Declaration) (run : String) :
    (a.claim d run).2.declaration = d ∧ (claims d.kind →
      (a.claim d run).2.signature = Signature.fold? (held a.current) ∧
        (a.claim d run).2.chained = decide (1 < (held a.current).length)) := by
  unfold claim
  simp only
  split
  · rename_i hn
    refine ⟨rfl, fun hk => ?_⟩
    cases hd : d.kind <;> simp [hd, claims, DeclarationKind.isNamespace] at hk hn
  · exact ⟨rfl, fun _ => ⟨rfl, by simp [held]⟩⟩

/-- What waits in the open scopes after a step that hands `given` over: `top` waited in the
innermost scope, `outer` in the ones around it. -/
def Step.onStack {α : Type} (given top : List α) (outer : List (List α)) : Step → List (List α)
  | .openScope => [] :: top :: outer
  | .closeScope _ _ => if outer = [] then [[]] else outer
  | .feed _ _ => (top ++ given) :: outer
  | .declare d => (if d.kind = .signature then top ++ given else []) :: outer
  | .finish _ _ => [[]]

/-- Every step changes the holdings as said, if its lines are at least 1. -/
theorem step_holdings (a : Attribution) (s : Step) (hs : s.Placed) :
    (a.step s).1.holdings = s.onStack s.signatures (held a.current) (a.outer.map held) := by
  cases s with
  | openScope => simp [step, openScope, Step.onStack, holdings, scopes, held]
  | closeScope text line =>
    obtain ⟨b, hb, h⟩ := a.closeScope_took text hs
    simp [step, h, leaveScope_holdings, hb.outer, Step.onStack]
  | feed text line =>
    obtain ⟨b, hb, h⟩ := a.feed_took text hs
    simp [step, h, holdings, scopes, hb.held, hb.outer, Step.onStack, Step.signatures,
      Step.handed]
  | declare d =>
    obtain ⟨b, run, hb, h⟩ := a.declare_took d hs.1 hs.2
    simp only [step, h, Step.onStack]
    split
    · simp [holdings, scopes, hb.held, hb.outer, Step.signatures, Step.handed]
    · rw [claim_holdings, hb.outer]
  | finish text line =>
    obtain ⟨b, hb, h⟩ := a.finish_took text hs
    simp [step, h, leaveScope_holdings, hb.outer, leaveInner_outer, Step.onStack]

/-! ## Whole runs -/

/-- The state when step `i` is taken. -/
def stateAt (a : Attribution) (steps : List Step) (i : Nat) : Attribution :=
  (a.run (steps.take i)).1

/-- What a run does at step `i`, it does in the state when that step is taken. -/
theorem run_at {a : Attribution} {steps : List Step} {i : Nat} {s : Step}
    (h : steps[i]? = some s) :
    (a.stateAt steps (i + 1), (a.run steps).2[i]?) =
      ((a.stateAt steps i).step s).map id some := by
  induction steps generalizing a i with
  | nil => simp at h
  | cons t steps ih =>
    cases i with
    | zero =>
      simp only [List.getElem?_cons_zero, Option.some.injEq] at h
      subst h
      rfl
    | succ i => simpa [stateAt, run] using ih (a := (a.step t).1) (by simpa using h)

theorem stateAt_succ {a : Attribution} {steps : List Step} {i : Nat} {s : Step}
    (h : steps[i]? = some s) : a.stateAt steps (i + 1) = ((a.stateAt steps i).step s).1 :=
  congrArg Prod.fst (run_at h)

theorem run_answer {a : Attribution} {steps : List Step} {i : Nat} {s : Step}
    (h : steps[i]? = some s) : (a.run steps).2[i]? = some ((a.stateAt steps i).step s).2 :=
  congrArg Prod.snd (run_at h)

/-- The values of `f` from below `n` down to 0. -/
def below {α : Type} (f : Nat → α) : Nat → List α
  | 0 => []
  | n + 1 => f n :: below f n

theorem below_congr {α : Type} {f g : Nat → α} {n : Nat} (h : ∀ ℓ < n, f ℓ = g ℓ) :
    below f n = below g n := by
  induction n with
  | zero => rfl
  | succ n ih =>
    simp only [below]
    rw [h n (by omega), ih fun ℓ hℓ => h ℓ (by omega)]

@[simp] theorem below_length {α : Type} (f : Nat → α) (n : Nat) : (below f n).length = n := by
  induction n with
  | zero => rfl
  | succ n ih => simp [below, ih]

/-- One step of the history, scope by scope. -/
theorem gathered_step {α : Type} (f : Step → List α) (hopen : f .openScope = [])
    {steps : List Step} {i : Nat} {s : Step} (h : steps[i]? = some s) :
    s.onStack (f s) (gathered f steps (depthAt steps i) i)
        (below (fun ℓ => gathered f steps ℓ i) (depthAt steps i)) =
      gathered f steps (depthAt steps (i + 1)) (i + 1)
        :: below (fun ℓ => gathered f steps ℓ (i + 1)) (depthAt steps (i + 1)) := by
  have hw := gathered_succ f h
  have habove : gathered f steps (depthAt steps i + 1) i = [] := gathered_above f (by omega)
  rw [depthAt_succ h] at hw ⊢
  generalize depthAt steps i = n at hw habove ⊢
  -- at the depths that the step does not touch, what waits goes on waiting
  have kept (hd : n ≤ s.deepen n + 1) (he : s.empties false = false) :
      below (fun ℓ => gathered f steps ℓ i) n = below (fun ℓ => gathered f steps ℓ (i + 1)) n := by
    apply below_congr
    intro ℓ hℓ
    have hne : n ≠ ℓ := by omega
    simp [hw ℓ, hne, he, show ℓ ≤ s.deepen n by omega]
  cases s with
  | openScope =>
    simp only [Step.onStack, Step.deepen, below]
    rw [kept (by simp [Step.deepen]; omega) rfl, hw n, hw (n + 1), habove]
    simp [Step.deepen, Step.empties, hopen]
  | closeScope text line =>
    simp only [Step.onStack, Step.deepen]
    rw [kept (by simp [Step.deepen]; omega) rfl]
    cases n with
    | zero => simp [below, hw 0, Step.empties]
    | succ n => simp [below]
  | feed text line =>
    simp only [Step.onStack, Step.deepen]
    rw [kept (by simp [Step.deepen]) rfl, hw n]
    simp [Step.deepen, Step.empties]
  | declare d =>
    simp only [Step.onStack, Step.deepen]
    rw [kept (by simp [Step.deepen]) rfl, hw n]
    by_cases hk : d.kind = .signature <;> simp [Step.deepen, Step.empties, hk]
  | finish text line =>
    simp [Step.onStack, Step.deepen, below, hw 0, Step.empties]

/-- **Run.** Let `g` read off a scope what `f` reads off the steps, step by step. Then before every
step of a run each open scope holds exactly what waits at its depth. -/
theorem gathered_run {α : Type} {f : Step → List α} {g : Scope → List α}
    (hopen : f .openScope = [])
    (hstep : ∀ (a : Attribution) (s : Step), s.Placed →
      (a.step s).1.scopes.map g = s.onStack (f s) (g a.current) (a.outer.map g))
    (a : Attribution) (steps : List Step) (hs : ∀ s ∈ steps, s.Placed)
    (ha : a.scopes.map g = [[]]) (i : Nat) (hi : i ≤ steps.length) :
    (a.stateAt steps i).scopes.map g = gathered f steps (depthAt steps i) i
      :: below (fun ℓ => gathered f steps ℓ i) (depthAt steps i) := by
  induction i with
  | zero => simpa [stateAt, run, depthAt, below, gathered] using ha
  | succ i ih =>
    obtain ⟨s, h⟩ : ∃ s, steps[i]? = some s := ⟨steps[i], List.getElem?_eq_getElem hi⟩
    have ih := ih (by omega)
    simp only [scopes, List.map_cons, List.cons.injEq] at ih
    rw [stateAt_succ h, hstep _ s (hs s (List.mem_of_getElem? h)), ih.1, ih.2]
    exact gathered_step f hopen h

/-- Before every step of a run, each open scope holds exactly the signatures that wait at its
depth. -/
theorem waiting_run (a : Attribution) (steps : List Step) (hs : ∀ s ∈ steps, s.Placed)
    (ha : a.holdings = [[]]) (i : Nat) (hi : i ≤ steps.length) :
    (a.stateAt steps i).holdings = waiting steps (depthAt steps i) i
      :: below (fun ℓ => waiting steps ℓ i) (depthAt steps i) :=
  gathered_run rfl step_holdings a steps hs ha i hi

theorem waiting_current (a : Attribution) (steps : List Step) (hs : ∀ s ∈ steps, s.Placed)
    (ha : a.holdings = [[]]) {i : Nat} (hi : i ≤ steps.length) :
    held (a.stateAt steps i).current = waiting steps (depthAt steps i) i := by
  have hr := waiting_run a steps hs ha i hi
  simp only [holdings, scopes, List.map_cons, List.cons.injEq] at hr
  exact hr.1

/-- What waits for a declaration when its text has been taken in is its chain. -/
theorem Took.held_eq_chain {a b : Attribution} {steps : List Step} {i : Nat} {d : Declaration}
    (h : Took a b (handedBy d)) (hd : steps[i]? = some (.declare d))
    (ha : Attribution.held a.current = waiting steps (depthAt steps i) i) :
    Attribution.held b.current = chain steps i := by
  rw [h.held, ha]
  simp [chain, signaturesAt, hd, Step.signatures, Step.handed]

/-- **Attribution.** In every run on a fresh machine, a method or an attribute is answered with the
fold of the signatures that were handed over in its own body since the last declaration there that
is no signature block, since the body was opened, or since it was last emptied by a surplus close.
It counts as chained when there are at least two of them. -/
theorem association_signature (file : Option String) (steps : List Step)
    (hs : ∀ s ∈ steps, s.Placed) (i : Nat) (d : Declaration) (hd : steps[i]? = some (.declare d))
    (hk : claims d.kind) :
    ∃ association, (run { file } steps).2[i]? = some (.ok (some association)) ∧
      association.declaration = d ∧
      association.signature = Signature.fold? (chain steps i) ∧
      (association.signature = none ↔ chain steps i = []) ∧
      (association.chained = true ↔ 2 ≤ (chain steps i).length) := by
  have hr := waiting_current { file } steps hs rfl (Nat.le_of_lt (List.getElem?_eq_some_iff.1 hd).1)
  obtain ⟨hp, hl⟩ : Step.Placed (.declare d) := hs _ (List.mem_of_getElem? hd)
  obtain ⟨b, r, hb, h⟩ := (stateAt { file } steps i).declare_took d hp hl
  have hch : held b.current = chain steps i := hb.held_eq_chain hd hr
  obtain ⟨h1, h2⟩ := b.claim_association d r
  obtain ⟨h3, h4⟩ := h2 hk
  rw [hch] at h3 h4
  refine ⟨(b.claim d r).2, ?_, h1, h3, ?_, ?_⟩
  · have hne : d.kind ≠ .signature := by
      intro e; rw [e] at hk; cases hk
    rw [run_answer hd]
    simp only [step, h, if_neg hne]
  · rw [h3]
    cases chain steps i <;> simp [Signature.fold?]
  · rw [h4, decide_eq_true_eq]
    exact Iff.rfl

/-- Two signatures, then a body with a method and a signature of its own, then a method that claims
the two. -/
def nestedRun : List Step :=
  [.closeScope "sig { void }" 1, .feed "sig { params(x: A).void }\nsig { returns(B) }\n" 1,
   .openScope, .declare { kind := .method, precedingText := "sig { void }\n" },
   .closeScope "sig { void }" 1, .declare { kind := .method, name := "outer" }]

theorem association_signature_nestedRun :
    (∀ s ∈ nestedRun, s.Placed) ∧ ∃ association,
      (run {} nestedRun).2[5]? = some (.ok (some association)) ∧
      association.signature = Signature.fold? (chain nestedRun 5) ∧
      (chain nestedRun 5).map (fun sig => (sig.paramNames, sig.isVoid)) =
        [(["x"], true), ([], false)] ∧ association.chained = true := by
  have hs : ∀ s ∈ nestedRun, s.Placed := by decide
  have hc : (chain nestedRun 5).map (fun sig => (sig.paramNames, sig.isVoid)) =
      [(["x"], true), ([], false)] := by decide +kernel
  obtain ⟨association, h1, -, h2, -, h3⟩ := association_signature none nestedRun hs 5 _ rfl rfl
  refine ⟨hs, association, h1, h2, hc, h3.2 ?_⟩
  simpa using Nat.le_of_eq (congrArg List.length hc).symm

end Attribution

end TypeTags
