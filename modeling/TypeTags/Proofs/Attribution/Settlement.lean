import TypeTags.Proofs.Attribution.Isolation

/-!
# What becomes of one signature

A signature that is handed over at some step is either refused at once, or it waits in its body and
one later step settles it: the declaration that claims it, or the class, the end of the body or the
end of the unit that reports it. Here one signature is followed through a run, by the line it stands
on and the step that handed it over.

* `SettlesAt`: the step up to which a signature waits, and not beyond.
* `Accounted`: what the answers and the diagnostics of a run say of one signature.

Results:
* `step_keeps`, `step_settles`: what a step does to a signature that waits, at any depth.
* `exists_settlesAt`: in a unit that is ended, there is exactly one step that settles.
* `accounted_of_handed`: every signature that is handed over is accounted for.
-/

namespace TypeTags

namespace Attribution

/-- There is a diagnostic of the kind with the line. -/
def Reported (ds : List Diagnostic) (kind : DiagnosticKind) (line : Int) : Prop :=
  ∃ x ∈ ds, x.kind = kind ∧ x.line = some line

theorem Reported.append_left {ds : List Diagnostic} {kind : DiagnosticKind} {line : Int}
    (h : Reported ds kind line) (es : List Diagnostic) : Reported (ds ++ es) kind line := by
  obtain ⟨x, hx, hp⟩ := h
  exact ⟨x, List.mem_append_left _ hx, hp⟩

theorem Reported.append_right {es : List Diagnostic} {kind : DiagnosticKind} {line : Int}
    (h : Reported es kind line) (ds : List Diagnostic) : Reported (ds ++ es) kind line := by
  obtain ⟨x, hx, hp⟩ := h
  exact ⟨x, List.mem_append_right _ hx, hp⟩

/-! ## Signatures that are refused -/

theorem addSignature_refused (file : Option String) (scope : Scope) {t : SigText}
    (hl : 1 ≤ t.line) (hr : t.signature? = none) :
    ∃ scope' more, addSignature file scope t.text t.line = .ok (scope', more) ∧
      Reported more .malformedSignature t.line := by
  unfold SigText.signature? at hr
  cases he : (Signature.parse t.text t.line).result with
  | ok sig => simp [he, Except.toOption] at hr
  | error e =>
    cases e with
    | malformed fault =>
      refine ⟨scope, _, by simp only [addSignature, he]; rfl, ?_⟩
      exact Reported.append_right ⟨malformed file t.line fault, by simp, rfl, rfl⟩ _
    | lineBelowOne span => exact absurd he (Signature.parse_ne_lineBelowOne t.text hl span)

theorem absorbSegments_found (file : Option String) (segs : List Segment) (scope : Scope)
    (found : List Diagnostic) (run : List String) :
    ∃ more, (absorbSegments file scope found run segs).diagnostics = found ++ more := by
  induction segs generalizing scope found run with
  | nil => exact ⟨[], by simp [absorbSegments]⟩
  | cons s segs ih =>
    unfold absorbSegments
    split
    · exact ih _ _ _
    · dsimp only
      split
      · rename_i more _
        obtain ⟨more', h⟩ := ih _ (found ++ more) []
        exact ⟨more ++ more', by rw [h, List.append_assoc]⟩
      · exact ⟨[], by simp⟩
    · exact ih _ _ _
    · exact ih _ _ _

/-- Every signature of the segments that cannot be read is reported with its line. -/
theorem absorbSegments_refused (file : Option String) (segs : List Segment)
    (hl : ∀ s ∈ segs, 1 ≤ s.line) (scope : Scope) (found : List Diagnostic) (run : List String)
    {t : SigText} (ht : t ∈ sigTexts segs) (hr : t.signature? = none) :
    Reported (absorbSegments file scope found run segs).diagnostics .malformedSignature t.line := by
  induction segs generalizing scope found run with
  | nil => simp [sigTexts] at ht
  | cons s segs ih =>
    have hrest : ∀ u ∈ segs, 1 ≤ u.line := fun u hu => hl u (List.mem_cons_of_mem _ hu)
    have hline := hl s List.mem_cons_self
    rw [sigTexts_cons, List.mem_append] at ht
    unfold absorbSegments
    split
    · rename_i hk
      exact ih hrest _ _ _ (by simpa [hk] using ht)
    · rename_i hk
      rw [if_pos hk, List.mem_singleton] at ht
      dsimp only
      generalize (if run.isEmpty then scope
        else { scope with docRuns := scope.docRuns ++ [joinRun run] }) = commented
      rcases ht with rfl | ht
      · obtain ⟨scope', more, he, hmore⟩ := addSignature_refused file commented hline hr
        rw [he]
        obtain ⟨later, h⟩ := absorbSegments_found file segs scope' (found ++ more) []
        dsimp only
        rw [h]
        exact (hmore.append_right found).append_left later
      · obtain ⟨more, -, he⟩ := addSignature_spec file commented (String.ofList s.text) hline
        rw [he]
        exact ih hrest _ _ _ ht
    · rename_i hk
      exact ih hrest _ _ _ (by simpa [hk] using ht)
    · rename_i hk
      exact ih hrest _ _ _ (by simpa [hk] using ht)

/-- Every signature among those handed over that cannot be read is reported with its line. -/
def Refuses (a : Attribution) (handed : List SigText) : Prop :=
  ∀ t ∈ handed, t.signature? = none → Reported a.diagnostics .malformedSignature t.line

/-- A text is read into the innermost scope to its end, and what cannot be read is reported. -/
theorem absorb_refuses (a : Attribution) (text : String) {line : Int} (hl : 1 ≤ line) :
    ∃ b run, Took a b (sigsIn text line) ∧ b.Refuses (sigsIn text line) ∧
      a.absorb text line = (b, .ok run) := by
  obtain ⟨b, run, hb, h⟩ := a.absorb_took text hl
  refine ⟨b, run, hb, fun t ht hr => ?_, h⟩
  have hlines : ∀ s ∈ segments text.toList line, 1 ≤ s.line :=
    fun s hs => Int.le_trans hl (segments_line hs)
  have hreport := absorbSegments_refused a.file _ hlines a.current [] [] ht hr
  have hb : b = (a.absorb text line).1 := by rw [h]
  rw [hb]
  exact hreport.append_right a.diagnostics

theorem leaveScope_diagnostics (a : Attribution) : a.leaveScope.diagnostics =
    a.diagnostics ++ unclaimed a.file "end of scope" a.current.pending := by
  unfold leaveScope dropPending
  cases a.outer <;> rfl

theorem claim_diagnostics (a : Attribution) (d : Declaration) (run : String) :
    (a.claim d run).1.diagnostics = a.diagnostics ++
      if d.kind.isNamespace then unclaimed a.file (d.kind.name ++ " " ++ d.name) a.current.pending
      else [] := by
  unfold claim
  dsimp only
  split <;> simp [dropPending]

/-- A step reports what it hands over and what cannot be read. -/
theorem step_refuses (a : Attribution) (s : Step) (hs : s.Placed) :
    (a.step s).1.Refuses s.handed := by
  intro t ht hr
  cases s with
  | openScope => simp [Step.handed] at ht
  | closeScope text line =>
    obtain ⟨b, run, -, hb, h⟩ := a.absorb_refuses text hs
    simp only [step, closeScope, h, Prod.map_fst, id]
    rw [leaveScope_diagnostics]
    exact (hb t ht hr).append_left _
  | feed text line =>
    obtain ⟨b, run, -, hb, h⟩ := a.absorb_refuses text hs
    simp only [step, feed, h, Prod.map_fst, id]
    exact hb t ht hr
  | declare d =>
    obtain ⟨b, run, -, hb, h⟩ := a.absorb_refuses d.precedingText hs.1
    rw [Step.handed, handedBy, List.mem_append] at ht
    simp only [step, declare, h]
    split
    · rename_i hk
      rw [if_pos hk, List.mem_singleton] at ht
      unfold declareSignature
      dsimp only
      generalize hscope : ({ b.current with docRuns := _ } : Scope) = scope
      rcases ht with ht | rfl
      · obtain ⟨more, -, he⟩ := addSignature_spec b.file scope d.source hs.2
        rw [he]
        exact (hb t ht hr).append_left more
      · obtain ⟨scope', more, he, hmore⟩ := addSignature_refused b.file scope hs.2 hr
        rw [he]
        exact hmore.append_right b.diagnostics
    · rename_i hk
      have ht : t ∈ sigsIn d.precedingText d.precedingLine := by simpa [hk] using ht
      rw [claim_diagnostics]
      exact (hb t ht hr).append_left _
  | finish text line =>
    obtain ⟨b, run, -, hb, h⟩ := a.leaveInner.absorb_refuses text hs
    have hfinish : a.finish text line = (b.leaveScope, .ok ()) := by
      change a.leaveInner.closeScope text line = _
      simp [closeScope, h]
    simp only [step, hfinish, Prod.map_fst, id]
    rw [leaveScope_diagnostics]
    exact (hb t ht hr).append_left _

/-! ## Signatures that wait -/

/-- The signature waits in the scope that has `ℓ` scopes around it. -/
def HoldsIn (ℓ : Nat) (p : PendingSig) : List Scope → Prop
  | [] => False
  | scope :: outer => (outer.length = ℓ ∧ p ∈ scope.pending) ∨ HoldsIn ℓ p outer

theorem HoldsIn.lt {ℓ : Nat} {p : PendingSig} {scopes : List Scope} (h : HoldsIn ℓ p scopes) :
    ℓ < scopes.length := by
  induction scopes with
  | nil => exact h.elim
  | cons scope outer ih =>
    rw [List.length_cons]
    rcases h with ⟨hl, -⟩ | h
    · omega
    · have := ih h
      omega

/-- In the scope with the right number of scopes around it, the signature waits itself. -/
theorem HoldsIn.mem {p : PendingSig} {scope : Scope} {outer : List Scope}
    (h : HoldsIn outer.length p (scope :: outer)) : p ∈ scope.pending := by
  rcases h with ⟨-, hp⟩ | h
  · exact hp
  · exact absurd h.lt (Nat.lt_irrefl _)

/-- What a scope takes in waits there, with what waited before. -/
theorem Took.holds {a b : Attribution} {handed : List SigText} (hb : Took a b handed) {ℓ : Nat}
    {p : PendingSig} (h : HoldsIn ℓ p a.scopes ∨
      (a.outer.length = ℓ ∧ p ∈ handed.filterMap SigText.pending?)) : HoldsIn ℓ p b.scopes := by
  rw [scopes, HoldsIn, hb.outer, hb.pending, List.mem_append]
  rcases h with (⟨hl, hp⟩ | h) | ⟨hl, hp⟩
  · exact .inl ⟨hl, .inl hp⟩
  · exact .inr h
  · exact .inl ⟨hl, .inr hp⟩

/-- What waits in an outer scope goes on waiting when the innermost one is left. -/
theorem leaveScope_keeps (a : Attribution) {ℓ : Nat} {p : PendingSig} (h : HoldsIn ℓ p a.outer) :
    HoldsIn ℓ p a.leaveScope.scopes := by
  unfold leaveScope dropPending
  cases ho : a.outer with
  | nil => rw [ho] at h; exact h.elim
  | cons scope outer => rw [ho] at h; exact h

theorem claim_scopes (a : Attribution) (d : Declaration) (run : String) :
    (a.claim d run).1.scopes = {} :: a.outer := by
  unfold claim
  dsimp only
  split <;> rfl

/-- A signature that waits, or is handed over, goes on waiting if the step neither leaves its body
nor empties it. -/
theorem step_keeps (a : Attribution) (s : Step) (hs : s.Placed) {ℓ : Nat} {p : PendingSig}
    (h : HoldsIn ℓ p a.scopes ∨ (a.outer.length = ℓ ∧ p ∈ s.handed.filterMap SigText.pending?))
    (he : s.empties (a.outer.length = ℓ) = false) : HoldsIn ℓ p (a.step s).1.scopes := by
  cases s with
  | openScope =>
    rcases h with h | ⟨-, hp⟩
    · exact .inr h
    · simp [Step.handed] at hp
  | closeScope text line =>
    obtain ⟨b, hb, hstep⟩ := a.closeScope_took text hs
    simp only [Step.empties, decide_eq_false_iff_not] at he
    rcases hb.holds h with ⟨hl, -⟩ | hout
    · exact absurd (hb.outer ▸ hl) he
    · simp only [step, hstep, Prod.map_fst, id]
      exact b.leaveScope_keeps hout
  | feed text line =>
    obtain ⟨b, hb, hstep⟩ := a.feed_took text hs
    simp only [step, hstep, Prod.map_fst, id]
    exact hb.holds h
  | declare d =>
    obtain ⟨b, run, hb, hstep⟩ := a.declare_took d hs.1 hs.2
    have hholds := hb.holds h
    simp only [step, hstep]
    split
    · exact hholds
    · rename_i hk
      simp only [Step.empties, Bool.and_eq_false_iff, decide_eq_false_iff_not, bne_eq_false_iff_eq]
        at he
      rw [claim_scopes]
      rcases hholds with ⟨hl, -⟩ | hout
      · rcases he with he | he
        · exact absurd (hb.outer ▸ hl) he
        · exact absurd he hk
      · exact .inr hout
  | finish text line => simp [Step.empties] at he

/-! ### Settling -/

theorem reported_unclaimed (file : Option String) (reason : String) {p : PendingSig}
    {pending : List PendingSig} (h : p ∈ pending) :
    Reported (unclaimed file reason pending) .unmatchedSignature p.line :=
  ⟨_, List.mem_map_of_mem h, rfl, rfl⟩

/-- Leaving a scope reports a signature or leaves it where it is. -/
theorem leaveScope_settles (a : Attribution) {ℓ : Nat} {p : PendingSig}
    (h : HoldsIn ℓ p a.scopes) :
    Reported a.leaveScope.diagnostics .unmatchedSignature p.line ∨
      HoldsIn ℓ p a.leaveScope.scopes := by
  rcases h with ⟨-, hp⟩ | hout
  · left
    rw [leaveScope_diagnostics]
    exact (reported_unclaimed _ _ hp).append_right _
  · exact .inr (a.leaveScope_keeps hout)

/-- Leaving all inner bodies reports a signature or leaves it in the outermost one. -/
theorem leaveInner_settles (a : Attribution) {ℓ : Nat} {p : PendingSig}
    (h : HoldsIn ℓ p a.scopes) :
    Reported a.leaveInner.diagnostics .unmatchedSignature p.line ∨
      p ∈ a.leaveInner.current.pending := by
  have hall : Reported a.leaveInner.diagnostics .unmatchedSignature p.line ∨
      HoldsIn ℓ p a.leaveInner.scopes := by
    refine leaveInner_induction (P := fun b =>
      Reported b.diagnostics .unmatchedSignature p.line ∨ HoldsIn ℓ p b.scopes) (.inr h) ?_
    rintro b (hr | hh)
    · rw [leaveScope_diagnostics]
      exact .inl (hr.append_left _)
    · exact b.leaveScope_settles hh
  rcases hall with hr | hh
  · exact .inl hr
  · right
    have hout : a.leaveInner.outer = [] := a.leaveInner_outer
    have hscopes : HoldsIn ℓ p a.leaveInner.scopes := hh
    rw [scopes, hout] at hscopes
    rcases hscopes with ⟨-, hp⟩ | hf
    · exact hp
    · exact hf.elim

/-- Whether the step is a declaration that claims the signatures before it. -/
def Step.claiming : Step → Bool
  | .declare d => claims d.kind
  | _ => false

/-- A step that leaves the body of a signature or empties it is a declaration in that body, which
claims what waits there, or it reports the signature. -/
theorem step_settles (a : Attribution) (s : Step) (hs : s.Placed) {ℓ : Nat} {p : PendingSig}
    (h : HoldsIn ℓ p a.scopes ∨ (a.outer.length = ℓ ∧ p ∈ s.handed.filterMap SigText.pending?))
    (he : ¬ (ℓ ≤ s.deepen a.outer.length ∧ s.empties (a.outer.length = ℓ) = false)) :
    if s.claiming then a.outer.length = ℓ
    else Reported (a.step s).1.diagnostics .unmatchedSignature p.line := by
  have hle : ℓ ≤ a.outer.length := by
    rcases h with h | ⟨hl, -⟩
    · have := h.lt
      rw [scopes, List.length_cons] at this
      omega
    · omega
  cases s with
  | openScope => exact absurd ⟨Nat.le_succ_of_le hle, rfl⟩ he
  | closeScope text line =>
    have hl : a.outer.length = ℓ := by
      by_cases hl : a.outer.length = ℓ
      · exact hl
      · refine absurd ⟨?_, by simp [Step.empties, hl]⟩ he
        rw [Step.deepen]
        omega
    obtain ⟨b, hb, hstep⟩ := a.closeScope_took text hs
    have hholds := hb.holds h
    rw [← hl, ← hb.outer] at hholds
    simp only [Step.claiming, Bool.false_eq_true, if_false, step, hstep, Prod.map_fst, id]
    rw [leaveScope_diagnostics]
    exact (reported_unclaimed _ _ hholds.mem).append_right _
  | feed text line => exact absurd ⟨hle, rfl⟩ he
  | declare d =>
    by_cases hsig : d.kind = .signature
    · exact absurd ⟨hle, by simp [Step.empties, hsig]⟩ he
    have hl : a.outer.length = ℓ := by
      by_cases hl : a.outer.length = ℓ
      · exact hl
      · exact absurd ⟨hle, by simp [Step.empties, hl]⟩ he
    rw [Step.claiming]
    split
    · exact hl
    · rename_i hk
      have hn : d.kind.isNamespace = true := by
        cases hd : d.kind <;> simp [hd, claims] at hk hsig <;> rfl
      obtain ⟨b, run, hb, hstep⟩ := a.declare_took d hs.1 hs.2
      have hholds := hb.holds h
      rw [← hl, ← hb.outer] at hholds
      simp only [step, hstep, if_neg hsig]
      rw [claim_diagnostics, if_pos hn]
      exact (reported_unclaimed _ _ hholds.mem).append_right _
  | finish text line =>
    obtain ⟨b, hb, hstep⟩ := a.finish_took text hs
    simp only [Step.claiming, Bool.false_eq_true, if_false, step, hstep, Prod.map_fst, id]
    rw [leaveScope_diagnostics]
    obtain ⟨more, -, hd⟩ := hb.diagnostics
    rcases h with h | ⟨-, hp⟩
    · rcases a.leaveInner_settles h with hr | hp
      · rw [hd]
        exact (hr.append_left more).append_left _
      · refine (reported_unclaimed _ _ ?_).append_right _
        rw [hb.pending]
        exact List.mem_append_left _ hp
    · refine (reported_unclaimed _ _ ?_).append_right _
      rw [hb.pending]
      exact List.mem_append_right _ hp

/-! ## Whole runs -/

/-- What step `j` handed over at depth `ℓ` waits up to step `i` and not beyond it. -/
def SettlesAt (steps : List Step) (ℓ j i : Nat) : Prop :=
  i < steps.length ∧ Waits steps ℓ j i ∧ ¬ Waits steps ℓ j (i + 1)

instance (steps : List Step) (ℓ j i : Nat) : Decidable (SettlesAt steps ℓ j i) :=
  inferInstanceAs (Decidable (_ ∧ _ ∧ _))

theorem Waits.of_le {steps : List Step} {ℓ j i k : Nat} (h : Waits steps ℓ j k) (hik : i ≤ k) :
    Waits steps ℓ j i :=
  ⟨h.1, fun m hm hj => h.2 m (Nat.lt_of_lt_of_le hm hik) hj⟩

theorem SettlesAt.le {steps : List Step} {ℓ j i : Nat} (h : SettlesAt steps ℓ j i) : j ≤ i := by
  obtain ⟨-, hw, hn⟩ := h
  rcases Nat.lt_or_ge i j with hlt | hge
  · exact absurd ⟨hw.1, fun k hk hj => absurd hj (by omega)⟩ hn
  · exact hge

/-- A signature is settled once. -/
theorem SettlesAt.unique {steps : List Step} {ℓ j i k : Nat} (h : SettlesAt steps ℓ j i)
    (h' : SettlesAt steps ℓ j k) : k = i := by
  rcases Nat.lt_trichotomy k i with hlt | he | hgt
  · exact absurd (h.2.1.of_le hlt) h'.2.2
  · exact he
  · exact absurd (h'.2.1.of_le hgt) h.2.2

/-- In a unit that is ended every signature is settled. -/
theorem exists_settlesAt {steps : List Step} {text : String} {line : Int}
    (hend : steps.getLast? = some (.finish text line)) {j : Nat} (hj : j < steps.length) :
    ∃ i, SettlesAt steps (depthAt steps j) j i := by
  have hself : Waits steps (depthAt steps j) j j := waits_self.2 rfl
  have hlast : ¬ Waits steps (depthAt steps j) j steps.length := by
    rintro ⟨-, hk⟩
    rw [List.getLast?_eq_getElem?] at hend
    have := (hk (steps.length - 1) (by omega) (by omega)).2
    simp [hend, Step.empties] at this
  -- the first step after which it no longer waits
  have hfind : ∀ n, j + n ≤ steps.length → ¬ Waits steps (depthAt steps j) j (j + n) →
      ∃ i, SettlesAt steps (depthAt steps j) j i := by
    intro n
    induction n with
    | zero => exact fun _ hn => absurd hself hn
    | succ n ih =>
      intro hle hn
      by_cases hw : Waits steps (depthAt steps j) j (j + n)
      · exact ⟨j + n, by omega, hw, hn⟩
      · exact ih (by omega) hw
  refine hfind (steps.length - j) (by omega) ?_
  rwa [show j + (steps.length - j) = steps.length by omega]

section Run

variable (file : Option String) {steps : List Step}

theorem outer_length (hs : ∀ s ∈ steps, s.Placed) {i : Nat} (hi : i ≤ steps.length) :
    (stateAt { file } steps i).outer.length = depthAt steps i := by
  have h := congrArg List.length (waiting_run { file } steps hs rfl i hi)
  simpa [holdings, scopes, below_length] using h

theorem reported_run (i : Nat) {kind : DiagnosticKind} {line : Int}
    (h : Reported (stateAt { file } steps i).diagnostics kind line) :
    Reported (run { file } steps).1.diagnostics kind line := by
  obtain ⟨later, hd, -⟩ := run_inserted (stateAt { file } steps i) [] (steps.drop i)
  have hrun : (run { file } steps).1 = ((stateAt { file } steps i).run (steps.drop i)).1 := by
    rw [stateAt, ← congrArg Prod.fst (run_append { file } (steps.take i) (steps.drop i)),
      List.take_append_drop]
  rw [hrun, hd]
  exact h.append_left later

/-- A signature that is handed over at step `j` is found in its scope, or at the step itself, for as
long as it waits. -/
theorem holds_of_waits (hs : ∀ s ∈ steps, s.Placed) {j : Nat} {s : Step}
    (hj : steps[j]? = some s) {p : PendingSig} (hp : p ∈ s.handed.filterMap SigText.pending?)
    {i : Nat} {r : Step} (hi : steps[i]? = some r) (hji : j ≤ i)
    (hw : Waits steps (depthAt steps j) j i) :
    HoldsIn (depthAt steps j) p (stateAt { file } steps i).scopes ∨
      ((stateAt { file } steps i).outer.length = depthAt steps j ∧
        p ∈ r.handed.filterMap SigText.pending?) := by
  induction i generalizing r with
  | zero =>
    obtain rfl : j = 0 := by omega
    obtain rfl : s = r := by simpa [hj] using hi
    exact .inr ⟨outer_length file hs (by omega), hp⟩
  | succ i ih =>
    have hlen : i + 1 < steps.length := (List.getElem?_eq_some_iff.1 hi).1
    rcases Nat.lt_or_ge i j with hlt | hge
    · obtain rfl : j = i + 1 := by omega
      obtain rfl : s = r := by simpa [hj] using hi
      exact .inr ⟨outer_length file hs (by omega), hp⟩
    · obtain ⟨q, hq⟩ : ∃ q, steps[i]? = some q := ⟨steps[i], List.getElem?_eq_getElem (by omega)⟩
      have hih := ih hq hge (hw.of_le (Nat.le_succ i))
      have hkeep := ((waits_succ hq hge).1 hw).2.2
      left
      rw [stateAt_succ hq]
      refine step_keeps _ q (hs q (List.mem_of_getElem? hq)) hih ?_
      rw [outer_length file hs (by omega)]
      simpa using hkeep

/-- What a run says of a signature that step `j` hands over. One that cannot be read is reported as
malformed. One that can be read is settled by exactly one step. If that is a method or an attribute,
the answer to it has the signature among those that are folded, and the declaration stands in the
same body; otherwise the signature is reported as unmatched. -/
def Accounted (file : Option String) (steps : List Step) (j : Nat) (t : SigText) : Prop :=
  match t.signature? with
  | none => Reported (run { file } steps).1.diagnostics .malformedSignature t.line
  | some sig => ∃ i s, steps[i]? = some s ∧ SettlesAt steps (depthAt steps j) j i ∧
      (∀ k, SettlesAt steps (depthAt steps j) j k → k = i) ∧
      if s.claiming then
        depthAt steps i = depthAt steps j ∧ sig ∈ chain steps i ∧
          ∃ as, (run { file } steps).2[i]? = some (.ok (some as)) ∧
            s = .declare as.declaration ∧ as.signature = Signature.fold? (chain steps i)
      else Reported (run { file } steps).1.diagnostics .unmatchedSignature t.line

theorem mem_chain {j i : Nat} {s : Step} (hj : steps[j]? = some s) {t : SigText}
    (ht : t ∈ s.handed) {sig : Signature} (hsig : t.signature? = some sig) (hji : j ≤ i)
    (hd : depthAt steps i = depthAt steps j) (hw : Waits steps (depthAt steps j) j i) :
    sig ∈ chain steps i := by
  have hmem : sig ∈ signaturesAt steps j := by
    simp only [signaturesAt, hj, Option.map_some, Option.getD_some, Step.signatures]
    exact List.mem_filterMap.2 ⟨t, ht, hsig⟩
  unfold chain
  rw [hd]
  rcases Nat.lt_or_eq_of_le hji with hlt | rfl
  · refine List.mem_append_left _ (List.mem_flatMap.2 ⟨j, ?_, hmem⟩)
    simp [hlt, hw]
  · exact List.mem_append_right _ hmem

/-- A declaration that claims is answered with the fold of its chain. -/
theorem run_claiming (hs : ∀ s ∈ steps, s.Placed) {i : Nat} {d : Declaration}
    (hd : steps[i]? = some (.declare d)) (hk : claims d.kind = true) :
    ∃ as, (run { file } steps).2[i]? = some (.ok (some as)) ∧
      Step.declare d = .declare as.declaration ∧
      as.signature = Signature.fold? (chain steps i) := by
  have hi : i ≤ steps.length := Nat.le_of_lt (List.getElem?_eq_some_iff.1 hd).1
  have hwait := waiting_current { file } steps hs rfl hi
  obtain ⟨hp, hl⟩ : Step.Placed (.declare d) := hs _ (List.mem_of_getElem? hd)
  obtain ⟨b, r, hb, h⟩ := (stateAt { file } steps i).declare_took d hp hl
  obtain ⟨hself, hfold⟩ := b.claim_association d r
  have hne : d.kind ≠ .signature := by
    intro e
    rw [e] at hk
    cases hk
  refine ⟨(b.claim d r).2, ?_, by rw [hself], ?_⟩
  · rw [run_answer hd]
    simp only [step, h, if_neg hne]
  · rw [(hfold hk).1, hb.held, hwait]
    simp [chain, signaturesAt, hd, Step.signatures, Step.handed]

/-- Every signature that is handed over in a unit that is ended is accounted for. -/
theorem accounted_of_handed (hs : ∀ s ∈ steps, s.Placed) {text : String} {line : Int}
    (hend : steps.getLast? = some (.finish text line)) {j : Nat} {s : Step}
    (hj : steps[j]? = some s) {t : SigText} (ht : t ∈ s.handed) : Accounted file steps j t := by
  unfold Accounted
  cases hsig : t.signature? with
  | none =>
    refine reported_run file (j + 1) ?_
    rw [stateAt_succ hj]
    exact step_refuses _ s (hs s (List.mem_of_getElem? hj)) t ht hsig
  | some sig =>
    have hp : (⟨sig, t.line⟩ : PendingSig) ∈ s.handed.filterMap SigText.pending? :=
      List.mem_filterMap.2 ⟨t, ht, by simp [SigText.pending?, hsig]⟩
    obtain ⟨i, hi⟩ := exists_settlesAt hend (List.getElem?_eq_some_iff.1 hj).1
    have hlt := hi.1
    obtain ⟨r, hr⟩ : ∃ r, steps[i]? = some r := ⟨steps[i], List.getElem?_eq_getElem hlt⟩
    have hlen := outer_length file hs (Nat.le_of_lt hlt)
    have hheld := holds_of_waits file hs hj hp hr hi.le hi.2.1
    -- the step after which it no longer waits leaves its body or empties it
    have hstop := hi.2.2
    rw [waits_succ hr hi.le, depthAt_succ hr, ← hlen] at hstop
    have hsettle := step_settles _ r (hs r (List.mem_of_getElem? hr)) hheld fun hc =>
      hstop ⟨hi.2.1, hc.1, by simpa using hc.2⟩
    refine ⟨i, r, hr, hi, fun k hk => hi.unique hk, ?_⟩
    cases hclaim : r.claiming with
    | true =>
      rw [hclaim, if_pos rfl, hlen] at hsettle
      obtain ⟨d, rfl⟩ : ∃ d, r = .declare d := by
        cases r with
        | declare d => exact ⟨d, rfl⟩
        | _ => cases hclaim
      exact ⟨hsettle, mem_chain hj ht hsig hi.le hsettle hi.2.1, run_claiming file hs hr hclaim⟩
    | false =>
      rw [hclaim] at hsettle
      refine reported_run file (i + 1) ?_
      rw [stateAt_succ hr]
      exact hsettle

end Run

end Attribution

end TypeTags
