import TypeTags.Proofs.Attribution.Accounting
import TypeTags.Proofs.Signature.Sound

/-!
# A malformed signature stays alone

What the machine has reported so far has no influence on what it does next: every step adds its own
diagnostics behind the ones that are there and does otherwise the same (`step_behind`). A signature
block that cannot be read changes nothing but the diagnostics. So two runs that differ by such a
block agree from there on, step by step, and their diagnostics differ by the ones of the block.

Results:
* `Signature.parse_malformed`: what a text is refused for does not depend on its line.
* `step_behind`, `run_behind`: earlier diagnostics are carried along.
* `malformed_isolated`: a run with a malformed block put into it, compared with the run without.
-/

namespace TypeTags

namespace Signature

/-- A text that is refused as malformed on one line is refused for the same fault, with the same
notes, on every other. -/
theorem parse_malformed {text : String} {line : Int} {fault : Fault}
    (h : (parse text line).result = .error (.malformed fault)) (other : Int) :
    (parse text other).result = .error (.malformed fault) ∧
      (parse text other).notes = (parse text line).notes := by
  unfold parse at h ⊢
  dsimp only at h ⊢
  split at h
  · exact ⟨h, rfl⟩
  · split at h
    · exact ⟨h, rfl⟩
    · exact ⟨h, rfl⟩
    · split at h
      · exact ⟨h, rfl⟩
      · exact absurd h (placed_ne_malformed _ _ _)

end Signature

namespace Attribution

/-- The state with more diagnostics before its own. -/
def behind (a : Attribution) (earlier : List Diagnostic) : Attribution :=
  { a with diagnostics := earlier ++ a.diagnostics }

/-! ## Earlier diagnostics are carried along -/

theorem absorb_behind (a : Attribution) (earlier : List Diagnostic) (text : String) (line : Int) :
    (a.behind earlier).absorb text line =
      ((a.absorb text line).1.behind earlier, (a.absorb text line).2) := by
  simp [absorb, behind]

theorem leaveScope_behind (a : Attribution) (earlier : List Diagnostic) :
    (a.behind earlier).leaveScope = a.leaveScope.behind earlier := by
  unfold leaveScope
  cases h : a.outer <;> simp [dropPending, behind, h]

theorem closeScope_behind (a : Attribution) (earlier : List Diagnostic) (text : String)
    (line : Int) : (a.behind earlier).closeScope text line =
      ((a.closeScope text line).1.behind earlier, (a.closeScope text line).2) := by
  unfold closeScope
  rw [absorb_behind]
  rcases h : a.absorb text line with ⟨b, answer⟩
  cases answer with
  | ok run => simp [leaveScope_behind]
  | error span => rfl

theorem feed_behind (a : Attribution) (earlier : List Diagnostic) (text : String) (line : Int) :
    (a.behind earlier).feed text line =
      ((a.feed text line).1.behind earlier, (a.feed text line).2) := by
  unfold feed
  rw [absorb_behind]
  rcases h : a.absorb text line with ⟨b, answer⟩
  cases answer <;> rfl

theorem leaveInner_behind (a : Attribution) (earlier : List Diagnostic) :
    (a.behind earlier).leaveInner = a.leaveInner.behind earlier := by
  refine List.foldl_hom (fun b : Attribution => b.behind earlier) ?_
  exact fun b _ => leaveScope_behind b earlier

theorem finish_behind (a : Attribution) (earlier : List Diagnostic) (text : String) (line : Int) :
    (a.behind earlier).finish text line =
      ((a.finish text line).1.behind earlier, (a.finish text line).2) := by
  have h : ∀ b : Attribution, b.finish text line = b.leaveInner.closeScope text line := fun b => rfl
  rw [h, h, leaveInner_behind, closeScope_behind]

theorem declareSignature_behind (a : Attribution) (earlier : List Diagnostic) (d : Declaration)
    (run : String) : (a.behind earlier).declareSignature d run =
      ((a.declareSignature d run).1.behind earlier, (a.declareSignature d run).2) := by
  unfold declareSignature
  simp only [behind]
  split <;> simp

theorem claim_behind (a : Attribution) (earlier : List Diagnostic) (d : Declaration)
    (run : String) : (a.behind earlier).claim d run =
      ((a.claim d run).1.behind earlier, (a.claim d run).2) := by
  unfold claim
  dsimp only [behind, dropPending]
  split
  · simp
  · rfl

theorem declare_behind (a : Attribution) (earlier : List Diagnostic) (d : Declaration) :
    (a.behind earlier).declare d = ((a.declare d).1.behind earlier, (a.declare d).2) := by
  unfold declare
  rw [absorb_behind]
  rcases h : a.absorb d.precedingText d.precedingLine with ⟨b, answer⟩
  cases answer with
  | error span => rfl
  | ok run =>
    dsimp only
    split
    · exact declareSignature_behind b earlier d run
    · rw [claim_behind]

/-- **Step.** A step does the same whatever was reported before it. -/
theorem step_behind (a : Attribution) (earlier : List Diagnostic) (s : Step) :
    (a.behind earlier).step s = ((a.step s).1.behind earlier, (a.step s).2) := by
  cases s with
  | openScope => rfl
  | closeScope text line => simp [step, closeScope_behind]
  | feed text line => simp [step, feed_behind]
  | declare d => exact declare_behind a earlier d
  | finish text line => simp [step, finish_behind]

/-- **Run.** So does a run. -/
theorem run_behind (a : Attribution) (earlier : List Diagnostic) (steps : List Step) :
    (a.behind earlier).run steps = ((a.run steps).1.behind earlier, (a.run steps).2) := by
  induction steps generalizing a with
  | nil => rfl
  | cons s steps ih => simp [run, step_behind, ih]

theorem run_append (a : Attribution) (first second : List Step) :
    a.run (first ++ second) =
      (((a.run first).1.run second).1, (a.run first).2 ++ ((a.run first).1.run second).2) := by
  induction first generalizing a with
  | nil => rfl
  | cons s first ih => simp [run, ih]

/-! ## The name of the unit -/

theorem leaveScope_file (a : Attribution) : a.leaveScope.file = a.file := by
  unfold leaveScope dropPending
  dsimp only
  split <;> rfl

theorem absorb_file (a : Attribution) (text : String) (line : Int) :
    (a.absorb text line).1.file = a.file := rfl

theorem closeScope_file (a : Attribution) (text : String) (line : Int) :
    (a.closeScope text line).1.file = a.file := by
  have hb := a.absorb_file text line
  unfold closeScope
  rcases h : a.absorb text line with ⟨b, answer⟩
  rw [h] at hb
  cases answer with
  | ok run => exact b.leaveScope_file.trans hb
  | error span => exact hb

theorem feed_file (a : Attribution) (text : String) (line : Int) :
    (a.feed text line).1.file = a.file := by
  have hb := a.absorb_file text line
  unfold feed
  rcases h : a.absorb text line with ⟨b, answer⟩
  rw [h] at hb
  cases answer <;> exact hb

theorem leaveInner_file (a : Attribution) : a.leaveInner.file = a.file :=
  leaveInner_induction (P := (·.file = a.file)) rfl fun b hb => b.leaveScope_file.trans hb

theorem declare_file (a : Attribution) (d : Declaration) : (a.declare d).1.file = a.file := by
  have hb := a.absorb_file d.precedingText d.precedingLine
  unfold declare
  rcases h : a.absorb d.precedingText d.precedingLine with ⟨b, answer⟩
  rw [h] at hb
  cases answer with
  | error span => exact hb
  | ok run =>
    dsimp only
    split
    · unfold declareSignature
      dsimp only
      split <;> exact hb
    · unfold claim
      dsimp only
      split <;> exact hb

theorem step_file (a : Attribution) (s : Step) : (a.step s).1.file = a.file := by
  cases s with
  | openScope => rfl
  | closeScope text line => exact a.closeScope_file text line
  | feed text line => exact a.feed_file text line
  | declare d => exact a.declare_file d
  | finish text line => exact (closeScope_file _ text line).trans a.leaveInner_file

theorem run_file (a : Attribution) (steps : List Step) : (a.run steps).1.file = a.file := by
  induction steps generalizing a with
  | nil => rfl
  | cons s steps ih => exact (ih _).trans (a.step_file s)

/-! ## A malformed block -/

/-- The diagnostics of a signature block that is refused for a fault: its open procedure types, then
the fault. -/
def refusal (file : Option String) (d : Declaration) (fault : Fault) : List Diagnostic :=
  unclosedProcs file d.line (Signature.parse d.source d.line).notes ++ [malformed file d.line fault]

/-- A signature block by itself that cannot be read is reported, and nothing else happens. -/
theorem declare_malformed {a : Attribution} {file : Option String} (hf : a.file = file)
    {d : Declaration} (hk : d.kind = .signature) (ht : d.precedingText = "") {fault : Fault}
    (hm : (Signature.parse d.source d.line).result = .error (.malformed fault)) :
    a.declare d = ({ a with diagnostics := a.diagnostics ++ refusal file d fault }, .ok none) := by
  have habsorb : a.absorb d.precedingText d.precedingLine = (a, .ok "") := by
    rw [ht, absorb_empty]
  simp [declare, habsorb, hk, declareSignature, withRun, addSignature, hm, refusal, hf]

/-- The kinds of the diagnostics of a refused block, and where they are. -/
theorem refusal_spec (file : Option String) (d : Declaration) (fault : Fault) :
    (refusal file d fault).map (·.kind) =
        (Signature.parse d.source d.line).notes.map (fun _ => DiagnosticKind.unresolvedProcSpan)
          ++ [DiagnosticKind.malformedSignature] ∧
      (∀ x ∈ refusal file d fault, x.line = some d.line ∧ x.file = file) ∧
      (refusal file d fault).getLast?.map (·.message) = some fault.message := by
  refine ⟨?_, ?_, by simp [refusal, malformed]⟩
  · simp only [refusal, unclosedProcs, List.map_append, List.map_map, List.map_cons, List.map_nil]
    rfl
  intro x hx
  simp only [refusal, unclosedProcs, List.mem_append, List.mem_map, List.mem_singleton] at hx
  rcases hx with ⟨note, -, rfl⟩ | rfl
  · exact ⟨rfl, rfl⟩
  · exact ⟨rfl, rfl⟩

/-- Two runs from states that differ by diagnostics in the middle. -/
theorem run_inserted (a : Attribution) (block : List Diagnostic) (steps : List Step) :
    ∃ later, (a.run steps).1.diagnostics = a.diagnostics ++ later ∧
      ({ a with diagnostics := a.diagnostics ++ block } : Attribution).run steps =
        ({ (a.run steps).1 with diagnostics := a.diagnostics ++ block ++ later },
          (a.run steps).2) := by
  let quiet : Attribution := { a with diagnostics := [] }
  have ha : a = quiet.behind a.diagnostics := by simp [quiet, behind]
  have hb : ({ a with diagnostics := a.diagnostics ++ block } : Attribution) =
      quiet.behind (a.diagnostics ++ block) := by simp [quiet, behind]
  have hrun : a.run steps =
      ((quiet.run steps).1.behind a.diagnostics, (quiet.run steps).2) := by
    rw [← run_behind, ← ha]
  refine ⟨(quiet.run steps).1.diagnostics, by rw [hrun]; rfl, ?_⟩
  rw [hb, run_behind, hrun]
  rfl

/-- **Isolation.** Put a signature block that is refused, on whatever line, between two parts of a
run. The later answers are the same, and so is every later state but for the diagnostics, which
hold those of the block in addition, right behind the ones reported before it: the procedure types
left open, then the fault, all on the line of the block. -/
theorem malformed_isolated (file : Option String) (before after : List Step) {d : Declaration}
    (hk : d.kind = .signature) (ht : d.precedingText = "") {line : Int} {fault : Fault}
    (hm : (Signature.parse d.source line).result = .error (.malformed fault)) :
    (∃ later, (run { file } (before ++ after)).2 = (run { file } before).2 ++ later ∧
      (run { file } (before ++ .declare d :: after)).2 =
        (run { file } before).2 ++ .ok none :: later) ∧
    (∀ i ≤ after.length, ∃ later,
      (stateAt { file } (before ++ after) (before.length + i)).diagnostics =
        (run { file } before).1.diagnostics ++ later ∧
      stateAt { file } (before ++ .declare d :: after) (before.length + 1 + i) =
        { stateAt { file } (before ++ after) (before.length + i) with
          diagnostics := (run { file } before).1.diagnostics ++ refusal file d fault ++ later }) ∧
    (refusal file d fault).map (·.kind) =
      (Signature.parse d.source line).notes.map (fun _ => .unresolvedProcSpan)
        ++ [.malformedSignature] ∧
    (refusal file d fault).getLast?.map (·.message) = some fault.message ∧
    ∀ x ∈ refusal file d fault, x.line = some d.line ∧ x.file = file := by
  obtain ⟨hm, hnotes⟩ := Signature.parse_malformed hm d.line
  have hd := declare_malformed (run_file { file } before) hk ht hm
  obtain ⟨hkinds, hplace, hmessage⟩ := refusal_spec file d fault
  refine ⟨?_, ?_, hnotes ▸ hkinds, hmessage, hplace⟩
  · obtain ⟨later, -, hrun⟩ := run_inserted (run { file } before).1 (refusal file d fault) after
    refine ⟨((run { file } before).1.run after).2, by rw [run_append], ?_⟩
    rw [run_append]
    simp only [run, step, hd, hrun]
  · intro i hi
    obtain ⟨later, hlater, hrun⟩ :=
      run_inserted (run { file } before).1 (refusal file d fault) (after.take i)
    have h1 : (before ++ after).take (before.length + i) = before ++ after.take i := by
      rw [List.take_length_add_append]
    have h2 : (before ++ .declare d :: after).take (before.length + 1 + i) =
        before ++ .declare d :: after.take i := by
      rw [Nat.add_assoc, List.take_length_add_append, Nat.add_comm 1 i, List.take_succ_cons]
    refine ⟨later, ?_, ?_⟩
    · rw [stateAt, h1, run_append]
      exact hlater
    · rw [stateAt, stateAt, h1, h2, run_append, run_append]
      simp only [run, step, hd, hrun]

/-- A block whose procedure type and parameters stay open. -/
def openBlock : Declaration :=
  { kind := .signature, source := "params(f: T.proc.params(x: A", line := 7 }

/-- A signature that waits below a comment, before the block. -/
def commentedSig : Step := .feed "# The comment.\nsig \x7b void \x7d\n" 1

theorem malformed_isolated_openBlock :
    ∃ fault, (Signature.parse openBlock.source 1).result = .error (.malformed fault) ∧
      (refusal none openBlock fault).map (·.kind) = [.unresolvedProcSpan, .malformedSignature] ∧
      (∀ x ∈ refusal none openBlock fault, x.line = some 7 ∧ x.file = none) ∧
      ∃ later, (run {} ([commentedSig] ++ [.declare { kind := .method }])).2 =
          (run {} [commentedSig]).2 ++ later ∧
        (run {} ([commentedSig] ++ [.declare openBlock, .declare { kind := .method }])).2 =
          (run {} [commentedSig]).2 ++ .ok none :: later := by
  have hrefused : (Signature.parse openBlock.source 1).result.toOption.isNone = true := by
    decide +kernel
  obtain ⟨fault, hfault⟩ : ∃ fault,
      (Signature.parse openBlock.source 1).result = .error (.malformed fault) := by
    cases he : (Signature.parse openBlock.source 1).result with
    | ok sig => rw [he] at hrefused; cases hrefused
    | error e =>
      cases e with
      | malformed fault => exact ⟨fault, rfl⟩
      | lineBelowOne span =>
        exact absurd he (Signature.parse_ne_lineBelowOne _ (Int.le_refl 1) span)
  have hnotes : (Signature.parse openBlock.source 1).notes.map
      (fun _ => DiagnosticKind.unresolvedProcSpan) = [.unresolvedProcSpan] := by decide +kernel
  obtain ⟨hanswers, -, hkinds, -, hplace⟩ := malformed_isolated none [commentedSig]
    [.declare { kind := .method }] (d := openBlock) rfl rfl hfault
  rw [hnotes] at hkinds
  exact ⟨fault, hfault, hkinds, hplace, hanswers⟩

end Attribution

end TypeTags
