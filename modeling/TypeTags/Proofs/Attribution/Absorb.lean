import TypeTags.Attribution
import TypeTags.Proofs.Signature.Lines

/-!
# What a scope takes in

The signatures of a text are its signature segments; those that can be read wait in the scope, in
order, behind the ones that waited before, and each of the others gives one diagnostic. Texts that
start on line 1 or later are always read to their end.

Results:
* `addSignature_spec`: what handing over one signature does.
* `absorb_took`: what reading a text does to the innermost scope and to the diagnostics.
* `feed_took`, `closeScope_took`, `finish_took`, `declare_took`: every operation takes signatures in
  first, and only then leaves a scope or claims what waits there.
-/

namespace TypeTags

namespace Segment

theorem fromLines_line {isFirst inBlock : Bool} {skip : Nat} {line : Int} {rest : List Char}
    {pieces : List (List Char)} {s : Segment}
    (h : s ∈ fromLines isFirst inBlock skip line rest pieces) : line ≤ s.line := by
  induction pieces generalizing isFirst inBlock skip line rest with
  | nil => simp [fromLines] at h
  | cons piece pieces ih =>
    -- a segment is the one that starts on this line, or comes from a later line
    have later {b : Bool} {n : Nat} {r : List Char}
        (h : s ∈ fromLines false b n (line + 1) r pieces) : line ≤ s.line := by
      have := ih h; omega
    have here {kind : SegmentKind} {text : List Char} {last : Int} {b : Bool} {n : Nat}
        {r : List Char}
        (h : s ∈ ⟨kind, text, line, last⟩ :: fromLines false b n (line + 1) r pieces) :
        line ≤ s.line := by
      rcases List.mem_cons.1 h with rfl | h
      · exact Int.le_refl _
      · exact later h
    simp only [fromLines] at h
    split at h
    · exact later h
    · split at h
      · exact here h
      · split at h
        · exact here h
        · split at h
          · exact later h
          · exact here h
        all_goals exact here h

end Segment

theorem segments_line {text : List Char} {line : Int} {s : Segment} (h : s ∈ segments text line) :
    line ≤ s.line :=
  Segment.fromLines_line h

namespace Attribution

/-- A signature as it is handed over for reading: its text and the line it starts on. -/
structure SigText where
  text : String
  line : Int
  deriving DecidableEq, Repr

/-- The signature that the text is read as, if it can be read. -/
def SigText.signature? (t : SigText) : Option Signature :=
  (Signature.parse t.text t.line).result.toOption

/-- The signature with its line, as it waits in a scope. -/
def SigText.pending? (t : SigText) : Option PendingSig := t.signature?.map fun sig => ⟨sig, t.line⟩

def sigTexts (segs : List Segment) : List SigText :=
  segs.filterMap fun s => if s.kind = .sig then some ⟨String.ofList s.text, s.line⟩ else none

/-- The signatures of a text that starts on a line. -/
def sigsIn (text : String) (line : Int) : List SigText := sigTexts (segments text.toList line)

/-- How many of the diagnostics are of a kind. -/
def tally (kind : DiagnosticKind) (ds : List Diagnostic) : Nat := ds.countP (·.kind == kind)

@[simp] theorem tally_append (kind : DiagnosticKind) (ds es : List Diagnostic) :
    tally kind (ds ++ es) = tally kind ds + tally kind es :=
  List.countP_append

@[simp] theorem tally_unclosedProcs_malformed (file : Option String) (line : Int)
    (notes : List UnclosedProc) :
    tally .malformedSignature (unclosedProcs file line notes) = 0 := by
  simp [tally, unclosedProcs, List.countP_eq_zero]

@[simp] theorem tally_unclosedProcs_unmatched (file : Option String) (line : Int)
    (notes : List UnclosedProc) :
    tally .unmatchedSignature (unclosedProcs file line notes) = 0 := by
  simp [tally, unclosedProcs, List.countP_eq_zero]

@[simp] theorem tally_unclaimed_malformed (file : Option String) (reason : String)
    (pending : List PendingSig) :
    tally .malformedSignature (unclaimed file reason pending) = 0 := by
  simp [tally, unclaimed, List.countP_eq_zero]

@[simp] theorem tally_unclaimed_unmatched (file : Option String) (reason : String)
    (pending : List PendingSig) :
    tally .unmatchedSignature (unclaimed file reason pending) = pending.length := by
  simp [tally, unclaimed]

/-- The diagnostics `ds` answer for signatures handed over: one that is malformed for each that
cannot be read, and none that is unmatched. -/
structure Answers (ds : List Diagnostic) (handed : List SigText) : Prop where
  malformed : tally .malformedSignature ds + (handed.filterMap SigText.pending?).length
    = handed.length
  unmatched : tally .unmatchedSignature ds = 0

theorem Answers.nil : Answers [] [] := ⟨rfl, rfl⟩

theorem Answers.append {ds es : List Diagnostic} {hs ks : List SigText} (h : Answers ds hs)
    (k : Answers es ks) : Answers (ds ++ es) (hs ++ ks) := by
  have := h.malformed; have := k.malformed
  refine ⟨?_, by simp [h.unmatched, k.unmatched]⟩
  simp only [tally_append, List.filterMap_append, List.length_append]
  omega

/-- The diagnostics of reading the signature: its open procedure types, and what is wrong with it if
it cannot be read. -/
def SigText.notes (file : Option String) (t : SigText) : List Diagnostic :=
  unclosedProcs file t.line (Signature.parse t.text t.line).notes ++
    match (Signature.parse t.text t.line).result with
    | .error (.malformed fault) => [Attribution.malformed file t.line fault]
    | .error (.lineBelowOne _) | .ok _ => []

theorem SigText.answers (file : Option String) {t : SigText} (hl : 1 ≤ t.line) :
    Answers (t.notes file) [t] := by
  unfold SigText.notes
  cases hr : (Signature.parse t.text t.line).result with
  | ok sig =>
    have hp : t.pending? = some ⟨sig, t.line⟩ := by
      simp [SigText.pending?, SigText.signature?, hr, Except.toOption]
    exact ⟨by simp [hp], by simp⟩
  | error e =>
    have hp : t.pending? = none := by
      simp [SigText.pending?, SigText.signature?, hr, Except.toOption]
    cases e with
    | malformed fault =>
      dsimp only
      refine ⟨?_, ?_⟩
      · rw [tally_append, tally_unclosedProcs_malformed]
        simp [hp, tally, Attribution.malformed]
      · rw [tally_append, tally_unclosedProcs_unmatched]
        simp [tally, Attribution.malformed]
    | lineBelowOne span => exact absurd hr (Signature.parse_ne_lineBelowOne t.text hl span)

/-- A signature handed over waits if it can be read, and is reported if not. -/
theorem addSignature_eq (file : Option String) (scope : Scope) (text : String) {line : Int}
    (hl : 1 ≤ line) : addSignature file scope text line =
      .ok ({ scope with pending := scope.pending ++ (SigText.pending? ⟨text, line⟩).toList },
        SigText.notes file ⟨text, line⟩) := by
  unfold SigText.notes
  cases hr : (Signature.parse text line).result with
  | ok sig =>
    have hp : SigText.pending? ⟨text, line⟩ = some ⟨sig, line⟩ := by
      simp [SigText.pending?, SigText.signature?, hr, Except.toOption]
    simp [addSignature, hr, hp]
  | error e =>
    have hp : SigText.pending? ⟨text, line⟩ = none := by
      simp [SigText.pending?, SigText.signature?, hr, Except.toOption]
    cases e with
    | malformed fault => simp [addSignature, hr, hp]
    | lineBelowOne span => exact absurd hr (Signature.parse_ne_lineBelowOne text hl span)

theorem addSignature_spec (file : Option String) (scope : Scope) (text : String) {line : Int}
    (hl : 1 ≤ line) :
    ∃ more, Answers more [⟨text, line⟩] ∧ addSignature file scope text line =
      .ok ({ scope with pending := scope.pending ++ (SigText.pending? ⟨text, line⟩).toList },
        more) :=
  ⟨_, SigText.answers file hl, addSignature_eq file scope text hl⟩

theorem sigTexts_cons (s : Segment) (segs : List Segment) :
    sigTexts (s :: segs) =
      (if s.kind = .sig then [⟨String.ofList s.text, s.line⟩] else []) ++ sigTexts segs := by
  unfold sigTexts
  rw [List.filterMap_cons]
  by_cases h : s.kind = .sig <;> simp [h]

/-- Segments are read to their end. Their signatures wait behind the others or are reported. -/
theorem absorbSegments_eq (file : Option String) (segs : List Segment)
    (hl : ∀ s ∈ segs, 1 ≤ s.line) (scope : Scope) (found : List Diagnostic) (run : List String) :
    ∃ docRuns ending, absorbSegments file scope found run segs =
      ⟨⟨scope.pending ++ (sigTexts segs).filterMap SigText.pending?, docRuns⟩,
        found ++ (sigTexts segs).flatMap (SigText.notes file), .ok ending⟩ := by
  induction segs generalizing scope found run with
  | nil => exact ⟨scope.docRuns, run, by simp [absorbSegments, sigTexts]⟩
  | cons s segs ih =>
    have hrest : ∀ t ∈ segs, 1 ≤ t.line := fun t ht => hl t (List.mem_cons_of_mem _ ht)
    rw [sigTexts_cons]
    cases hk : s.kind with
    | sig =>
      -- the comment lines before the signature change the scope's comments only
      let commented : Scope :=
        if run.isEmpty then scope else { scope with docRuns := scope.docRuns ++ [joinRun run] }
      have hc : commented.pending = scope.pending := by
        simp only [commented]; split <;> rfl
      have hadd := addSignature_eq file commented (String.ofList s.text) (hl s List.mem_cons_self)
      obtain ⟨docRuns, ending, hothers⟩ := ih hrest
        { commented with pending := commented.pending ++
            (SigText.pending? ⟨String.ofList s.text, s.line⟩).toList }
        (found ++ SigText.notes file ⟨String.ofList s.text, s.line⟩) []
      refine ⟨docRuns, ending, ?_⟩
      have h : absorbSegments file scope found run (s :: segs) =
          absorbSegments file { commented with pending := commented.pending ++
            (SigText.pending? ⟨String.ofList s.text, s.line⟩).toList }
            (found ++ SigText.notes file ⟨String.ofList s.text, s.line⟩) [] segs := by
        simp only [absorbSegments, hk]
        rw [hadd]
      rw [h, hothers, hc]
      cases hp : SigText.pending? ⟨String.ofList s.text, s.line⟩ <;> simp [hp]
    | comment =>
      simpa [absorbSegments, hk] using ih hrest scope found _
    | blank =>
      simpa [absorbSegments, hk] using ih hrest scope found _
    | code =>
      simpa [absorbSegments, hk] using ih hrest scope found _

theorem answers_notes (file : Option String) {handed : List SigText}
    (hl : ∀ t ∈ handed, 1 ≤ t.line) : Answers (handed.flatMap (SigText.notes file)) handed := by
  induction handed with
  | nil => exact .nil
  | cons t handed ih =>
    rw [List.forall_mem_cons] at hl
    exact (SigText.answers file hl.1).append (ih hl.2)

theorem sigTexts_line {segs : List Segment} {t : SigText} (h : t ∈ sigTexts segs) :
    ∃ s ∈ segs, t.line = s.line := by
  obtain ⟨s, hs, ht⟩ := List.mem_filterMap.1 h
  split at ht
  · exact ⟨s, hs, by rw [← Option.some.inj ht]⟩
  · cases ht

theorem absorbSegments_spec (file : Option String) (segs : List Segment)
    (hl : ∀ s ∈ segs, 1 ≤ s.line) (scope : Scope) (found : List Diagnostic) (run : List String) :
    ∃ more docRuns ending, Answers more (sigTexts segs) ∧
      absorbSegments file scope found run segs =
        ⟨⟨scope.pending ++ (sigTexts segs).filterMap SigText.pending?, docRuns⟩, found ++ more,
          .ok ending⟩ := by
  obtain ⟨docRuns, ending, h⟩ := absorbSegments_eq file segs hl scope found run
  refine ⟨_, docRuns, ending, answers_notes file fun t ht => ?_, h⟩
  obtain ⟨s, hs, hline⟩ := sigTexts_line ht
  exact hline ▸ hl s hs

/-! ## The innermost scope takes signatures in -/

/-- The state `b` is `a` after its innermost scope took in the signatures `handed`. -/
structure Took (a b : Attribution) (handed : List SigText) : Prop where
  file : b.file = a.file
  outer : b.outer = a.outer
  pending : b.current.pending = a.current.pending ++ handed.filterMap SigText.pending?
  diagnostics : ∃ more, Answers more handed ∧ b.diagnostics = a.diagnostics ++ more

theorem Took.trans {a b c : Attribution} {hs ks : List SigText} (h : Took a b hs)
    (k : Took b c ks) : Took a c (hs ++ ks) := by
  obtain ⟨m₁, a₁, e₁⟩ := h.diagnostics
  obtain ⟨m₂, a₂, e₂⟩ := k.diagnostics
  refine ⟨k.file.trans h.file, k.outer.trans h.outer, ?_, m₁ ++ m₂, a₁.append a₂, ?_⟩
  · rw [k.pending, h.pending, List.filterMap_append, List.append_assoc]
  · rw [e₂, e₁, List.append_assoc]

/-- A text that starts on line 1 or later is read into the innermost scope to its end. -/
theorem absorb_took (a : Attribution) (text : String) {line : Int} (hl : 1 ≤ line) :
    ∃ b run, Took a b (sigsIn text line) ∧ a.absorb text line = (b, .ok run) := by
  obtain ⟨more, docRuns, ending, ha, he⟩ := absorbSegments_spec a.file (segments text.toList line)
    (fun s hs => Int.le_trans hl (segments_line hs)) a.current [] []
  refine ⟨_, joinRun ending, ?_, by simp only [absorb, he]; rfl⟩
  exact ⟨rfl, rfl, rfl, more, ha, rfl⟩

theorem feed_took (a : Attribution) (text : String) {line : Int} (hl : 1 ≤ line) :
    ∃ b, Took a b (sigsIn text line) ∧ a.feed text line = (b, .ok ()) := by
  obtain ⟨b, run, hb, h⟩ := a.absorb_took text hl
  exact ⟨b, hb, by simp [feed, h]⟩

theorem closeScope_took (a : Attribution) (text : String) {line : Int} (hl : 1 ≤ line) :
    ∃ b, Took a b (sigsIn text line) ∧ a.closeScope text line = (b.leaveScope, .ok ()) := by
  obtain ⟨b, run, hb, h⟩ := a.absorb_took text hl
  exact ⟨b, hb, by simp [closeScope, h]⟩

/-- The state after all bodies inside the outermost one are left. -/
def leaveInner (a : Attribution) : Attribution := a.outer.foldl (fun a _ => a.leaveScope) a

/-- What leaving one body keeps, leaving all inner bodies keeps. -/
theorem leaveInner_induction {P : Attribution → Prop} {a : Attribution} (h : P a)
    (hstep : ∀ b, P b → P b.leaveScope) : P a.leaveInner :=
  List.foldlRecOn a.outer _ h fun b hb _ _ => hstep b hb

theorem finish_took (a : Attribution) (text : String) {line : Int} (hl : 1 ≤ line) :
    ∃ b, Took a.leaveInner b (sigsIn text line) ∧ a.finish text line = (b.leaveScope, .ok ()) :=
  a.leaveInner.closeScope_took text hl

theorem declareSignature_took (a : Attribution) (d : Declaration) (run : String)
    (hl : 1 ≤ d.line) :
    ∃ b, Took a b [⟨d.source, d.line⟩] ∧ a.declareSignature d run = (b, .ok none) := by
  obtain ⟨more, ha, h⟩ := addSignature_spec a.file
    { a.current with docRuns := withRun a.current.docRuns run } d.source hl
  refine ⟨_, ?_, by simp only [declareSignature, h]; rfl⟩
  refine ⟨rfl, rfl, ?_, more, ha, rfl⟩
  cases hp : SigText.pending? ⟨d.source, d.line⟩ <;> simp [hp]

/-- The signatures that a declaration hands over: those in the text before it, and a signature block
itself. -/
def handedBy (d : Declaration) : List SigText :=
  sigsIn d.precedingText d.precedingLine ++
    if d.kind = .signature then [⟨d.source, d.line⟩] else []

/-- A declaration first takes in what it hands over; then, unless it is a signature block, it claims
what it finds. -/
theorem declare_took (a : Attribution) (d : Declaration) (hp : 1 ≤ d.precedingLine)
    (hl : 1 ≤ d.line) :
    ∃ b run, Took a b (handedBy d) ∧ a.declare d =
      if d.kind = .signature then (b, .ok none)
      else ((b.claim d run).1, .ok (some (b.claim d run).2)) := by
  obtain ⟨b, run, hb, h⟩ := a.absorb_took d.precedingText hp
  by_cases hk : d.kind = .signature
  · obtain ⟨c, hc, he⟩ := b.declareSignature_took d run hl
    refine ⟨c, run, ?_, by simp [declare, h, hk, he]⟩
    simpa [handedBy, hk] using hb.trans hc
  · refine ⟨b, run, ?_, by simp [declare, h, hk]⟩
    simpa [handedBy, hk] using hb

end Attribution

end TypeTags
